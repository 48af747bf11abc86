import RelicRace.Account.World

/-!
No write erases profile data: a write keeps every field of the document it
replaces exactly when it comes after the screen's own load. The cached document
of a screen that has not loaded has no "email".
-/

namespace RelicRace
open Library

/-- What `signUp` writes for a new user. -/
def signUp (email username : String) : Document :=
  ((((((((Document.empty.set "email" (.text email)).set "name" (.text username)).set
    "currency" (.number 0)).set "easyTime" (.numbers [])).set "hardTime" (.numbers [])).set
    "impossibleTime" (.numbers [])).set "skins" (.texts ["oldMan"])).set
    "currentlyEquipped" (.text "oldMan"))

/-- A user's document with at least the fields that `signUp` writes. -/
structure Profile where
  document : Document
  complete : ∀ field ∈ Document.profileFields, document.Has field

def Profile.new (email username : String) : Profile where
  document := signUp email username
  complete := by
    intro field listed
    simp only [signUp, Document.has_set]
    simp only [Document.profileFields, List.mem_cons, List.not_mem_nil, or_false] at listed
    tauto

def Write.Keeps (write : Write) : Prop :=
  ∀ field, write.replaced.Has field → write.data.Has field

def World.KeepsFields (world : World) : Prop := ∀ write ∈ world.writes, write.Keeps

/-- A screen's event that writes comes after the load has completed. -/
def World.LoadedFirst (world : World) : WorldEvent → Prop
  | .game event => ∀ reader ∈ world.game, event.Writes reader.screen → reader.loaded = true
  | .store event => ∀ reader ∈ world.store, 0 < event.writes reader.screen → reader.loaded = true
  | _ => True

instance (world : World) : (event : WorldEvent) → Decidable (world.LoadedFirst event)
  | .game event => inferInstanceAs
      (Decidable (∀ reader ∈ world.game, event.Writes reader.screen → reader.loaded = true))
  | .store event => inferInstanceAs
      (Decidable (∀ reader ∈ world.store, 0 < event.writes reader.screen → reader.loaded = true))
  | .reward | .readReward _ | .completeReward _ | .openGame _ _ _ | .readGame | .completeGame
  | .failGame | .openStore | .readStore | .completeStore | .failStore | .leaveStore =>
      inferInstanceAs (Decidable True)

/-! ### The cached documents -/

def SameFields (initial document : Document) : Prop :=
  ∀ field, document.Has field ↔ initial.Has field

/-- What the fields of a screen's cached document are, before the load and after. -/
structure Reader.Sound {Screen : Type} (cache : Screen → Document) (initial : Document)
    (reader : Reader Screen) : Prop where
  read : ∀ snapshot, reader.read = some (some snapshot) → SameFields initial snapshot
  loaded : reader.loaded = true → SameFields initial (cache reader.screen)
  unloaded : reader.loaded = false → ¬ (cache reader.screen).Has "email"

namespace Reader
variable {Screen : Type} {cache : Screen → Document} {initial : Document} {reader : Reader Screen}

theorem Sound.take (sound : reader.Sound cache initial) (document : Document)
    (same : SameFields initial document) : (reader.take document).Sound cache initial := by
  refine ⟨?_, sound.loaded, sound.unloaded⟩
  intro snapshot pending
  cases requested : reader.read with
  | none => simp [Reader.take, requested] at pending
  | some earlier =>
      simp only [Reader.take, requested, Option.map_some, Option.some.injEq] at pending
      exact pending ▸ same

theorem Sound.complete (sound : reader.Sound cache initial) (load : Screen → Document → Screen)
    (fills : ∀ screen document, cache (load screen document) = document) :
    (reader.complete load).Sound cache initial := by
  rw [Reader.complete]
  split
  · rename_i snapshot pending
    refine ⟨by simp, ?_, by simp⟩
    intro _
    rw [fills]
    exact sound.read snapshot pending
  · exact sound

theorem Sound.fail (sound : reader.Sound cache initial) : reader.fail.Sound cache initial :=
  ⟨by simp [Reader.fail], sound.loaded, sound.unloaded⟩

/-- An event of the screen adds to its cached document profile fields at most. -/
theorem Sound.event (sound : reader.Sound cache initial) (screen : Screen) (fields : List String)
    (complete : ∀ field ∈ fields, initial.Has field) (other : "email" ∉ fields)
    (keeps : ∀ field, (cache reader.screen).Has field → (cache screen).Has field)
    (adds : ∀ field, (cache screen).Has field →
      (cache reader.screen).Has field ∨ field ∈ fields) :
    Sound cache initial { reader with screen := screen } := by
  refine ⟨sound.read, ?_, ?_⟩
  · intro loaded field
    constructor
    · intro present
      rcases adds field present with earlier | added
      · exact (sound.loaded loaded field).mp earlier
      · exact complete field added
    · intro present
      exact keeps field ((sound.loaded loaded field).mpr present)
  -- Only the load brings "email" in.
  · intro unloaded present
    rcases adds "email" present with earlier | added
    · exact sound.unloaded unloaded earlier
    · exact other added

end Reader

/-- The fields of the document, of the snapshots and of the cached documents. -/
structure FieldsKept (initial : Document) (world : World) : Prop where
  document : SameFields initial world.document
  writes : world.KeepsFields
  rewards : ∀ snapshot, some snapshot ∈ world.rewards → SameFields initial snapshot
  game : ∀ reader ∈ world.game,
    reader.Sound AIGameScene.allUserData initial ∧ reader.screen.signedIn = true
  store : ∀ reader ∈ world.store, reader.Sound StoreViewController.userData initial

namespace World
variable {initial : Document} {world : World}

/-! ### The writes of an event -/

theorem keeps_flush (world : World) (data : Document) (count : Nat)
    (full : SameFields initial world.document) (kept : world.KeepsFields)
    (cached : 0 < count → SameFields initial data) :
    SameFields initial (world.flush (List.replicate count data)).document ∧
      (world.flush (List.replicate count data)).KeepsFields := by
  rcases Nat.eq_zero_or_pos count with rfl | written
  · exact ⟨full, kept⟩
  · refine ⟨by rw [flush_written data world count written]; exact cached written, ?_⟩
    intro write listed
    rw [flush_eq, List.mem_append, logged_replicate] at listed
    rcases listed with (⟨rfl, -⟩ | ⟨rfl, -⟩) | earlier
    · intro field present
      exact (cached written field).mpr ((full field).mp present)
    · exact fun field present => present
    · exact kept write earlier

/-- A write without "email" erases it. -/
theorem flush_erases (world : World) (data : Document) (count : Nat)
    (full : SameFields initial world.document) (email : initial.Has "email")
    (erased : ¬ data.Has "email") (written : 0 < count) :
    ¬ (world.flush (List.replicate count data)).KeepsFields := by
  intro kept
  have listed : (⟨world.document, data⟩ : Write) ∈
      (world.flush (List.replicate count data)).writes := by
    rw [flush_eq, List.mem_append, logged_replicate]
    exact Or.inl (Or.inl ⟨rfl, written⟩)
  exact erased (kept _ listed "email" ((full "email").mpr email))

/-! ### The events of the screens -/

theorem game_event_kept (kept : FieldsKept initial world)
    (complete : ∀ field ∈ Document.profileFields, initial.Has field) (event : GameEvent) :
    ((world.gameEvent event).KeepsFields ↔ world.LoadedFirst (.game event)) ∧
      (world.LoadedFirst (.game event) → FieldsKept initial (world.gameEvent event)) := by
  cases opened : world.game with
  | none =>
      simp only [gameEvent, LoadedFirst, opened]
      exact ⟨iff_of_true kept.writes (by simp), fun _ => kept⟩
  | some reader =>
      obtain ⟨sound, user⟩ := kept.game reader opened
      obtain ⟨count, stored, positive⟩ := game_stored event reader.screen user
      have effect := AIGameScene.event_effect reader.screen.forget event
      have after := sound.event (event.apply reader.screen.forget) AIGameScene.fields
        (fun field added => complete field (by revert field; decide)) (by decide)
        effect.keeps effect.adds
      simp only [gameEvent, LoadedFirst, opened, Option.mem_some_iff, forall_eq', stored]
      have document : SameFields initial (world.showGame event reader).document := by
        rw [show_game_document]
        exact kept.document
      have writes : (world.showGame event reader).KeepsFields := by
        rw [KeepsFields, show_game_writes]
        exact kept.writes
      have fine (loaded : event.Writes reader.screen → reader.loaded = true) :=
        keeps_flush (world.showGame event reader) (event.apply reader.screen.forget).allUserData
          count document writes fun written => after.loaded (loaded (positive.mp written))
      refine ⟨⟨?_, fun loaded => (fine loaded).2⟩, ?_⟩
      -- A write of the unloaded document lacks "email", which the replaced one has.
      · intro all written
        by_contra unloaded
        exact flush_erases (world.showGame event reader) _ _ document
          (complete "email" (by decide)) (after.unloaded (by simpa using unloaded))
          (positive.mpr written) all
      · intro loaded
        refine ⟨(fine loaded).1, (fine loaded).2, ?_, ?_, ?_⟩
        · simpa [flush_eq] using kept.rewards
        · intro next shown
          rw [flush_eq] at shown
          rw [show_game_game event reader world next shown]
          exact ⟨after, effect.signedIn.trans user⟩
        · simpa [flush_eq] using kept.store

theorem store_event_kept (kept : FieldsKept initial world)
    (complete : ∀ field ∈ Document.profileFields, initial.Has field) (event : StoreEvent) :
    ((world.storeEvent event).KeepsFields ↔ world.LoadedFirst (.store event)) ∧
      (world.LoadedFirst (.store event) → FieldsKept initial (world.storeEvent event)) := by
  cases opened : world.store with
  | none =>
      simp only [storeEvent, LoadedFirst, opened]
      exact ⟨iff_of_true kept.writes (by simp), fun _ => kept⟩
  | some reader =>
      have sound := kept.store reader opened
      have caches := StoreViewController.event_caches reader.screen.forget event
      have after := sound.event (event.apply reader.screen.forget) StoreViewController.fields
        (fun field added => complete field (by revert field; decide)) (by decide)
        caches.keeps caches.adds
      simp only [storeEvent, LoadedFirst, opened, Option.mem_some_iff, forall_eq',
        store_stored event reader.screen]
      have fine (loaded : 0 < event.writes reader.screen → reader.loaded = true) :=
        keeps_flush (world.showStore event reader) (event.apply reader.screen.forget).userData
          (event.writes reader.screen) kept.document kept.writes
          fun written => after.loaded (loaded written)
      refine ⟨⟨?_, fun loaded => (fine loaded).2⟩, ?_⟩
      · intro all written
        by_contra unloaded
        exact flush_erases (world.showStore event reader) _ _ kept.document
          (complete "email" (by decide)) (after.unloaded (by simpa using unloaded)) written all
      · intro loaded
        refine ⟨(fine loaded).1, (fine loaded).2, ?_, ?_, ?_⟩
        · rw [flush_eq]
          exact kept.rewards
        · rw [flush_eq]
          exact kept.game
        · intro next shown
          rw [flush_eq] at shown
          exact Option.some.inj shown ▸ after

theorem complete_reward_kept (kept : FieldsKept initial world)
    (complete : ∀ field ∈ Document.profileFields, initial.Has field) (index : Nat) :
    FieldsKept initial (world.completeReward index) := by
  rw [completeReward]
  split
  · rename_i snapshot pending
    have same := kept.rewards snapshot (List.mem_of_getElem? pending)
    have added : SameFields initial
        (snapshot.set "currency" (.number (snapshot.int "currency" + 10))) := by
      intro field
      rw [Document.has_set, same field]
      exact or_iff_right_of_imp fun named => named ▸ complete "currency" (by decide)
    refine ⟨added, ?_, ?_, kept.game, kept.store⟩
    · intro write listed
      rcases List.mem_cons.mp listed with rfl | earlier
      · exact fun field present => (added field).mpr ((kept.document field).mp present)
      · exact kept.writes write earlier
    · exact fun snapshot listed => kept.rewards snapshot (List.mem_of_mem_eraseIdx listed)
  · exact kept

/-- A change of the open game, or of the open store, by one of its callbacks. -/
theorem change_game (kept : FieldsKept initial world)
    (change : Reader AIGameScene → Reader AIGameScene)
    (sound : ∀ reader : Reader AIGameScene, reader.Sound AIGameScene.allUserData initial →
      (change reader).Sound AIGameScene.allUserData initial)
    (user : ∀ reader, (change reader).screen.signedIn = reader.screen.signedIn) :
    FieldsKept initial { world with game := world.game.map change } := by
  refine ⟨kept.document, kept.writes, kept.rewards, Option.forall_mem_map.mpr ?_, kept.store⟩
  intro earlier opened
  obtain ⟨before, signedIn⟩ := kept.game earlier opened
  exact ⟨sound earlier before, (user earlier).trans signedIn⟩

theorem change_store (kept : FieldsKept initial world)
    (change : Reader StoreViewController → Reader StoreViewController)
    (sound : ∀ reader : Reader StoreViewController,
      reader.Sound StoreViewController.userData initial →
      (change reader).Sound StoreViewController.userData initial) :
    FieldsKept initial { world with store := world.store.map change } := by
  refine ⟨kept.document, kept.writes, kept.rewards, kept.game, Option.forall_mem_map.mpr ?_⟩
  intro earlier opened
  exact sound earlier (kept.store earlier opened)

theorem open_game_kept (kept : FieldsKept initial world) (difficulty : Difficulty)
    (trophy : MapPlace) (monsters : List String) :
    FieldsKept initial (world.step (.openGame difficulty trophy monsters)) := by
  rw [step]
  split
  · refine ⟨kept.document, kept.writes, kept.rewards, ?_, kept.store⟩
    intro reader opened
    obtain rfl := Option.some.inj opened
    exact ⟨⟨by simp, by simp, fun _ => Document.has_empty "email"⟩, rfl⟩
  · exact kept

theorem open_store_kept (kept : FieldsKept initial world) :
    FieldsKept initial (world.step .openStore) := by
  rw [step]
  split
  · refine ⟨kept.document, kept.writes, kept.rewards, kept.game, ?_⟩
    intro reader opened
    obtain rfl := Option.some.inj opened
    exact ⟨by simp, by simp, fun _ => Document.has_empty "email"⟩
  · exact kept

/-- What one event does to the fields. -/
theorem step_kept (world : World) (event : WorldEvent) (kept : FieldsKept initial world)
    (complete : ∀ field ∈ Document.profileFields, initial.Has field) :
    ((world.step event).KeepsFields ↔ world.LoadedFirst event) ∧
      (world.LoadedFirst event → FieldsKept initial (world.step event)) := by
  -- An event that no screen writes in meets its guard and keeps the fields.
  have free (after : FieldsKept initial (world.step event)) (none : world.LoadedFirst event) :
      ((world.step event).KeepsFields ↔ world.LoadedFirst event) ∧
        (world.LoadedFirst event → FieldsKept initial (world.step event)) :=
    ⟨iff_of_true after.writes none, fun _ => after⟩
  cases event with
  | reward =>
      refine free ⟨kept.document, kept.writes, ?_, kept.game, kept.store⟩ trivial
      intro snapshot listed
      exact kept.rewards snapshot (by simpa [step] using listed)
  | readReward index =>
      refine free ⟨kept.document, kept.writes, ?_, kept.game, kept.store⟩ trivial
      intro snapshot listed
      rcases List.mem_or_eq_of_mem_set listed with earlier | taken
      · exact kept.rewards snapshot earlier
      · exact Option.some.inj taken ▸ kept.document
  | completeReward index => exact free (complete_reward_kept kept complete index) trivial
  | openGame difficulty trophy monsters =>
      exact free (open_game_kept kept difficulty trophy monsters) trivial
  | readGame =>
      exact free (change_game kept _ (fun _ sound => sound.take _ kept.document) fun _ => rfl)
        trivial
  | completeGame =>
      exact free (change_game kept _ (fun _ sound => sound.complete _ fun _ _ => rfl)
        Reader.complete_signed_in) trivial
  | failGame =>
      exact free (change_game kept _ (fun _ sound => sound.fail) fun _ => rfl) trivial
  | game event => exact game_event_kept kept complete event
  | openStore => exact free (open_store_kept kept) trivial
  | readStore =>
      exact free (change_store kept _ fun _ sound => sound.take _ kept.document) trivial
  | completeStore =>
      exact free (change_store kept _ fun _ sound => sound.complete _ fun store document =>
        (StoreViewController.loaded_data store document).1) trivial
  | failStore => exact free (change_store kept _ fun _ sound => sound.fail) trivial
  | leaveStore =>
      exact free ⟨kept.document, kept.writes, kept.rewards, kept.game, by simp [step]⟩ trivial
  | store event => exact store_event_kept kept complete event

end World

/-- Every write of a run keeps every field of the document it replaces exactly
    when every screen writes after its own load. -/
theorem writes_keep_fields (profile : Profile) (events : List WorldEvent) :
    Runs.Always World.step World.KeepsFields (World.start profile.document) events ↔
      Runs.Meets World.step World.LoadedFirst (World.start profile.document) events := by
  apply Runs.always_iff_meets World.step World.LoadedFirst World.KeepsFields
    (FieldsKept profile.document)
  · exact fun _ kept => kept.writes
  · exact fun world event kept => World.step_kept world event kept profile.complete
  · refine ⟨fun _ => Iff.rfl, ?_, ?_, ?_, ?_⟩
    · simp [World.KeepsFields, World.start]
    · simp [World.start]
    · simp [World.start]
    · simp [World.start]

/-- The tap on "return" before the load erases the whole profile. -/
theorem return_before_load_erases : ¬ ∀ (profile : Profile) (events : List WorldEvent),
    Runs.Always World.step World.KeepsFields (World.start profile.document) events := by
  intro keeps
  have erased := keeps (Profile.new "a@b.c" "Ann")
    [.openGame .Easy playerTile [], .game .tapReturn] 2
    ⟨signUp "a@b.c" "Ann", Document.empty⟩ List.mem_cons_self "email" (by decide)
  exact Document.has_empty "email" erased

end RelicRace
