import RelicRace.Account.GameEvents
import RelicRace.Account.Store

/-!
A signed-in user's document and its three writers: the rewarded ads, the
single-player game and the store. `getDocument` takes two events, the snapshot
and the completion; `setData` replaces the whole document.
-/

namespace RelicRace
open Library

/-- A screen that reads the document once. A pending request is `some none`
    before its snapshot is taken and `some (some snapshot)` after. -/
structure Reader (Screen : Type) where
  screen : Screen
  read : Option (Option Document) := some none
  loaded : Bool := false

namespace Reader
variable {Screen : Type}

def take (document : Document) (reader : Reader Screen) : Reader Screen :=
  { reader with read := reader.read.map fun _ => some document }

/-- The completion of the request; without a snapshot it is still to come. -/
def complete (load : Screen → Document → Screen) (reader : Reader Screen) : Reader Screen :=
  match reader.read with
  | some (some snapshot) =>
      { screen := load reader.screen snapshot, read := none, loaded := true }
  | _ => reader

/-- What a load preserves of the screen, the completion of a request preserves. -/
theorem complete_keeps (load : Screen → Document → Screen) (keeps : Screen → Prop)
    (loads : ∀ screen snapshot, keeps screen → keeps (load screen snapshot))
    (reader : Reader Screen) (kept : keeps reader.screen) :
    keeps (reader.complete load).screen := by
  rw [complete]
  split
  · exact loads _ _ kept
  · exact kept

theorem complete_signed_in (reader : Reader AIGameScene) :
    (reader.complete AIGameScene.loaded).screen.signedIn = reader.screen.signedIn :=
  complete_keeps AIGameScene.loaded (fun game => game.signedIn = reader.screen.signedIn)
    (fun _ _ same => same) reader rfl

/-- The completion with an error. -/
def fail (reader : Reader Screen) : Reader Screen := { reader with read := none }

def idle (reader : Reader Screen) : Bool := reader.read.isNone

end Reader

/-- A call of `setData` with the document it replaces. -/
structure Write where
  replaced : Document
  data : Document

def AIGameScene.forget (game : AIGameScene) : AIGameScene := { game with stored := [] }

def StoreViewController.forget (store : StoreViewController) : StoreViewController :=
  { store with stored := [] }

/-- `rewards` holds the pending requests of the rewards. The last five fields
    count: rewards, relics collected, relics spent, relics collected in the open
    game since its last write, and those of games left without a write. -/
structure World where
  document : Document
  writes : List Write := []
  rewards : List (Option Document) := []
  game : Option (Reader AIGameScene) := none
  store : Option (Reader StoreViewController) := none
  rewarded : Int := 0
  collected : Int := 0
  spent : Int := 0
  unsaved : Int := 0
  abandoned : Int := 0

inductive WorldEvent where
  | reward
  | readReward (index : Nat)
  | completeReward (index : Nat)
  | openGame (difficulty : Difficulty) (trophy : MapPlace) (monsters : List String)
  | readGame
  | completeGame
  | failGame
  | game (event : GameEvent)
  | openStore
  | readStore
  | completeStore
  | failStore
  | leaveStore
  | store (event : StoreEvent)

namespace World

def setData (data : Document) (world : World) : World :=
  { world with document := data, writes := ⟨world.document, data⟩ :: world.writes }

/-- The calls of `setData` that a screen makes in one event, newest first. -/
def flush (stored : List Document) (world : World) : World := stored.foldr setData world

/-- The completion of `didRewardUserWith`. -/
def completeReward (index : Nat) (world : World) : World :=
  match world.rewards[index]? with
  | some (some snapshot) =>
      let curRelics := snapshot.int "currency"
      let uData := snapshot.set "currency" (.number (curRelics + 10))
      { world.setData uData with rewards := world.rewards.eraseIdx index }
  | _ => world

/-- The game after an event, and the counts. -/
def showGame (event : GameEvent) (reader : Reader AIGameScene) (world : World) : World :=
  let gain := event.gain reader.screen
  let unsaved := if event.Writes reader.screen then 0 else world.unsaved + gain
  let world := { world with collected := world.collected + gain }
  if event.leaves then
    { world with game := none, unsaved := 0, abandoned := world.abandoned + unsaved }
  else
    { world with
      game := some { reader with screen := event.apply reader.screen.forget }
      unsaved }

def gameEvent (event : GameEvent) (world : World) : World :=
  match world.game with
  | some reader => (world.showGame event reader).flush (event.apply reader.screen.forget).stored
  | none => world

/-- The store after an event, and the relics spent. -/
def showStore (event : StoreEvent) (reader : Reader StoreViewController) (world : World) :
    World :=
  { world with
    store := some { reader with screen := event.apply reader.screen.forget }
    spent := world.spent + event.price reader.screen }

def storeEvent (event : StoreEvent) (world : World) : World :=
  match world.store with
  | some reader => (world.showStore event reader).flush (event.apply reader.screen.forget).stored
  | none => world

/-- An event that cannot happen changes nothing. -/
def step (world : World) : WorldEvent → World
  | .reward => { world with
      rewards := world.rewards ++ [none], rewarded := world.rewarded + 1 }
  | .readReward index => { world with rewards := world.rewards.set index (some world.document) }
  | .completeReward index => world.completeReward index
  -- One screen of a kind at a time; its request starts with it.
  | .openGame difficulty trophy monsters =>
      if world.game.isNone then
        { world with game := some { screen := AIGameScene.start true difficulty trophy monsters } }
      else world
  | .readGame => { world with game := world.game.map (Reader.take world.document) }
  | .completeGame => { world with game := world.game.map (Reader.complete AIGameScene.loaded) }
  | .failGame => { world with game := world.game.map Reader.fail }
  | .game event => world.gameEvent event
  | .openStore =>
      if world.store.isNone then
        { world with store := some { screen := { currentUser := .signedIn } } }
      else world
  | .readStore => { world with store := world.store.map (Reader.take world.document) }
  | .completeStore =>
      { world with store := world.store.map (Reader.complete StoreViewController.loaded) }
  | .failStore => { world with store := world.store.map Reader.fail }
  | .leaveStore => { world with store := none }
  | .store event => world.storeEvent event

def start (document : Document) : World := { document }

/-! ### The writes of one event -/

section Shown
variable (event : GameEvent) (reader : Reader AIGameScene) (world : World)

@[simp] theorem show_game_document : (world.showGame event reader).document = world.document := by
  rw [showGame]
  split <;> rfl

@[simp] theorem show_game_writes : (world.showGame event reader).writes = world.writes := by
  rw [showGame]
  split <;> rfl

@[simp] theorem show_game_rewards : (world.showGame event reader).rewards = world.rewards := by
  rw [showGame]
  split <;> rfl

@[simp] theorem show_game_store : (world.showGame event reader).store = world.store := by
  rw [showGame]
  split <;> rfl

@[simp] theorem show_game_counts : (world.showGame event reader).rewarded = world.rewarded ∧
    (world.showGame event reader).spent = world.spent ∧
    (world.showGame event reader).collected = world.collected + event.gain reader.screen := by
  rw [showGame]
  split <;> exact ⟨rfl, rfl, rfl⟩

/-- The relics that no write has saved yet. -/
theorem show_game_unsaved : (world.showGame event reader).unsaved +
      (world.showGame event reader).abandoned =
    (if event.Writes reader.screen then 0 else world.unsaved + event.gain reader.screen) +
      world.abandoned := by
  rw [showGame]
  split
  · simp only [zero_add]
    exact add_comm _ _
  · rfl

/-- The screen that is still open after an event. -/
theorem show_game_game (next : Reader AIGameScene)
    (shown : next ∈ (world.showGame event reader).game) :
    next = { reader with screen := event.apply reader.screen.forget } := by
  rw [showGame] at shown
  split at shown
  · cases shown
  · exact (Option.some.inj shown).symm

end Shown

theorem forget_writes (event : GameEvent) (game : AIGameScene) :
    event.Writes game.forget ↔ event.Writes game := by
  cases event with
  | scene step => cases step <;> exact Iff.rfl
  | _ => exact Iff.rfl

/-- What an event of the game writes. -/
theorem game_stored (event : GameEvent) (game : AIGameScene) (user : game.signedIn = true) :
    ∃ count, (event.apply game.forget).stored =
        List.replicate count (event.apply game.forget).allUserData ∧
      (0 < count ↔ event.Writes game) := by
  obtain ⟨count, stored, positive⟩ := (AIGameScene.event_effect game.forget event).stored
  refine ⟨count, by simpa [AIGameScene.forget] using stored, positive.trans ?_⟩
  rw [forget_writes]
  exact and_iff_right user

theorem store_stored (event : StoreEvent) (store : StoreViewController) :
    (event.apply store.forget).stored =
      List.replicate (event.writes store) (event.apply store.forget).userData := by
  have stored := (StoreViewController.event_caches store.forget event).stored
  have same : event.writes store.forget = event.writes store := by cases event <;> rfl
  rw [same] at stored
  simpa [StoreViewController.forget] using stored

def logged (document : Document) : List Document → List Write
  | [] => []
  | data :: earlier => ⟨earlier.head?.getD document, data⟩ :: logged document earlier

theorem flush_eq (stored : List Document) (world : World) : world.flush stored = { world with
    document := stored.head?.getD world.document
    writes := logged world.document stored ++ world.writes } := by
  induction stored with
  | nil => rfl
  | cons data earlier ih =>
      rw [flush] at ih ⊢
      rw [List.foldr_cons, ih]
      rfl

/-- What a screen writes of its cached document in one event. -/
theorem flush_written (data : Document) (world : World) (count : Nat) (written : 0 < count) :
    (world.flush (List.replicate count data)).document = data := by
  obtain ⟨count, rfl⟩ := Nat.exists_eq_succ_of_ne_zero written.ne'
  rw [flush_eq]
  rfl

theorem flush_silent (data : Document) (world : World) :
    world.flush (List.replicate 0 data) = world := rfl

/-- The first of several writes replaces the document, the others their own data. -/
theorem logged_replicate (document data : Document) (count : Nat) (write : Write) :
    write ∈ logged document (List.replicate count data) ↔
      (write = ⟨document, data⟩ ∧ 0 < count) ∨ (write = ⟨data, data⟩ ∧ 1 < count) := by
  induction count with
  | zero => simp [logged]
  | succ count ih =>
      rw [List.replicate_succ, logged, List.mem_cons, ih]
      cases count with
      | zero => simp
      | succ count =>
          simp [List.replicate_succ]
          tauto

end World
end RelicRace
