import RelicRace.Account.Profile

/-!
The ledger of the user's relics. Each writer writes back a cached currency; the
books balance in every run whose writes come from a currency that is up to date.
-/

namespace RelicRace
open Library

namespace World

/-- A write comes from a currency that is up to date: a reward's snapshot and
    the store's count with the document's, the game's with the document's and
    the relics collected since its last write. -/
def UpToDate (world : World) : WorldEvent → Prop
  | .completeReward index => ∀ read ∈ world.rewards[index]?, ∀ snapshot ∈ read,
      Document.int snapshot "currency" = world.document.int "currency"
  | .game event => ∀ reader ∈ world.game, event.Writes reader.screen →
      reader.screen.currency = world.document.int "currency" + world.unsaved
  | .store event => ∀ reader ∈ world.store, 0 < event.writes reader.screen →
      reader.screen.userTrophyCount = world.document.int "currency"
  | _ => True

instance (world : World) : (event : WorldEvent) → Decidable (world.UpToDate event)
  | .completeReward index => inferInstanceAs (Decidable
      (∀ read ∈ world.rewards[index]?, ∀ snapshot ∈ read,
        Document.int snapshot "currency" = world.document.int "currency"))
  | .game event => inferInstanceAs (Decidable (∀ reader ∈ world.game,
      event.Writes reader.screen →
        reader.screen.currency = world.document.int "currency" + world.unsaved))
  | .store event => inferInstanceAs (Decidable (∀ reader ∈ world.store,
      0 < event.writes reader.screen →
        reader.screen.userTrophyCount = world.document.int "currency"))
  | .reward | .readReward _ | .openGame _ _ _ | .readGame | .completeGame
  | .failGame | .openStore | .readStore | .completeStore | .failStore | .leaveStore =>
      inferInstanceAs (Decidable True)

/-- All callbacks have run and the games have stored what was collected. -/
structure Settled (world : World) : Prop where
  rewards : world.rewards = []
  game : ∀ reader ∈ world.game, reader.idle = true
  store : ∀ reader ∈ world.store, reader.idle = true
  unsaved : world.unsaved = 0
  abandoned : world.abandoned = 0

def LedgerBalanced (initial : Int) (world : World) : Prop :=
  world.Settled → world.document.int "currency" =
    initial + 10 * world.rewarded + world.collected - world.spent

/-! ### The ledger before all callbacks have run -/

/-- A pending reward and an unsaved relic are still missing in the document. -/
structure Ledger (initial : Int) (world : World) : Prop where
  balance : world.document.int "currency" + (world.unsaved + world.abandoned) +
      10 * world.rewards.length =
    initial + 10 * world.rewarded + world.collected - world.spent
  game : ∀ reader ∈ world.game, reader.screen.signedIn = true ∧
    reader.screen.currency = reader.screen.allUserData.int "currency"
  store : ∀ reader ∈ world.store,
    reader.screen.userTrophyCount = reader.screen.userData.int "currency"

variable {initial : Int} {world : World}

theorem ledger_balanced (ledger : Ledger initial world) : LedgerBalanced initial world := by
  intro settled
  have balance := ledger.balance
  rw [settled.rewards, settled.unsaved, settled.abandoned] at balance
  simpa using balance

theorem complete_reward_ledger (ledger : Ledger initial world) (index : Nat)
    (fresh : world.UpToDate (.completeReward index)) :
    Ledger initial (world.completeReward index) := by
  rw [completeReward]
  split
  · rename_i snapshot pending
    refine ⟨?_, ledger.game, ledger.store⟩
    have current : snapshot.int "currency" = world.document.int "currency" :=
      fresh (some snapshot) pending snapshot rfl
    have listed : index < world.rewards.length := (List.getElem?_eq_some_iff.mp pending).1
    have shorter : (world.rewards.eraseIdx index).length + 1 = world.rewards.length := by
      rw [List.length_eraseIdx_of_lt listed]
      omega
    have balance := ledger.balance
    simp only [setData, Document.int_set, current]
    omega
  · exact ledger

/-- What an event of the game adds to the document and to the unsaved relics. -/
theorem game_document (ledger : Ledger initial world) (event : GameEvent)
    (reader : Reader AIGameScene) (opened : world.game = some reader)
    (fresh : world.UpToDate (.game event)) :
    ((world.showGame event reader).flush
        (event.apply reader.screen.forget).stored).document.int "currency" +
      (if event.Writes reader.screen then 0 else world.unsaved + event.gain reader.screen) =
    world.document.int "currency" + world.unsaved + event.gain reader.screen := by
  obtain ⟨user, cached⟩ := ledger.game reader opened
  obtain ⟨count, stored, positive⟩ := game_stored event reader.screen user
  have effect := AIGameScene.event_effect reader.screen.forget event
  rw [stored]
  -- A write brings the unsaved relics and the gain into the document at once.
  by_cases written : event.Writes reader.screen
  · have current : reader.screen.currency = world.document.int "currency" + world.unsaved :=
      fresh reader opened written
    have gain : event.gain reader.screen.forget = event.gain reader.screen := by
      cases event with
      | scene step => cases step <;> rfl
      | _ => rfl
    rw [flush_written _ _ _ (positive.mpr written), if_pos written, ← effect.cached cached,
      effect.currency, gain, ← current, add_zero]
    rfl
  · have silent : count = 0 := by
      by_contra some
      exact written (positive.mp (Nat.pos_of_ne_zero some))
    rw [silent, flush_silent, show_game_document, if_neg written, add_assoc]

theorem game_event_ledger (ledger : Ledger initial world) (event : GameEvent)
    (fresh : world.UpToDate (.game event)) : Ledger initial (world.gameEvent event) := by
  rw [gameEvent]
  split
  · rename_i reader opened
    obtain ⟨user, cached⟩ := ledger.game reader opened
    have effect := AIGameScene.event_effect reader.screen.forget event
    refine ⟨?_, ?_, ?_⟩
    · have document := game_document ledger event reader opened fresh
      have unsaved := show_game_unsaved event reader world
      have balance := ledger.balance
      obtain ⟨rewarded, spent, collected⟩ := show_game_counts event reader world
      rw [flush_eq] at document ⊢
      simp only [rewarded, spent, collected, unsaved, show_game_rewards] at document ⊢
      omega
    · intro next shown
      rw [flush_eq] at shown
      rw [show_game_game event reader world next shown]
      exact ⟨effect.signedIn.trans user, effect.cached cached⟩
    · simpa [flush_eq] using ledger.store
  · exact ledger

theorem store_event_ledger (ledger : Ledger initial world) (event : StoreEvent)
    (fresh : world.UpToDate (.store event)) : Ledger initial (world.storeEvent event) := by
  rw [storeEvent]
  split
  · rename_i reader opened
    have cached := ledger.store reader opened
    have caches := StoreViewController.event_caches reader.screen.forget event
    have price : event.price reader.screen.forget = event.price reader.screen := by
      cases event <;> rfl
    refine ⟨?_, ?_, ?_⟩
    · have document : ((world.showStore event reader).flush
          (event.apply reader.screen.forget).stored).document.int "currency" =
          world.document.int "currency" - event.price reader.screen := by
        rw [store_stored event reader.screen]
        rcases Nat.eq_zero_or_pos (event.writes reader.screen) with silent | written
        · rw [silent, flush_silent, event.free reader.screen silent, sub_zero]
          rfl
        · have current : reader.screen.userTrophyCount = world.document.int "currency" :=
            fresh reader opened written
          rw [flush_written _ _ _ written, ← caches.cached cached, caches.currency, price,
            ← current]
          rfl
      have balance := ledger.balance
      rw [flush_eq] at document ⊢
      simp only [showStore] at document ⊢
      omega
    · rw [flush_eq]
      exact ledger.game
    · intro next shown
      rw [flush_eq] at shown
      exact Option.some.inj shown ▸ caches.cached cached
  · exact ledger

theorem change_game_ledger (ledger : Ledger initial world)
    (change : Reader AIGameScene → Reader AIGameScene)
    (user : ∀ reader, (change reader).screen.signedIn = reader.screen.signedIn)
    (cached : ∀ reader : Reader AIGameScene,
      reader.screen.currency = reader.screen.allUserData.int "currency" →
      (change reader).screen.currency = (change reader).screen.allUserData.int "currency") :
    Ledger initial { world with game := world.game.map change } := by
  refine ⟨ledger.balance, Option.forall_mem_map.mpr ?_, ledger.store⟩
  intro earlier opened
  obtain ⟨signedIn, same⟩ := ledger.game earlier opened
  exact ⟨(user earlier).trans signedIn, cached earlier same⟩

theorem change_store_ledger (ledger : Ledger initial world)
    (change : Reader StoreViewController → Reader StoreViewController)
    (cached : ∀ reader : Reader StoreViewController,
      reader.screen.userTrophyCount = reader.screen.userData.int "currency" →
      (change reader).screen.userTrophyCount = (change reader).screen.userData.int "currency") :
    Ledger initial { world with store := world.store.map change } := by
  refine ⟨ledger.balance, ledger.game, Option.forall_mem_map.mpr ?_⟩
  intro earlier opened
  exact cached earlier (ledger.store earlier opened)

/-- A load of the game sets the currency and the cached document together. -/
theorem complete_game_ledger (ledger : Ledger initial world) :
    Ledger initial { world with game := world.game.map (Reader.complete AIGameScene.loaded) } := by
  refine change_game_ledger ledger _ Reader.complete_signed_in ?_
  exact Reader.complete_keeps AIGameScene.loaded
    (fun game => game.currency = game.allUserData.int "currency") fun _ _ _ => rfl

theorem complete_store_ledger (ledger : Ledger initial world) :
    Ledger initial
      { world with store := world.store.map (Reader.complete StoreViewController.loaded) } := by
  refine change_store_ledger ledger _ ?_
  refine Reader.complete_keeps StoreViewController.loaded
    (fun store => store.userTrophyCount = store.userData.int "currency") ?_
  intro screen snapshot _
  obtain ⟨data, count⟩ := StoreViewController.loaded_data screen snapshot
  rw [data, count]

theorem step_ledger (world : World) (event : WorldEvent) (ledger : Ledger initial world)
    (fresh : world.UpToDate event) : Ledger initial (world.step event) := by
  have balance := ledger.balance
  cases event with
  | reward =>
      refine ⟨?_, ledger.game, ledger.store⟩
      simp only [step, List.length_append, List.length_cons, List.length_nil]
      omega
  | readReward index =>
      refine ⟨?_, ledger.game, ledger.store⟩
      simpa [step] using balance
  | completeReward index => exact complete_reward_ledger ledger index fresh
  | openGame difficulty trophy monsters =>
      rw [step]
      split
      · refine ⟨balance, ?_, ledger.store⟩
        intro reader opened
        obtain rfl := Option.some.inj opened
        exact ⟨rfl, rfl⟩
      · exact ledger
  | readGame => exact change_game_ledger ledger _ (fun _ => rfl) fun _ => id
  | completeGame => exact complete_game_ledger ledger
  | failGame => exact change_game_ledger ledger _ (fun _ => rfl) fun _ => id
  | game event => exact game_event_ledger ledger event fresh
  | openStore =>
      rw [step]
      split
      · refine ⟨balance, ledger.game, ?_⟩
        intro reader opened
        obtain rfl := Option.some.inj opened
        rfl
      · exact ledger
  | readStore => exact change_store_ledger ledger _ fun _ => id
  | completeStore => exact complete_store_ledger ledger
  | failStore => exact change_store_ledger ledger _ fun _ => id
  | leaveStore => exact ⟨balance, ledger.game, by simp [step]⟩
  | store event => exact store_event_ledger ledger event fresh

end World

/-- In a run whose writes are up to date the books balance in every state:
    once all callbacks have run and the games have stored, the currency is the
    initial one with ten for each reward, one for each relic collected and
    without what the purchases cost. -/
theorem currency_ledger (document : Document) (events : List WorldEvent)
    (fresh : Runs.Meets World.step World.UpToDate (World.start document) events) :
    Runs.Always World.step (World.LedgerBalanced (document.int "currency"))
      (World.start document) events := by
  refine Runs.meets_always World.step World.UpToDate
    (World.LedgerBalanced (document.int "currency")) (World.Ledger (document.int "currency"))
    (fun _ => World.ledger_balanced) World.step_ledger events (World.start document) ?_ fresh
  exact ⟨by simp [World.start], by simp [World.start], by simp [World.start]⟩

/-- A game whose load completes before the player touches the trophy, a reward
    and a purchase, one after another. -/
def oneAfterAnother : List WorldEvent :=
  [.openGame .Easy playerTile [], .readGame, .completeGame,
    .game (.scene (.physics playerTile opponentTile [⟨"player1", "trophy"⟩])),
    .game (.scene (.update playerTile playerTile)), .game .tapReturn,
    .reward, .readReward 0, .completeReward 0,
    .openStore, .readStore, .completeStore, .store (.tap .youngMan), .store (.answer true)]

theorem currency_ledger_one_after_another : Runs.Always World.step
    (World.LedgerBalanced (((signUp "a@b.c" "Ann").set "currency" (.number 150)).int "currency"))
    (World.start ((signUp "a@b.c" "Ann").set "currency" (.number 150))) oneAfterAnother :=
  currency_ledger _ _ (by decide)

/-- A trophy is lost when the load of the game completes after it. -/
theorem late_load_loses_relic : ¬ ∀ (document : Document) (events : List WorldEvent),
    Runs.Always World.step (World.LedgerBalanced (document.int "currency"))
      (World.start document) events := by
  intro balanced
  have lost := balanced (signUp "a@b.c" "Ann")
    [.openGame .Easy playerTile [],
      .game (.scene (.physics playerTile opponentTile [⟨"player1", "trophy"⟩])),
      .game (.scene (.update playerTile playerTile)), .readGame, .completeGame,
      .game .tapReturn] 6 ⟨rfl, by decide, by decide, rfl, rfl⟩
  revert lost
  decide

end RelicRace
