import Mathlib.Algebra.Ring.Int.Defs
import RelicRace.Account.Store
import RelicRace.Library.Runs

/-!
The store after its document has been loaded. Ownership is kept in the list of
skins and shown by the titles of the buttons; every loop over the owned skins
writes the titles that the list determines, so the titles, the list, the
balance and the cached document always tell the same.
-/

namespace RelicRace
open Library

namespace SkinOption

/-- The skin that a button sells. -/
def skin (option : SkinOption) : String := StoreViewController.skinBought option.cost

theorem skin_inj (first second : SkinOption) (same : first.skin = second.skin) :
    first = second := by
  revert same
  cases first <;> cases second <;> decide

theorem named_skin (option : SkinOption) : named option.skin = some option := by
  cases option <;> decide

theorem named_iff (skinName : String) (option : SkinOption) :
    named skinName = some option ↔ skinName = option.skin := by
  constructor
  · intro found
    simp only [named] at found
    split_ifs at found with old young ginger <;> cases found
    · exact old
    · exact young
    · exact ginger
  · rintro rfl
    exact named_skin option

theorem price_shown (option : SkinOption) (sold : option ≠ .oldMan) :
    option.storyboardTitle ≠ "Equip" ∧ option.storyboardTitle ≠ "Equipped" := by
  cases option
  · exact absurd rfl sold
  · decide
  · decide

end SkinOption

namespace StoreViewController

/-- A document as the store expects it. -/
structure Inventory (document : Document) (currency : Int) (owned : List String)
    (equipped : SkinOption) : Prop where
  currencyField : document "currency" = some (.number currency)
  skinsField : document "skins" = some (.texts owned)
  equippedField : document "currentlyEquipped" = some (.text equipped.skin)
  solvent : 0 ≤ currency
  unique : owned.Nodup
  standard : SkinOption.oldMan.skin ∈ owned
  wearable : equipped.skin ∈ owned

/-- The store whose request for the document has completed. -/
def opened (document : Document) : StoreViewController :=
  loaded { currentUser := .signedIn } document

/-- The titles that the list of skins and the equipped one determine. -/
def shownTitle (skins : List String) (equipped option : SkinOption) : String :=
  if option = equipped then "Equipped"
  else if option.skin ∈ skins then "Equip" else option.storyboardTitle

/-- A document that says what the store shows, and all else as it was loaded. -/
structure Describes (loaded : Document) (store : StoreViewController) (document : Document) :
    Prop where
  currency : document "currency" = some (.number store.userTrophyCount)
  skins : document "skins" = some (.texts store.skins)
  currentlyEquipped : document "currentlyEquipped" = some (.text store.currentlyEquipped)
  others : ∀ field, field ∉ fields → document field = loaded field

structure Stocked (document : Document) (currency : Int) (owned : List String)
    (store : StoreViewController) : Prop where
  user : store.currentUser = .signedIn
  solvent : 0 ≤ store.userTrophyCount
  unique : store.skins.Nodup
  standard : SkinOption.oldMan.skin ∈ store.skins
  bought : ∃ bought : List SkinOption, store.skins = owned ++ bought.map (·.skin) ∧
    store.userTrophyCount = currency - (bought.map (·.cost)).sum
  worn : ∃ equipped : SkinOption, store.currentlyEquipped = equipped.skin ∧
    equipped.skin ∈ store.skins ∧ store.title = shownTitle store.skins equipped
  asked : ∀ sender, store.alert = some sender →
    sender.skin ∉ store.skins ∧ sender.cost ≤ store.userTrophyCount
  cached : Describes document store store.userData

/-! ### The loops over the owned skins -/

/-- A round that writes the title of the button of one skin. -/
def writeTitle (written : SkinOption → String) (store : StoreViewController)
    (skinName : String) : StoreViewController :=
  match SkinOption.named skinName with
  | some option => store.setTitle option (written option)
  | none => store

theorem write_title_eq (written : SkinOption → String) (store : StoreViewController)
    (skinName : String) : store.writeTitle written skinName =
      { store with title := fun option =>
        if option.skin = skinName then written option else store.title option } := by
  cases found : SkinOption.named skinName with
  | none =>
      have other (option : SkinOption) : option.skin ≠ skinName := by
        rintro rfl
        simp [SkinOption.named_skin] at found
      simp [writeTitle, found, other]
  | some named =>
      obtain rfl := (SkinOption.named_iff skinName named).mp found
      simp only [writeTitle, found, setTitle]
      congr 1
      funext option
      by_cases same : option = named
      · simp [same]
      · have other : option.skin ≠ named.skin := fun equal => same (SkinOption.skin_inj _ _ equal)
        simp [same, other]

theorem write_titles_eq (written : SkinOption → String) (names : List String)
    (store : StoreViewController) : names.foldl (writeTitle written) store =
      { store with title := fun option =>
        if option.skin ∈ names then written option else store.title option } := by
  induction names generalizing store with
  | nil => simp
  | cons skinName rest ih =>
      rw [List.foldl_cons, ih, write_title_eq]
      congr 1
      funext option
      by_cases later : option.skin ∈ rest
      · simp [later]
      · simp [later]

theorem offer_skins_eq (store : StoreViewController) : store.offerSkins =
    { store with title := fun option =>
      if option.skin ∈ store.skins then "Equip" else store.title option } :=
  write_titles_eq (fun _ => "Equip") store.skins store

/-- The titles of the loaded skins. -/
def loadedTitle (equipped option : SkinOption) : String :=
  if option = equipped then "Equipped" else "Equip"

/-- The button of the old man reads "Equip" until it is shown as equipped, so
    leaving it alone is writing that title. -/
theorem show_loaded_eq (equipped : SkinOption) (store : StoreViewController) (skinName : String)
    (worn : store.currentlyEquipped = equipped.skin)
    (standard : equipped ≠ .oldMan → store.title .oldMan = "Equip") :
    store.showLoadedSkin skinName = store.writeTitle (loadedTitle equipped) skinName := by
  cases found : SkinOption.named skinName with
  | none => simp [showLoadedSkin, writeTitle, found]
  | some named =>
      obtain rfl := (SkinOption.named_iff skinName named).mp found
      have shown : named.skin = store.currentlyEquipped ↔ named = equipped := by
        rw [worn]
        exact ⟨SkinOption.skin_inj _ _, fun same => same ▸ rfl⟩
      cases named with
      | oldMan =>
          simp only [showLoadedSkin, writeTitle, found, shown, loadedTitle]
          by_cases same : SkinOption.oldMan = equipped
          · rw [if_pos same, if_pos same]
          · have kept := standard (Ne.symm same)
            simp [same, setTitle, ← kept]
      | youngMan => simp [showLoadedSkin, writeTitle, found, shown, loadedTitle]
      | gingerMan => simp [showLoadedSkin, writeTitle, found, shown, loadedTitle]

theorem show_loaded_fold (equipped : SkinOption) (names : List String)
    (store : StoreViewController) (worn : store.currentlyEquipped = equipped.skin)
    (standard : equipped ≠ .oldMan → store.title .oldMan = "Equip") :
    names.foldl showLoadedSkin store = names.foldl (writeTitle (loadedTitle equipped)) store := by
  induction names generalizing store with
  | nil => rfl
  | cons skinName rest ih =>
      rw [List.foldl_cons, List.foldl_cons, show_loaded_eq equipped store skinName worn standard]
      apply ih
      · rw [write_title_eq]
        exact worn
      · intro other
        rw [write_title_eq]
        dsimp only
        split
        · simp [loadedTitle, Ne.symm other]
        · exact standard other

/-! ### What an event keeps -/

section Stocked
variable {document : Document} {currency : Int} {owned : List String} {equipped : SkinOption}
variable {store : StoreViewController}

theorem opened_stocked (inventory : Inventory document currency owned equipped) :
    Stocked document currency owned (opened document) := by
  have count : document.int "currency" = currency := by
    simp [Document.int, inventory.currencyField]
  have skins : document.texts "skins" ["oldMan"] = owned := by
    simp [Document.texts, inventory.skinsField]
  have worn : document.text "currentlyEquipped" "oldMan" = equipped.skin := by
    simp [Document.text, inventory.equippedField]
  rw [opened, loaded, count, skins, worn]
  dsimp only
  rw [show_loaded_fold equipped owned _ rfl fun _ => rfl, write_titles_eq]
  refine ⟨rfl, inventory.solvent, inventory.unique, inventory.standard,
    ⟨[], by simp, by simp⟩, ⟨equipped, rfl, inventory.wearable, ?_⟩, by simp,
    inventory.currencyField, inventory.skinsField, inventory.equippedField, fun _ _ => rfl⟩
  funext option
  by_cases same : option = equipped
  · subst same
    simp [shownTitle, loadedTitle, inventory.wearable]
  · simp [shownTitle, loadedTitle, same]

/-- Without the title of an owned skin the button's skin is for sale. -/
theorem not_owned (stocked : Stocked document currency owned store) (option : SkinOption)
    (notEquip : store.title option ≠ "Equip") (notEquipped : store.title option ≠ "Equipped") :
    option.skin ∉ store.skins := by
  obtain ⟨equipped, -, -, titles⟩ := stocked.worn
  intro listed
  simp only [titles, shownTitle] at notEquip notEquipped
  by_cases same : option = equipped
  · simp [same] at notEquipped
  · simp [same, listed] at notEquip

theorem owned_of_equip (stocked : Stocked document currency owned store) (option : SkinOption)
    (offered : store.title option = "Equip") : option.skin ∈ store.skins := by
  obtain ⟨equipped, -, wearable, titles⟩ := stocked.worn
  by_contra missing
  have sold : option ≠ .oldMan := by
    rintro rfl
    exact missing stocked.standard
  have other : option ≠ equipped := by
    rintro rfl
    exact missing wearable
  simp only [titles, shownTitle, if_neg other, if_neg missing] at offered
  exact (SkinOption.price_shown option sold).1 offered

/-- Offering every owned skin and equipping one gives its titles again. -/
theorem retitled (skins : List String) (sender : SkinOption) (title : SkinOption → String)
    (known : ∀ option, option.skin ∉ skins → title option = option.storyboardTitle) :
    Function.update (fun option => if option.skin ∈ skins then "Equip" else title option) sender
      "Equipped" = shownTitle skins sender := by
  funext option
  by_cases same : option = sender
  · simp [shownTitle, same]
  · by_cases listed : option.skin ∈ skins
    · simp [shownTitle, same, listed]
    · simp [shownTitle, same, listed, known option listed]

theorem unlisted_title (stocked : Stocked document currency owned store) (option : SkinOption)
    (missing : option.skin ∉ store.skins) : store.title option = option.storyboardTitle := by
  obtain ⟨equipped, -, wearable, titles⟩ := stocked.worn
  have other : option ≠ equipped := by
    rintro rfl
    exact missing wearable
  simp [titles, shownTitle, other, missing]

theorem equip_store_eq (stocked : Stocked document currency owned store) (sender : SkinOption)
    (offered : store.title sender = "Equip") : store.onSkinClick sender =
      { store.wear sender.skin with
        title := shownTitle store.skins sender
        stored := (store.wear sender.skin).userData :: store.stored } := by
  have titles := retitled store.skins sender store.title (unlisted_title stocked)
  simp only [onSkinClick, stocked.user, offered, if_true, offer_skins_eq, setTitle, setData, wear,
    titles]
  rfl

/-- The cached document after a purchase. -/
def boughtData (store : StoreViewController) (sender : SkinOption) : Document :=
  ((store.userData.set "currentlyEquipped" (.text sender.skin)).set "currency"
    (.number (store.userTrophyCount - sender.cost))).set "skins"
      (.texts (store.skins ++ [sender.skin]))

theorem confirm_store_eq (stocked : Stocked document currency owned store) (sender : SkinOption) :
    store.confirm sender = { store with
      alert := none
      userTrophyCount := store.userTrophyCount - sender.cost
      skins := store.skins ++ [sender.skin]
      currentlyEquipped := sender.skin
      title := shownTitle (store.skins ++ [sender.skin]) sender
      userData := store.boughtData sender
      stored := store.boughtData sender :: store.stored } := by
  have titles := retitled (store.skins ++ [sender.skin]) sender store.title (by
    intro option missing
    refine unlisted_title stocked option fun listed => missing ?_
    exact List.mem_append_left _ listed)
  simp only [confirm, take, wear, offer_skins_eq, setTitle, setData, boughtData]
  rw [show skinBought sender.cost = sender.skin from rfl, titles]

/-- A tap on an owned skin wears it and writes the document. -/
theorem equip_stocked (stocked : Stocked document currency owned store) (sender : SkinOption)
    (offered : store.title sender = "Equip") :
    Stocked document currency owned (store.onSkinClick sender) := by
  have listed := owned_of_equip stocked sender offered
  rw [equip_store_eq stocked sender offered]
  refine ⟨stocked.user, stocked.solvent, stocked.unique, stocked.standard, stocked.bought,
    ⟨sender, rfl, listed, rfl⟩, stocked.asked, ?_⟩
  obtain ⟨money, skins, -, others⟩ := stocked.cached
  refine ⟨by simpa [wear, Document.set] using money, by simpa [wear, Document.set] using skins,
    by simp [wear, Document.set], fun field unlisted => ?_⟩
  have apart : field ≠ "currentlyEquipped" := by
    rintro rfl
    exact unlisted (by decide)
  simpa [wear, Document.set, apart] using others field unlisted

/-- A confirmed purchase pays for a skin that was not owned. -/
theorem confirm_stocked (stocked : Stocked document currency owned store) (sender : SkinOption)
    (shown : store.alert = some sender) :
    Stocked document currency owned (store.confirm sender) := by
  obtain ⟨missing, affordable⟩ := stocked.asked sender shown
  obtain ⟨bought, skins, count⟩ := stocked.bought
  rw [confirm_store_eq stocked sender]
  refine ⟨stocked.user, ?_, ?_, List.mem_append_left _ stocked.standard,
    ⟨bought ++ [sender], ?_, ?_⟩, ⟨sender, rfl, by simp, rfl⟩, by simp, ?_⟩
  · dsimp only
    omega
  · exact List.nodup_append.mpr ⟨stocked.unique, by simp, by
      intro first here second there same
      rw [List.mem_singleton.mp there] at same
      exact missing (same ▸ here)⟩
  · simp [skins]
  · simp only [count, List.map_append, List.sum_append, List.map_cons, List.map_nil, List.sum_cons,
      List.sum_nil]
    omega
  · refine ⟨by simp [boughtData, Document.set], by simp [boughtData, Document.set],
      by simp [boughtData, Document.set], fun field unlisted => ?_⟩
    simp only [fields, List.mem_cons, List.not_mem_nil, or_false, not_or] at unlisted
    simpa [boughtData, Document.set, unlisted] using
      stocked.cached.others field (by simpa [fields] using unlisted)

theorem asking_stocked (stocked : Stocked document currency owned store)
    (alert : Option SkinOption) (toasts : List String)
    (asked : ∀ sender, alert = some sender →
      sender.skin ∉ store.skins ∧ sender.cost ≤ store.userTrophyCount) :
    Stocked document currency owned { store with alert, toasts } :=
  ⟨stocked.user, stocked.solvent, stocked.unique, stocked.standard, stocked.bought, stocked.worn,
    asked, stocked.cached.currency, stocked.cached.skins, stocked.cached.currentlyEquipped,
    stocked.cached.others⟩

/-- A tap on a skin that is not owned asks or declines. -/
theorem offer_stocked (stocked : Stocked document currency owned store) (sender : SkinOption)
    (free : store.alert = none) (notEquip : store.title sender ≠ "Equip") :
    Stocked document currency owned (store.onSkinClick sender) ∧
      (store.onSkinClick sender).stored = store.stored := by
  rw [onSkinClick]
  split
  · exact ⟨stocked, rfl⟩
  · rename_i user
    rw [stocked.user] at user
    cases user
  · rw [if_neg notEquip]
    split_ifs with notEquipped poor
    · exact ⟨stocked, rfl⟩
    · refine ⟨asking_stocked stocked store.alert _ ?_, rfl⟩
      simp [free]
    · refine ⟨asking_stocked stocked (some sender) store.toasts ?_, rfl⟩
      rintro other shown
      obtain rfl := Option.some.inj shown
      exact ⟨not_owned stocked _ notEquip notEquipped, by omega⟩

/-- One event keeps the store stocked, and what it writes is the cached
    document. -/
theorem event_stocked (stocked : Stocked document currency owned store) (event : StoreEvent) :
    Stocked document currency owned (event.apply store) ∧
      ((event.apply store).stored = store.stored ∨
        (event.apply store).stored = (event.apply store).userData :: store.stored) := by
  cases event with
  | tap sender =>
      rw [StoreEvent.apply]
      split
      · rename_i free
        by_cases offered : store.title sender = "Equip"
        · refine ⟨equip_stocked stocked sender offered, Or.inr ?_⟩
          rw [equip_store_eq stocked sender offered]
        · obtain ⟨kept, silent⟩ := offer_stocked stocked sender free offered
          exact ⟨kept, Or.inl silent⟩
      · exact ⟨stocked, Or.inl rfl⟩
  | answer confirmed =>
      rw [StoreEvent.apply]
      split
      · rename_i sender shown
        cases confirmed with
        | true =>
            refine ⟨confirm_stocked stocked sender shown, Or.inr ?_⟩
            rw [if_pos rfl, confirm_store_eq stocked sender]
        | false => exact ⟨asking_stocked stocked none store.toasts (by simp), Or.inl rfl⟩
      · exact ⟨stocked, Or.inl rfl⟩

/-- A charge is for a skin that is not owned. -/
theorem charged_not_owned (stocked : Stocked document currency owned store) (event : StoreEvent)
    (charged : event.price store ≠ 0) :
    ∃ sender, store.alert = some sender ∧ event.price store = sender.cost ∧
      sender.skin ∉ store.skins := by
  cases event with
  | tap sender => exact absurd rfl charged
  | answer confirmed =>
      cases shown : store.alert with
      | none => simp [StoreEvent.price, shown] at charged
      | some sender =>
          cases confirmed with
          | false => simp [StoreEvent.price, shown] at charged
          | true => exact ⟨sender, rfl, by simp [StoreEvent.price, shown],
              (stocked.asked sender shown).1⟩

end Stocked

/-- What the store shows in one state. -/
structure Consistent (currency : Int) (owned : List String) (store : StoreViewController) :
    Prop where
  solvent : 0 ≤ store.userTrophyCount
  unique : store.skins.Nodup
  balance : ∃ bought : List SkinOption, store.skins = owned ++ bought.map (·.skin) ∧
    store.userTrophyCount = currency - (bought.map (·.cost)).sum
  equipped : ∃ equipped : SkinOption, store.currentlyEquipped = equipped.skin ∧
    equipped.skin ∈ store.skins ∧ ∀ option, store.title option = "Equipped" ↔ option = equipped

theorem shown_equipped (skins : List String) (equipped option : SkinOption)
    (standard : SkinOption.oldMan.skin ∈ skins) :
    shownTitle skins equipped option = "Equipped" ↔ option = equipped := by
  rw [shownTitle]
  split_ifs with same listed
  · simp [same]
  · simp [same]
  · have sold : option ≠ .oldMan := by
      rintro rfl
      exact listed standard
    simp [same, (SkinOption.price_shown option sold).2]

theorem stocked_consistent {document : Document} {currency : Int} {owned : List String}
    {store : StoreViewController} (stocked : Stocked document currency owned store) :
    Consistent currency owned store := by
  obtain ⟨equipped, worn, wearable, titles⟩ := stocked.worn
  refine ⟨stocked.solvent, stocked.unique, stocked.bought, equipped, worn, wearable, ?_⟩
  intro option
  rw [titles]
  exact shown_equipped store.skins equipped option stocked.standard

/-- In every state the store is consistent, and every next event charges for a
    skin that is not owned only and writes at most one document, which says
    what the store then shows. -/
theorem store_stays_consistent (document : Document) (currency : Int) (owned : List String)
    (equipped : SkinOption) (inventory : Inventory document currency owned equipped)
    (events : List StoreEvent) :
    Consistent currency owned (Runs.run StoreEvent.apply (opened document) events) ∧
      ∀ event : StoreEvent,
        let before := Runs.run StoreEvent.apply (opened document) events
        let after := event.apply before
        (event.price before ≠ 0 → ∃ sender, before.alert = some sender ∧
          event.price before = sender.cost ∧ sender.skin ∉ before.skins) ∧
        after.userTrophyCount = before.userTrophyCount - event.price before ∧
        (after.stored = before.stored ∨ ∃ written, after.stored = written :: before.stored ∧
          Describes document after written) := by
  have stocked := Runs.run_keeps StoreEvent.apply (Stocked document currency owned)
    (fun _ event kept => (event_stocked kept event).1) events (opened document)
    (opened_stocked inventory)
  refine ⟨stocked_consistent stocked, fun event => ?_⟩
  obtain ⟨kept, written⟩ := event_stocked stocked event
  refine ⟨charged_not_owned stocked event, (event_caches _ event).currency, ?_⟩
  rcases written with silent | wrote
  · exact Or.inl silent
  · exact Or.inr ⟨_, wrote, kept.cached⟩

/-- The store of a user who has bought and equipped the young man. -/
theorem store_stays_consistent_young_man :
    let document := ((Document.empty.set "currency" (.number 300)).set "skins"
      (.texts ["oldMan", "youngMan"])).set "currentlyEquipped" (.text "youngMan")
    let events := [StoreEvent.tap .gingerMan, .answer true, .tap .oldMan]
    Consistent 300 ["oldMan", "youngMan"] (Runs.run StoreEvent.apply (opened document) events) :=
  (store_stays_consistent _ 300 ["oldMan", "youngMan"] .youngMan
    ⟨by decide, by decide, by decide, by decide, by decide, by decide, by decide⟩ _).1

end StoreViewController
end RelicRace
