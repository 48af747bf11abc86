import Mathlib.Logic.Function.Basic
import RelicRace.Account.Document

/-!
`StoreViewController`: the cached document, the three skin buttons with their
titles and tags, and the alert that confirms a purchase. The alert is modal: no
button is tapped while it is shown.
-/

namespace RelicRace

inductive CurrentUser where
  | none
  | anonymous
  | signedIn
  deriving DecidableEq

/-- The buttons `defaultOption`, `skin1option` and `skin2Option`, by their skins. -/
inductive SkinOption where
  | oldMan
  | youngMan
  | gingerMan
  deriving DecidableEq

namespace SkinOption

def tag : SkinOption → Int
  | .oldMan => 0
  | .youngMan => 3
  | .gingerMan => 5

def cost (sender : SkinOption) : Int := sender.tag * 50

/-- The titles of the storyboard. -/
def storyboardTitle : SkinOption → String
  | .oldMan => "Equip"
  | .youngMan => "150 Relics"
  | .gingerMan => "250 Relics"

/-- The button whose title a skin's name changes. -/
def named (skinName : String) : Option SkinOption :=
  if skinName = "oldMan" then some .oldMan
  else if skinName = "youngMan" then some .youngMan
  else if skinName = "gingerMan" then some .gingerMan
  else none

end SkinOption

/-- `stored` holds the data given to `setData`, newest first. -/
structure StoreViewController where
  currentUser : CurrentUser
  userData : Document := Document.empty
  userTrophyCount : Int := 0
  skins : List String := []
  currentlyEquipped : String := ""
  title : SkinOption → String := SkinOption.storyboardTitle
  alert : Option SkinOption := none
  toasts : List String := []
  stored : List Document := []

namespace StoreViewController

def setTitle (store : StoreViewController) (option : SkinOption) (title : String) :
    StoreViewController :=
  { store with title := Function.update store.title option title }

/-- One round of the loop over the loaded skins. -/
def showLoadedSkin (store : StoreViewController) (skinName : String) : StoreViewController :=
  match SkinOption.named skinName with
  | some .oldMan =>
      if skinName = store.currentlyEquipped then store.setTitle .oldMan "Equipped" else store
  | some option =>
      store.setTitle option (if skinName = store.currentlyEquipped then "Equipped" else "Equip")
  | none => store

/-- The completion of the request in `viewDidLoad` with an existing document. -/
def loaded (store : StoreViewController) (document : Document) : StoreViewController :=
  let skins := document.texts "skins" ["oldMan"]
  let store := { store with
    userData := document
    userTrophyCount := document.int "currency"
    skins
    currentlyEquipped := document.text "currentlyEquipped" "oldMan" }
  skins.foldl showLoadedSkin store

/-- One round of the loops that make every owned skin equippable. -/
def offerSkin (store : StoreViewController) (skinName : String) : StoreViewController :=
  match SkinOption.named skinName with
  | some option => store.setTitle option "Equip"
  | none => store

def offerSkins (store : StoreViewController) : StoreViewController :=
  store.skins.foldl offerSkin store

def setData (store : StoreViewController) : StoreViewController :=
  { store with stored := store.userData :: store.stored }

def skinBought (cost : Int) : String :=
  if cost = 150 then "youngMan" else if cost = 250 then "gingerMan" else "oldMan"

/-- `currentlyEquipped` and its entry in the cached document. -/
def wear (store : StoreViewController) (skin : String) : StoreViewController :=
  { store with
    currentlyEquipped := skin
    userData := store.userData.set "currentlyEquipped" (.text skin) }

def onSkinClick (sender : SkinOption) (store : StoreViewController) : StoreViewController :=
  match store.currentUser with
  | .none => store
  | .anonymous => store.setTitle sender "Equipped"
  | .signedIn =>
      if store.title sender = "Equip" then
        ((store.offerSkins.wear (skinBought sender.cost)).setData).setTitle sender "Equipped"
      else if store.title sender = "Equipped" then store
      else if sender.cost > store.userTrophyCount then
        { store with toasts := "Not enough Relics" :: store.toasts }
      else { store with alert := some sender }

/-- `userTrophyCount` and `skins` after a purchase. -/
def take (store : StoreViewController) (skin : String) (cost : Int) : StoreViewController :=
  { store with
    userTrophyCount := store.userTrophyCount - cost
    skins := store.skins ++ [skin] }

/-- The handler of "Confirm", for the sender of the alert. -/
def confirm (sender : SkinOption) (store : StoreViewController) : StoreViewController :=
  let skin := skinBought sender.cost
  let store := ({ store with alert := none }.wear skin).take skin sender.cost
  let store := store.offerSkins.setTitle sender "Equipped"
  let userData := store.userData.set "currency" (.number store.userTrophyCount)
  { store with userData := userData.set "skins" (.texts store.skins) }.setData

end StoreViewController

inductive StoreEvent where
  | tap (sender : SkinOption)
  | answer (confirmed : Bool)

namespace StoreEvent

def apply (store : StoreViewController) : StoreEvent → StoreViewController
  | .tap sender => if store.alert = none then store.onSkinClick sender else store
  | .answer confirmed =>
      match store.alert with
      | some sender => if confirmed then store.confirm sender else { store with alert := none }
      | none => store

/-- How often the event calls `setData`. -/
def writes (store : StoreViewController) : StoreEvent → Nat
  | .tap sender =>
      if store.alert = none ∧ store.currentUser = .signedIn ∧ store.title sender = "Equip" then 1
      else 0
  | .answer confirmed => if confirmed && store.alert.isSome then 1 else 0

/-- What the event takes off the user's relics. -/
def price (store : StoreViewController) : StoreEvent → Int
  | .tap _ => 0
  | .answer confirmed =>
      match store.alert with
      | some sender => if confirmed then sender.cost else 0
      | none => 0

/-- An event without a write costs nothing. -/
theorem free (event : StoreEvent) (store : StoreViewController) (silent : event.writes store = 0) :
    event.price store = 0 := by
  cases event with
  | tap sender => rfl
  | answer confirmed =>
      cases shown : store.alert with
      | none => simp [price, shown]
      | some sender => cases confirmed <;> simp_all [price, writes]

end StoreEvent

/-! ### What the events do to the cached document -/

namespace StoreViewController

/-- The parts that a change of the buttons leaves alone. -/
structure SameData (before after : StoreViewController) : Prop where
  userData : after.userData = before.userData
  userTrophyCount : after.userTrophyCount = before.userTrophyCount
  stored : after.stored = before.stored
  skins : after.skins = before.skins

theorem SameData.refl (store : StoreViewController) : SameData store store := ⟨rfl, rfl, rfl, rfl⟩

theorem SameData.trans {first second third : StoreViewController} (start : SameData first second)
    (next : SameData second third) : SameData first third :=
  ⟨next.userData.trans start.userData, next.userTrophyCount.trans start.userTrophyCount,
    next.stored.trans start.stored, next.skins.trans start.skins⟩

theorem set_title_same (store : StoreViewController) (option : SkinOption) (title : String) :
    SameData store (store.setTitle option title) := ⟨rfl, rfl, rfl, rfl⟩

theorem fold_same (change : StoreViewController → String → StoreViewController)
    (same : ∀ store skinName, SameData store (change store skinName)) (names : List String)
    (store : StoreViewController) : SameData store (names.foldl change store) := by
  induction names generalizing store with
  | nil => exact SameData.refl store
  | cons skinName rest ih => exact (same store skinName).trans (ih (change store skinName))

theorem offer_skins_same (store : StoreViewController) : SameData store store.offerSkins := by
  apply fold_same
  intro store skinName
  rw [offerSkin]
  split
  · exact set_title_same store _ _
  · exact SameData.refl store

theorem show_loaded_same (store : StoreViewController) (skinName : String) :
    SameData store (store.showLoadedSkin skinName) := by
  rw [showLoadedSkin]
  split
  · split
    · exact set_title_same store _ _
    · exact SameData.refl store
  · exact set_title_same store _ _
  · exact SameData.refl store

theorem loaded_data (store : StoreViewController) (document : Document) :
    (store.loaded document).userData = document ∧
      (store.loaded document).userTrophyCount = document.int "currency" := by
  have same := fold_same showLoadedSkin show_loaded_same (document.texts "skins" ["oldMan"])
    { store with
      userData := document
      userTrophyCount := document.int "currency"
      skins := document.texts "skins" ["oldMan"]
      currentlyEquipped := document.text "currentlyEquipped" "oldMan" }
  exact ⟨same.userData, same.userTrophyCount⟩

/-- The fields that the store can add to the cached document. -/
def fields : List String := ["currentlyEquipped", "currency", "skins"]

/-- An event against the cached document and the writes it makes. -/
structure Caches (before after : StoreViewController) (event : StoreEvent) : Prop where
  stored : after.stored = List.replicate (event.writes before) after.userData ++ before.stored
  currency : after.userTrophyCount = before.userTrophyCount - event.price before
  cached : before.userTrophyCount = before.userData.int "currency" →
    after.userTrophyCount = after.userData.int "currency"
  keeps : ∀ field, before.userData.Has field → after.userData.Has field
  adds : ∀ field, after.userData.Has field → before.userData.Has field ∨ field ∈ fields

theorem equip_eq (store : StoreViewController) (sender : SkinOption)
    (user : store.currentUser = .signedIn) (offered : store.title sender = "Equip") :
    (store.onSkinClick sender).userData =
        store.userData.set "currentlyEquipped" (.text (skinBought sender.cost)) ∧
      (store.onSkinClick sender).userTrophyCount = store.userTrophyCount ∧
      (store.onSkinClick sender).stored = (store.onSkinClick sender).userData :: store.stored := by
  have same := offer_skins_same store
  simp only [onSkinClick, user, offered, if_true, setTitle, setData, wear, same.userData,
    same.userTrophyCount, same.stored, and_self]

/-- A tap that does not equip a skin changes titles, toasts or the alert only. -/
theorem tap_same (store : StoreViewController) (sender : SkinOption)
    (idle : ¬ (store.currentUser = .signedIn ∧ store.title sender = "Equip")) :
    SameData store (store.onSkinClick sender) := by
  rw [onSkinClick]
  split
  · exact SameData.refl store
  · exact set_title_same store _ _
  · rename_i user
    split_ifs with offered
    · exact absurd ⟨user, offered⟩ idle
    · exact SameData.refl store
    · exact ⟨rfl, rfl, rfl, rfl⟩
    · exact ⟨rfl, rfl, rfl, rfl⟩

theorem confirm_eq (store : StoreViewController) (sender : SkinOption) :
    ∃ skins : List String, (store.confirm sender).userData =
        ((store.userData.set "currentlyEquipped" (.text (skinBought sender.cost))).set "currency"
          (.number (store.userTrophyCount - sender.cost))).set "skins" (.texts skins) ∧
      (store.confirm sender).userTrophyCount = store.userTrophyCount - sender.cost ∧
      (store.confirm sender).stored = (store.confirm sender).userData :: store.stored := by
  have same := offer_skins_same
    (({ store with alert := none }.wear (skinBought sender.cost)).take (skinBought sender.cost)
      sender.cost)
  refine ⟨store.skins ++ [skinBought sender.cost], ?_, ?_, ?_⟩
  · simp only [confirm, setData, setTitle, same.userData, same.userTrophyCount, same.skins]
    rfl
  · simp only [confirm, setData, setTitle, same.userTrophyCount]
    rfl
  · simp only [confirm, setData, setTitle, same.stored]
    rfl

theorem SameData.caches {before after : StoreViewController} {event : StoreEvent}
    (same : SameData before after) (quiet : event.writes before = 0)
    (free : event.price before = 0) : Caches before after event := by
  refine ⟨by simp [quiet, same.stored], by simp [free, same.userTrophyCount], ?_, ?_, ?_⟩
  · rw [same.userTrophyCount, same.userData]
    exact id
  · intro field present
    rwa [same.userData]
  · intro field present
    rw [same.userData] at present
    exact Or.inl present

theorem tap_caches (store : StoreViewController) (sender : SkinOption) (free : store.alert = none) :
    Caches store (store.onSkinClick sender) (.tap sender) := by
  by_cases equips : store.currentUser = .signedIn ∧ store.title sender = "Equip"
  · obtain ⟨data, count, stored⟩ := equip_eq store sender equips.1 equips.2
    refine ⟨by simpa [StoreEvent.writes, free, equips] using stored,
      by simp [StoreEvent.price, count], ?_, ?_, ?_⟩
    · rw [count, data, Document.int_set_other _ _ _ _ (by decide)]
      exact id
    · intro field present
      rw [data, Document.has_set]
      exact Or.inr present
    · intro field present
      rw [data, Document.has_set] at present
      rcases present with rfl | present
      · exact Or.inr (by decide)
      · exact Or.inl present
  · exact (tap_same store sender equips).caches (by simp [StoreEvent.writes, free, equips]) rfl

theorem confirm_caches (store : StoreViewController) (sender : SkinOption)
    (shown : store.alert = some sender) :
    Caches store (store.confirm sender) (.answer true) := by
  obtain ⟨skins, data, count, stored⟩ := confirm_eq store sender
  refine ⟨by simpa [StoreEvent.writes, shown] using stored,
    by simp [StoreEvent.price, shown, count], ?_, ?_, ?_⟩
  · intro _
    rw [count, data, Document.int_set_other _ _ _ _ (by decide), Document.int_set]
  · intro field present
    simp only [data, Document.has_set]
    exact Or.inr (Or.inr (Or.inr present))
  · intro field present
    simp only [data, Document.has_set] at present
    rcases present with rfl | rfl | rfl | present
    · exact Or.inr (by decide)
    · exact Or.inr (by decide)
    · exact Or.inr (by decide)
    · exact Or.inl present

theorem event_caches (store : StoreViewController) (event : StoreEvent) :
    Caches store (event.apply store) event := by
  cases event with
  | tap sender =>
      rw [StoreEvent.apply]
      split
      · rename_i free
        exact tap_caches store sender free
      · rename_i busy
        exact (SameData.refl store).caches (by simp [StoreEvent.writes, busy]) rfl
  | answer confirmed =>
      cases shown : store.alert with
      | none =>
          simp only [StoreEvent.apply, shown]
          exact (SameData.refl store).caches (by simp [StoreEvent.writes, shown])
            (by simp [StoreEvent.price, shown])
      | some sender =>
          simp only [StoreEvent.apply, shown]
          cases confirmed with
          | false =>
              have same : SameData store { store with alert := none } := ⟨rfl, rfl, rfl, rfl⟩
              exact same.caches (by simp [StoreEvent.writes]) (by simp [StoreEvent.price, shown])
          | true => exact confirm_caches store sender shown

end StoreViewController
end RelicRace
