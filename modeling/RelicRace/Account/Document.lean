import Mathlib.Logic.Basic
import Mathlib.Tactic.Common

/-!
The document of a signed-in user: a dictionary from field names to values, as
the screens cache it and `setData` writes it.
-/

namespace RelicRace

inductive FieldValue where
  | text (value : String)
  | number (value : Int)
  | numbers (values : List Int)
  | texts (values : List String)
  deriving DecidableEq

/-- `[String : Any]`. -/
abbrev Document := String → Option FieldValue

namespace Document

def empty : Document := fun _ => none

def set (document : Document) (field : String) (value : FieldValue) : Document :=
  fun key => if key = field then some value else document key

/-- `document[field] as? Int ?? 0`. -/
def int (document : Document) (field : String) : Int :=
  match document field with
  | some (.number value) => value
  | _ => 0

/-- `document[field] as? [NSNumber] ?? []`. -/
def ints (document : Document) (field : String) : List Int :=
  match document field with
  | some (.numbers values) => values
  | _ => []

def texts (document : Document) (field : String) (other : List String) : List String :=
  match document field with
  | some (.texts values) => values
  | _ => other

def text (document : Document) (field other : String) : String :=
  match document field with
  | some (.text value) => value
  | _ => other

def Has (document : Document) (field : String) : Prop := (document field).isSome = true

instance (document : Document) (field : String) : Decidable (document.Has field) :=
  inferInstanceAs (Decidable (_ = true))

/-- What `SignUpViewController` writes for a new user. -/
def profileFields : List String :=
  ["email", "name", "currency", "easyTime", "hardTime", "impossibleTime", "skins",
    "currentlyEquipped"]

@[simp] theorem has_empty (field : String) : ¬ empty.Has field := by simp [Has, empty]

@[simp] theorem has_set (document : Document) (field key : String) (value : FieldValue) :
    (document.set field value).Has key ↔ key = field ∨ document.Has key := by
  by_cases same : key = field <;> simp [Has, set, same]

@[simp] theorem int_set (document : Document) (field : String) (value : Int) :
    (document.set field (.number value)).int field = value := by
  simp [int, set]

theorem int_set_other (document : Document) (field key : String) (value : FieldValue)
    (other : key ≠ field) : (document.set field value).int key = document.int key := by
  simp [int, set, other]

end Document
end RelicRace
