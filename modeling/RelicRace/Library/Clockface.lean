import Mathlib.Algebra.Order.Group.Nat
import Mathlib.Tactic.Common
import Mathlib.Tactic.Ring

/-!
Numbers written in fields of one base with a mark between them, as a clock writes
hours, minutes and seconds. Fields without a value are dropped in front; those after
the first have two digits. Reading multiplies by the base at each mark, so it needs
to know neither the number of the fields nor what stands before the number.
-/

namespace Library.Clockface

/-! ### The fields -/

/-- The fields of a number, the least of which counts ones; the first is not bounded. -/
def fields (base : Nat) : Nat → Nat → List Nat
  | 0, number => [number]
  | count + 1, number => fields base count (number / base) ++ [number % base]

def value (base : Nat) (fields : List Nat) : Nat :=
  fields.foldl (fun total field => total * base + field) 0

theorem value_fields (base count number : Nat) :
    value base (fields base count number) = number := by
  induction count generalizing number with
  | zero => simp [fields, value]
  | succ count ih =>
      have quotient := ih (number / base)
      rw [value] at quotient ⊢
      rw [fields, List.foldl_append, quotient]
      exact Nat.div_add_mod' number base

theorem fields_ne_nil (base count number : Nat) : fields base count number ≠ [] := by
  cases count with
  | zero => exact List.cons_ne_nil _ _
  | succ count => exact List.append_ne_nil_of_right_ne_nil _ (List.cons_ne_nil _ _)

theorem fields_below {base : Nat} (positive : 0 < base) (count number : Nat) :
    ∀ field ∈ (fields base count number).tail, field < base := by
  induction count generalizing number with
  | zero => simp [fields]
  | succ count ih =>
      intro field member
      rw [fields, List.tail_append_of_ne_nil (fields_ne_nil base count _)] at member
      rcases List.mem_append.mp member with before | last
      · exact ih (number / base) field before
      · rw [List.mem_singleton.mp last]
        exact Nat.mod_lt number positive

/-! ### The text -/

def twoDigits (field : Nat) : List Char :=
  [Nat.digitChar (field / 10), Nat.digitChar (field % 10)]

def dropLeading : List Nat → List Nat
  | [] => []
  | [last] => [last]
  | first :: second :: rest =>
      if first = 0 then dropLeading (second :: rest) else first :: second :: rest

def write (mark : Char) : List Nat → List Char
  | [] => []
  | first :: rest => Nat.toDigits 10 first ++ rest.flatMap fun field => mark :: twoDigits field

/-- The number of the fields before the last mark, and the field after it. Any other
    character starts anew. -/
def readChar (base : Nat) (mark : Char) (sofar : Nat × Nat) (char : Char) : Nat × Nat :=
  if char = mark then ((sofar.1 + sofar.2) * base, 0)
  else if char.isDigit then (sofar.1, 10 * sofar.2 + (char.toNat - '0'.toNat))
  else (0, 0)

def read (base : Nat) (mark : Char) (text : List Char) : Nat :=
  let sofar := text.foldl (readChar base mark) (0, 0)
  sofar.1 + sofar.2

theorem drop_leading_value (base : Nat) (fields : List Nat) :
    value base (dropLeading fields) = value base fields := by
  induction fields using dropLeading.induct with
  | case1 => rfl
  | case2 last => rfl
  | case3 second rest ih =>
      rw [dropLeading, if_pos rfl, ih]
      simp [value]
  | case4 first second rest filled => rw [dropLeading, if_neg filled]

theorem drop_leading_tail (fields : List Nat) : (dropLeading fields).tail ⊆ fields.tail := by
  induction fields using dropLeading.induct with
  | case1 => exact List.Subset.refl _
  | case2 last => exact List.Subset.refl _
  | case3 second rest ih =>
      rw [dropLeading, if_pos rfl]
      intro field member
      exact List.mem_cons_of_mem second (ih member)
  | case4 first second rest filled =>
      rw [dropLeading, if_neg filled]
      exact List.Subset.refl _

/-! ### Reading back -/

section Read
variable {base : Nat} {mark : Char}

theorem read_digits (plain : mark.isDigit = false) (digits : List Char)
    (all : ∀ char ∈ digits, char.isDigit = true) (before field : Nat) :
    digits.foldl (readChar base mark) (before, field) =
      (before, Nat.ofDigitChars 10 digits field) := by
  induction digits generalizing field with
  | nil => rfl
  | cons char rest ih =>
      have digit := all char List.mem_cons_self
      have other : char ≠ mark := by
        rintro rfl
        rw [plain] at digit
        cases digit
      rw [List.foldl_cons, readChar, if_neg other, if_pos digit, Nat.ofDigitChars_cons]
      exact ih (fun other member => all other (List.mem_cons_of_mem char member)) _

theorem read_number (plain : mark.isDigit = false) (before number : Nat) :
    (Nat.toDigits 10 number).foldl (readChar base mark) (before, 0) = (before, number) := by
  rw [read_digits plain _ fun char member =>
    Nat.isDigit_of_mem_toDigits (by decide) (by decide) member, Nat.ofDigitChars_ten_toDigits]

theorem read_two_digits (plain : mark.isDigit = false) (before : Nat) {field : Nat}
    (short : field < 100) :
    (twoDigits field).foldl (readChar base mark) (before, 0) = (before, field) := by
  have tens : field / 10 < 10 := by omega
  have ones : field % 10 < 10 := Nat.mod_lt field (by decide)
  have digits : ∀ char ∈ twoDigits field, char.isDigit = true := by
    intro char member
    rcases List.mem_cons.mp member with rfl | member
    · rw [Nat.isDigit_digitChar, decide_eq_true tens]
    · rw [List.mem_singleton.mp member, Nat.isDigit_digitChar, decide_eq_true ones]
  rw [read_digits plain _ digits, twoDigits, Nat.ofDigitChars_cons_digitChar_of_lt_ten tens,
    Nat.ofDigitChars_cons_digitChar_of_lt_ten ones, Nat.ofDigitChars_nil]
  refine congrArg _ ?_
  omega

/-- A mark and two digits more are one field more. -/
theorem read_fields (plain : mark.isDigit = false) (rest : List Nat)
    (short : ∀ field ∈ rest, field < 100) (sofar : Nat × Nat) :
    let later :=
      (rest.flatMap fun field => mark :: twoDigits field).foldl (readChar base mark) sofar
    later.1 + later.2 =
      rest.foldl (fun total field => total * base + field) (sofar.1 + sofar.2) := by
  induction rest generalizing sofar with
  | nil => rfl
  | cons field rest ih =>
      have here : (twoDigits field).foldl (readChar base mark) ((sofar.1 + sofar.2) * base, 0) =
          ((sofar.1 + sofar.2) * base, field) :=
        read_two_digits plain _ (short field List.mem_cons_self)
      rw [List.flatMap_cons, List.foldl_append, List.foldl_cons, readChar, if_pos rfl, here]
      exact ih (fun other member => short other (List.mem_cons_of_mem field member)) _

theorem read_write (plain : mark.isDigit = false) (fields : List Nat)
    (short : ∀ field ∈ fields.tail, field < 100) :
    read base mark (write mark fields) = value base fields := by
  cases fields with
  | nil => rfl
  | cons first rest =>
      rw [read, write, List.foldl_append, read_number plain]
      refine (read_fields plain rest short (0, first)).trans ?_
      simp [value]

/-- What stands before the number is not read, if a character that is neither a digit
    nor the mark stands between. -/
theorem read_after (text before : List Char) (char : Char) (other : char ≠ mark)
    (blank : char.isDigit = false) :
    read base mark (before ++ char :: text) = read base mark text := by
  rw [read, List.foldl_append, List.foldl_cons, readChar, if_neg other,
    if_neg (by rw [blank]; exact Bool.false_ne_true)]
  rfl

end Read
end Library.Clockface
