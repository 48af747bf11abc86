import Mathlib.Logic.Basic
import Mathlib.Tactic.Common

/-!
JSON values, their text and their bytes. The text has no blanks; a reader of
such text gives the value back. `Codec` is a typed value written to JSON and
read from it, and `Coder` is what a serializer promises to its callers.
-/

namespace Library.Json

inductive Value where
  | null
  | bool (value : Bool)
  | number (value : Int)
  | text (value : String)
  | array (items : List Value)
  | object (fields : List (String × Value))

/-! ### Text -/

def renderNumber : Int → List Char
  | .ofNat value => Nat.toDigits 10 value
  | .negSucc value => '-' :: Nat.toDigits 10 (value + 1)

/-- The characters after the opening quote. -/
def renderText : List Char → List Char
  | [] => ['"']
  | c :: rest => if c = '"' ∨ c = '\\' then '\\' :: c :: renderText rest else c :: renderText rest

def comma (more : Bool) : List Char := if more then [','] else []

mutual

def render : Value → List Char
  | .null => ['n', 'u', 'l', 'l']
  | .bool true => ['t', 'r', 'u', 'e']
  | .bool false => ['f', 'a', 'l', 's', 'e']
  | .number value => renderNumber value
  | .text value => '"' :: renderText value.toList
  | .array items => '[' :: renderItems false items
  | .object fields => '\x7b' :: renderFields false fields

/-- The items that are left; `more` when one has been written already. -/
def renderItems (more : Bool) : List Value → List Char
  | [] => [']']
  | item :: rest => comma more ++ (render item ++ renderItems true rest)

def renderFields (more : Bool) : List (String × Value) → List Char
  | [] => ['\x7d']
  | (key, item) :: rest =>
      comma more ++ ('"' :: renderText key.toList ++ ':' :: (render item ++ renderFields true rest))

end

/-! ### Reading text -/

def parseText : List Char → Option (List Char × List Char)
  | [] => none
  | '"' :: rest => some ([], rest)
  | '\\' :: c :: rest => (parseText rest).map fun (text, rest) => (c :: text, rest)
  | c :: rest => (parseText rest).map fun (text, rest) => (c :: text, rest)

def parseDigits (input : List Char) : Option (Nat × List Char) :=
  let digits := input.takeWhile Char.isDigit
  if digits = [] then none
  else some (Nat.ofDigitChars 10 digits 0, input.dropWhile Char.isDigit)

def parseNumber : List Char → Option (Value × List Char)
  | '-' :: rest => (parseDigits rest).map fun (value, rest) => (.number (-value), rest)
  | input => (parseDigits input).map fun (value, rest) => (.number value, rest)

def parseComma : Bool → List Char → Option (List Char)
  | false, input => some input
  | true, ',' :: rest => some rest
  | true, _ => none

mutual

def parse : Nat → List Char → Option (Value × List Char)
  | 0, _ => none
  | fuel + 1, input =>
      match input with
      | 'n' :: 'u' :: 'l' :: 'l' :: rest => some (.null, rest)
      | 't' :: 'r' :: 'u' :: 'e' :: rest => some (.bool true, rest)
      | 'f' :: 'a' :: 'l' :: 's' :: 'e' :: rest => some (.bool false, rest)
      | '"' :: rest => (parseText rest).map fun (text, rest) => (.text (String.ofList text), rest)
      | '[' :: rest => (parseItems fuel false rest).map fun (items, rest) => (.array items, rest)
      | '\x7b' :: rest =>
          (parseFields fuel false rest).map fun (fields, rest) => (.object fields, rest)
      | input => parseNumber input

def parseItems : Nat → Bool → List Char → Option (List Value × List Char)
  | 0, _, _ => none
  | fuel + 1, more, input =>
      match input with
      | ']' :: rest => some ([], rest)
      | input => do
          let input ← parseComma more input
          let (item, input) ← parse fuel input
          let (items, input) ← parseItems fuel true input
          return (item :: items, input)

def parseFields : Nat → Bool → List Char → Option (List (String × Value) × List Char)
  | 0, _, _ => none
  | fuel + 1, more, input =>
      match input with
      | '\x7d' :: rest => some ([], rest)
      | input => do
          let input ← parseComma more input
          match input with
          | '"' :: input => do
              let (key, input) ← parseText input
              match input with
              | ':' :: input => do
                  let (item, input) ← parse fuel input
                  let (fields, input) ← parseFields fuel true input
                  return ((String.ofList key, item) :: fields, input)
              | _ => none
          | _ => none

end

def read (input : List Char) : Option Value :=
  match parse (input.length + 1) input with
  | some (value, []) => some value
  | _ => none

/-! ### Reading what was written -/

theorem parse_text_render (text rest : List Char) :
    parseText (renderText text ++ rest) = some (text, rest) := by
  induction text with
  | nil => rfl
  | cons c tail ih =>
      by_cases special : c = '"' ∨ c = '\\'
      · simp only [renderText, special, if_true, List.cons_append, parseText, ih, Option.map_some]
      · obtain ⟨notQuote, notEscape⟩ := not_or.mp special
        simp only [renderText, special, if_false, List.cons_append]
        rw [parseText]
        · simp [ih]
        · exact fun same => notQuote same
        · exact fun _ _ same => absurd same notEscape

/-- No digit follows. -/
def Clear (rest : List Char) : Prop := ∀ c ∈ rest.head?, c.isDigit = false

theorem parse_digits_render (value : Nat) (rest : List Char) (clear : Clear rest) :
    parseDigits (Nat.toDigits 10 value ++ rest) = some (value, rest) := by
  have digits : ∀ c ∈ Nat.toDigits 10 value, c.isDigit = true :=
    fun c member => Nat.isDigit_of_mem_toDigits (by decide) (by decide) member
  have front : (Nat.toDigits 10 value ++ rest).takeWhile Char.isDigit = Nat.toDigits 10 value := by
    rw [List.takeWhile_append_of_pos digits]
    cases rest with
    | nil => simp
    | cons c tail => simp [clear c rfl]
  have back : (Nat.toDigits 10 value ++ rest).dropWhile Char.isDigit = rest := by
    rw [List.dropWhile_append_of_pos digits]
    cases rest with
    | nil => simp
    | cons c tail => simp [clear c rfl]
  simp [parseDigits, front, back, Nat.toDigits_ne_nil, Nat.ofDigitChars_ten_toDigits]

theorem number_opens (value : Int) :
    ∃ c tail, renderNumber value = c :: tail ∧ (c = '-' ∨ c.isDigit = true) := by
  cases value with
  | ofNat value =>
      obtain ⟨c, tail, digits⟩ :=
        List.exists_cons_of_ne_nil (Nat.toDigits_ne_nil (n := value) (b := 10))
      have digit :=
        Nat.isDigit_of_mem_toDigits (b := 10) (n := value) (c := c) (by decide) (by decide)
        (by simp [digits])
      exact ⟨c, tail, digits, Or.inr digit⟩
  | negSucc value => exact ⟨'-', _, rfl, Or.inl rfl⟩

theorem parse_number_render (value : Int) (rest : List Char) (clear : Clear rest) :
    parseNumber (renderNumber value ++ rest) = some (.number value, rest) := by
  cases value with
  | ofNat value =>
      obtain ⟨c, tail, digits⟩ :=
        List.exists_cons_of_ne_nil (Nat.toDigits_ne_nil (n := value) (b := 10))
      have digit :=
        Nat.isDigit_of_mem_toDigits (b := 10) (n := value) (c := c) (by decide) (by decide)
        (by simp [digits])
      have parsed := parse_digits_render value rest clear
      rw [renderNumber]
      rw [digits] at parsed ⊢
      rw [List.cons_append, parseNumber]
      · rw [← List.cons_append, parsed]
        rfl
      · intro _ same
        injection same with head
        subst head
        exact absurd digit (by decide)
  | negSucc value =>
      have parsed := parse_digits_render (value + 1) rest clear
      simp only [renderNumber, List.cons_append, parseNumber, parsed, Option.map_some]
      rfl

/-- A number is none of the other values. -/
theorem parse_number_text (fuel : Nat) (c : Char) (tail : List Char)
    (opens : c = '-' ∨ c.isDigit = true) :
    parse (fuel + 1) (c :: tail) = parseNumber (c :: tail) := by
  rw [parse]
  all_goals
    intros
    rename_i same
    injection same with head
    subst head
    revert opens
    decide

theorem render_opens (value : Value) : ∃ c tail, render value = c :: tail ∧ c ≠ ']' := by
  cases value with
  | null => exact ⟨_, _, rfl, by decide⟩
  | bool value => cases value <;> exact ⟨_, _, rfl, by decide⟩
  | number value =>
      obtain ⟨c, tail, opened, start⟩ := number_opens value
      refine ⟨c, tail, by rw [render, opened], ?_⟩
      rintro rfl
      revert start
      decide
  | text value => exact ⟨_, _, by rw [render], by decide⟩
  | array items => exact ⟨_, _, by rw [render], by decide⟩
  | object fields => exact ⟨_, _, by rw [render], by decide⟩

theorem items_clear (items : List Value) (rest : List Char) :
    Clear (renderItems true items ++ rest) := by
  cases items <;> simp [Clear, renderItems, comma]

theorem fields_clear (fields : List (String × Value)) (rest : List Char) :
    Clear (renderFields true fields ++ rest) := by
  cases fields with
  | nil => simp [Clear, renderFields]
  | cons field fields => simp [Clear, renderFields, comma]

theorem parse_comma (more : Bool) (rest : List Char) :
    parseComma more (comma more ++ rest) = some rest := by
  cases more <;> rfl

theorem items_end (fuel : Nat) (more : Bool) (rest : List Char) :
    parseItems (fuel + 1) more (renderItems more [] ++ rest) = some ([], rest) := by
  simp [renderItems, parseItems]

theorem items_next (fuel : Nat) (more : Bool) (item : Value) (items : List Value)
    (rest : List Char)
    (first : ∀ rest, Clear rest → parse fuel (render item ++ rest) = some (item, rest))
    (others : ∀ rest, parseItems fuel true (renderItems true items ++ rest) = some (items, rest)) :
    parseItems (fuel + 1) more (renderItems more (item :: items) ++ rest) =
      some (item :: items, rest) := by
  have shape : renderItems more (item :: items) ++ rest =
      comma more ++ (render item ++ (renderItems true items ++ rest)) := by
    simp [renderItems]
  obtain ⟨c, tail, opened, notEnd⟩ := render_opens item
  rw [shape, parseItems]
  · simp [parse_comma, first _ (items_clear items rest), others rest]
  · intro input same
    cases more with
    | false =>
        rw [opened] at same
        injection same with head
        exact notEnd head
    | true =>
        injection same with head
        exact absurd head (by decide)

theorem fields_end (fuel : Nat) (more : Bool) (rest : List Char) :
    parseFields (fuel + 1) more (renderFields more [] ++ rest) = some ([], rest) := by
  simp [renderFields, parseFields]

theorem fields_next (fuel : Nat) (more : Bool) (key : String) (item : Value)
    (fields : List (String × Value)) (rest : List Char)
    (first : ∀ rest, Clear rest → parse fuel (render item ++ rest) = some (item, rest))
    (others : ∀ rest,
      parseFields fuel true (renderFields true fields ++ rest) = some (fields, rest)) :
    parseFields (fuel + 1) more (renderFields more ((key, item) :: fields) ++ rest) =
      some ((key, item) :: fields, rest) := by
  have shape : renderFields more ((key, item) :: fields) ++ rest =
      comma more ++ ('"' :: (renderText key.toList ++
        (':' :: (render item ++ (renderFields true fields ++ rest))))) := by
    simp [renderFields]
  rw [shape, parseFields]
  · simp [parse_comma, parse_text_render, first _ (fields_clear fields rest), others rest]
  · intro input same
    cases more <;>
      · injection same with head
        exact absurd head (by decide)

theorem render_long (value : Value) : 1 ≤ (render value).length := by
  obtain ⟨c, tail, opened, -⟩ := render_opens value
  simp [opened]

theorem items_long (more : Bool) (items : List Value) : 1 ≤ (renderItems more items).length := by
  cases items with
  | nil => simp [renderItems]
  | cons item items =>
      have := render_long item
      simp only [renderItems, List.length_append]
      omega

theorem fields_long (more : Bool) (fields : List (String × Value)) :
    1 ≤ (renderFields more fields).length := by
  cases fields with
  | nil => simp [renderFields]
  | cons field fields =>
      simp only [renderFields, List.length_append, List.length_cons]
      omega

mutual

/-- Enough rounds read a value back and leave what follows it. -/
theorem parse_render (value : Value) (fuel : Nat) (rest : List Char)
    (enough : (render value).length ≤ fuel) (clear : Clear rest) :
    parse fuel (render value ++ rest) = some (value, rest) := by
  have long := render_long value
  obtain ⟨fuel, rfl⟩ : ∃ less, fuel = less + 1 := ⟨fuel - 1, by omega⟩
  match value with
  | .null => rfl
  | .bool true => rfl
  | .bool false => rfl
  | .number value =>
      obtain ⟨c, tail, opened, start⟩ := number_opens value
      have parsed := parse_number_render value rest clear
      rw [opened] at parsed
      rw [render, opened, List.cons_append, parse_number_text fuel c _ start]
      exact parsed
  | .text value => simp [render, parse, parse_text_render]
  | .array items =>
      simp only [render, List.length_cons] at enough
      have inner := parse_items_render items fuel false rest (by omega)
      simp [render, parse, inner]
  | .object fields =>
      simp only [render, List.length_cons] at enough
      have inner := parse_fields_render fields fuel false rest (by omega)
      simp [render, parse, inner]

theorem parse_items_render (items : List Value) (fuel : Nat) (more : Bool) (rest : List Char)
    (enough : (renderItems more items).length ≤ fuel) :
    parseItems fuel more (renderItems more items ++ rest) = some (items, rest) := by
  have long := items_long more items
  obtain ⟨fuel, rfl⟩ : ∃ less, fuel = less + 1 := ⟨fuel - 1, by omega⟩
  match items with
  | [] => exact items_end fuel more rest
  | item :: items =>
      simp only [renderItems, List.length_append] at enough
      have first := render_long item
      have others := items_long true items
      exact items_next fuel more item items rest
        (fun rest clear => parse_render item fuel rest (by omega) clear)
        (fun rest => parse_items_render items fuel true rest (by omega))

theorem parse_fields_render (fields : List (String × Value)) (fuel : Nat) (more : Bool)
    (rest : List Char) (enough : (renderFields more fields).length ≤ fuel) :
    parseFields fuel more (renderFields more fields ++ rest) = some (fields, rest) := by
  have long := fields_long more fields
  obtain ⟨fuel, rfl⟩ : ∃ less, fuel = less + 1 := ⟨fuel - 1, by omega⟩
  match fields with
  | [] => exact fields_end fuel more rest
  | (key, item) :: fields =>
      simp only [renderFields, List.length_append, List.length_cons] at enough
      exact fields_next fuel more key item fields rest
        (fun rest clear => parse_render item fuel rest (by omega) clear)
        (fun rest => parse_fields_render fields fuel true rest (by omega))

end

theorem read_render (value : Value) : read (render value) = some value := by
  have parsed := parse_render value ((render value).length + 1) [] (by omega) (by simp [Clear])
  rw [List.append_nil] at parsed
  simp [read, parsed]

/-! ### Bytes -/

abbrev Bytes := List UInt8

/-- What callers rely on: reading undoes writing, the text of an object opens
    with a brace, and a lone control character is no JSON text. -/
structure Coder where
  encode : Value → Bytes
  decode : Bytes → Option Value
  decode_encode : ∀ value, decode (encode value) = some value
  opens : ∀ fields, (encode (.object fields)).head? = some 123
  control : decode [1] = none

/-- The text above in UTF-8. -/
def utf8 : Coder where
  encode value := (render value).flatMap String.utf8EncodeChar
  decode bytes := do
    let text ← bytes.toByteArray.utf8Decode?
    read text.toList
  decode_encode value := by
    change ((render value).utf8Encode.utf8Decode?.bind fun text => read text.toList) = some value
    simp [read_render]
  opens _ := rfl
  control := by
    change (['\x01'].utf8Encode.utf8Decode?.bind fun text => read text.toList) = none
    rw [List.utf8Decode?_utf8Encode]
    rfl

/-! ### Typed values -/

/-- The value of a key of an object. -/
def Value.key? (value : Value) (key : String) : Option Value :=
  match value with
  | .object fields => (fields.find? fun field => field.1 = key).map (·.2)
  | _ => none

structure Codec (α : Type) where
  write : α → Value
  read : Value → Option α
  read_write : ∀ value, read (write value) = some value

namespace Codec

def number : Codec Int where
  write := .number
  read
    | .number value => some value
    | _ => none
  read_write _ := rfl

def text : Codec String where
  write := .text
  read
    | .text value => some value
    | _ => none
  read_write _ := rfl

def list {α : Type} (item : Codec α) : Codec (List α) where
  write items := .array (items.map item.write)
  read
    | .array items => items.mapM item.read
    | _ => none
  read_write items := by
    induction items with
    | nil => rfl
    | cons first rest ih => simp_all [List.mapM_cons, item.read_write]

end Codec

section Typed
variable {α : Type} (coder : Coder) (codec : Codec α)

def Coder.encodeAs (value : α) : Bytes := coder.encode (codec.write value)

def Coder.decodeAs (bytes : Bytes) : Option α := (coder.decode bytes).bind codec.read

@[simp] theorem decode_encode_as (value : α) :
    coder.decodeAs codec (coder.encodeAs codec value) = some value := by
  simp [Coder.decodeAs, Coder.encodeAs, coder.decode_encode, codec.read_write]

@[simp] theorem decode_control : coder.decodeAs codec [1] = none := by
  simp [Coder.decodeAs, coder.control]

/-- A reader of another type sees the written JSON value. -/
theorem decode_other {β : Type} (other : Codec β) (value : α) :
    coder.decodeAs other (coder.encodeAs codec value) = other.read (codec.write value) := by
  simp [Coder.decodeAs, Coder.encodeAs, coder.decode_encode]

end Typed

end Library.Json
