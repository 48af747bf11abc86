import Mathlib.Data.List.Basic
import Mathlib.Tactic.SplitIfs

/-!
Rectangular tables stored row by row, read and written through integer
coordinates. A read outside the table is `none`, so a program that traps on a
bad index is modelled by matching on the read. The lemmas below let a client
reason about a table as a finite map and never unfold the stored lists.
-/

namespace Library

universe u v

/-- A table as the list of its rows. -/
abbrev Grid (α : Type u) := List (List α)

namespace Grid
variable {α : Type u} {β : Type v}

def at? (grid : Grid α) : Int → Int → Option α
  | .ofNat row, .ofNat column => (grid[row]?).bind (fun cells => cells[column]?)
  | _, _ => none

def put (grid : Grid α) : Int → Int → α → Grid α
  | .ofNat row, .ofNat column, value => grid.modify row (fun cells => cells.set column value)
  | _, _, _ => grid

def Shape (grid : Grid α) (rows columns : Nat) : Prop :=
  grid.length = rows ∧ ∀ cells ∈ grid, cells.length = columns

def Inside (rows columns : Nat) (row column : Int) : Prop :=
  0 ≤ row ∧ row < rows ∧ 0 ≤ column ∧ column < columns

instance (rows columns : Nat) (row column : Int) : Decidable (Inside rows columns row column) :=
  inferInstanceAs (Decidable (_ ∧ _))

def tabulate (rows columns : Nat) (cell : Nat → Nat → α) : Grid α :=
  (List.range rows).map fun row => (List.range columns).map fun column => cell row column

theorem at_nat (grid : Grid α) (row column : Nat) :
    grid.at? (row : Int) (column : Int) = (grid[row]?).bind (fun cells => cells[column]?) := rfl

theorem at_outside (grid : Grid α) (row column : Int) (outside : row < 0 ∨ column < 0) :
    grid.at? row column = none := by
  cases row with
  | negSucc row => rfl
  | ofNat row =>
      cases column with
      | negSucc column => rfl
      | ofNat column =>
          simp only [Int.ofNat_eq_natCast] at outside
          omega

theorem at_some_iff (grid : Grid α) (rows columns : Nat) (shape : grid.Shape rows columns)
    (row column : Int) :
    (∃ value, grid.at? row column = some value) ↔ Inside rows columns row column := by
  by_cases outside : row < 0 ∨ column < 0
  · rw [at_outside grid row column outside]
    simp only [reduceCtorEq, exists_false, false_iff, Inside]
    omega
  · obtain ⟨r, rfl⟩ := Int.eq_ofNat_of_zero_le (show 0 ≤ row by omega)
    obtain ⟨c, rfl⟩ := Int.eq_ofNat_of_zero_le (show 0 ≤ column by omega)
    rw [at_nat]
    by_cases within : r < grid.length
    · have width := shape.2 grid[r] (List.getElem_mem within)
      have height := shape.1
      rw [List.getElem?_eq_getElem within, Option.bind_some]
      by_cases reach : c < grid[r].length
      · rw [List.getElem?_eq_getElem reach]
        simp only [Option.some.injEq, exists_eq', true_iff, Inside]
        omega
      · rw [List.getElem?_eq_none (by omega)]
        simp only [reduceCtorEq, exists_false, false_iff, Inside]
        omega
    · have height := shape.1
      rw [List.getElem?_eq_none (by omega)]
      simp only [Option.bind_none, reduceCtorEq, exists_false, false_iff, Inside]
      omega

theorem at_inside (grid : Grid α) (rows columns : Nat) (shape : grid.Shape rows columns)
    (row column : Int) (inside : Inside rows columns row column) :
    ∃ value, grid.at? row column = some value :=
  (at_some_iff grid rows columns shape row column).mpr inside

theorem inside_of_at (grid : Grid α) (rows columns : Nat) (shape : grid.Shape rows columns)
    (row column : Int) (value : α) (hit : grid.at? row column = some value) :
    Inside rows columns row column :=
  (at_some_iff grid rows columns shape row column).mp ⟨value, hit⟩

theorem at_none_of_not_inside (grid : Grid α) (rows columns : Nat)
    (shape : grid.Shape rows columns) (row column : Int)
    (outside : ¬ Inside rows columns row column) : grid.at? row column = none := by
  cases hit : grid.at? row column with
  | none => rfl
  | some value =>
      exact absurd (inside_of_at grid rows columns shape row column value hit) outside

theorem row_length (grid : Grid α) (rows columns : Nat) (shape : grid.Shape rows columns)
    (row : Nat) (within : row < rows) : (grid[row]?.getD []).length = columns := by
  have bound : row < grid.length := by rw [shape.1]; exact within
  rw [List.getElem?_eq_getElem bound, Option.getD_some]
  exact shape.2 _ (List.getElem_mem bound)

theorem shape_put (grid : Grid α) (rows columns : Nat) (shape : grid.Shape rows columns)
    (row column : Int) (value : α) : (grid.put row column value).Shape rows columns := by
  cases row with
  | negSucc row => exact shape
  | ofNat row =>
      cases column with
      | negSucc column => exact shape
      | ofNat column =>
          refine ⟨by simpa [put] using shape.1, ?_⟩
          intro cells member
          obtain ⟨index, within, rfl⟩ := List.getElem_of_mem member
          have bound : index < grid.length := by simpa [put] using within
          have width := shape.2 grid[index] (List.getElem_mem bound)
          simp only [put, List.getElem_modify]
          split_ifs <;> simpa using width

/-- A write is seen at its own place and nowhere else. -/
theorem at_put (grid : Grid α) (row column : Int) (value old : α)
    (present : grid.at? row column = some old) (row' column' : Int) :
    (grid.put row column value).at? row' column' =
      if row' = row ∧ column' = column then some value else grid.at? row' column' := by
  by_cases outside : row < 0 ∨ column < 0
  · rw [at_outside grid row column outside] at present
    cases present
  obtain ⟨r, rfl⟩ := Int.eq_ofNat_of_zero_le (show 0 ≤ row by omega)
  obtain ⟨c, rfl⟩ := Int.eq_ofNat_of_zero_le (show 0 ≤ column by omega)
  by_cases negative : row' < 0 ∨ column' < 0
  · rw [at_outside _ row' column' negative, at_outside _ row' column' negative, if_neg (by omega)]
  obtain ⟨r', rfl⟩ := Int.eq_ofNat_of_zero_le (show 0 ≤ row' by omega)
  obtain ⟨c', rfl⟩ := Int.eq_ofNat_of_zero_le (show 0 ≤ column' by omega)
  rw [at_nat] at present
  simp only [put, at_nat, List.getElem?_modify, Int.natCast_inj]
  by_cases sameRow : r = r'
  · subst sameRow
    cases cells : grid[r]? with
    | none => simp [cells] at present
    | some cells =>
        simp only [cells, Option.bind_some] at present
        have width := (List.getElem?_eq_some_iff.mp present).1
        by_cases sameColumn : c = c'
        · subst sameColumn
          simp [width]
        · simp [sameColumn, Ne.symm sameColumn]
  · simp [sameRow, Ne.symm sameRow]

theorem tabulate_shape (rows columns : Nat) (cell : Nat → Nat → α) :
    (tabulate rows columns cell).Shape rows columns := by
  refine ⟨by simp [tabulate], ?_⟩
  intro cells member
  obtain ⟨row, -, rfl⟩ := List.mem_map.mp member
  simp

theorem at_tabulate (rows columns : Nat) (cell : Nat → Nat → α) (row column : Nat)
    (within : row < rows) (reach : column < columns) :
    (tabulate rows columns cell).at? (row : Int) (column : Int) = some (cell row column) := by
  simp [at_nat, tabulate, within, reach]

/-- A table is determined by the cells inside its shape. -/
theorem tabulate_of_at (grid : Grid α) (rows columns : Nat) (shape : grid.Shape rows columns)
    (cell : Nat → Nat → α)
    (cells : ∀ row column, row < rows → column < columns →
      grid.at? (row : Int) (column : Int) = some (cell row column)) :
    tabulate rows columns cell = grid := by
  apply List.ext_getElem
  · simp [tabulate, shape.1]
  · intro row within within'
    have height : row < rows := by simpa [tabulate] using within
    apply List.ext_getElem
    · simp [tabulate, shape.2 grid[row] (List.getElem_mem within')]
    · intro column reach reach'
      have width : column < columns := by simpa [tabulate] using reach
      have hit := cells row column height width
      simp only [at_nat, within', List.getElem?_eq_getElem, Option.bind_some, reach',
        Option.some.injEq] at hit
      simp [tabulate, hit]

theorem map_shape (grid : Grid α) (rows columns : Nat) (shape : grid.Shape rows columns)
    (change : α → β) : Shape (grid.map fun cells => cells.map change) rows columns := by
  refine ⟨by simpa using shape.1, ?_⟩
  intro cells member
  obtain ⟨old, listed, rfl⟩ := List.mem_map.mp member
  simpa using shape.2 old listed

theorem at_map (grid : Grid α) (change : α → β) (row column : Int) :
    at? (grid.map fun cells => cells.map change) row column =
      (grid.at? row column).map change := by
  cases row with
  | negSucc row => rfl
  | ofNat row =>
      cases column with
      | negSucc column => rfl
      | ofNat column =>
          simp only [at?, List.getElem?_map]
          cases grid[row]? <;> simp

theorem mem_flatten_iff (grid : Grid α) (value : α) :
    value ∈ grid.flatten ↔ ∃ row column, grid.at? row column = some value := by
  constructor
  · intro member
    obtain ⟨cells, listed, inner⟩ := List.mem_flatten.mp member
    obtain ⟨r, within, rfl⟩ := List.getElem_of_mem listed
    obtain ⟨c, reach, rfl⟩ := List.getElem_of_mem inner
    exact ⟨r, c, by simp [at_nat, within, reach]⟩
  · rintro ⟨row, column, hit⟩
    by_cases outside : row < 0 ∨ column < 0
    · simp [at_outside grid row column outside] at hit
    · obtain ⟨r, rfl⟩ := Int.eq_ofNat_of_zero_le (show 0 ≤ row by omega)
      obtain ⟨c, rfl⟩ := Int.eq_ofNat_of_zero_le (show 0 ≤ column by omega)
      obtain ⟨cells, listed, inner⟩ := Option.bind_eq_some_iff.mp hit
      exact List.mem_flatten.mpr
        ⟨cells, List.mem_of_getElem? listed, List.mem_of_getElem? inner⟩

/-- A test of every cell decides the statement about every place inside. -/
theorem all_cells_iff (grid : Grid α) (test : α → Bool) :
    grid.all (fun cells => cells.all test) = true ↔
      ∀ row column value, grid.at? row column = some value → test value = true := by
  constructor
  · intro every row column value hit
    obtain ⟨cells, listed, inner⟩ :=
      List.mem_flatten.mp ((mem_flatten_iff grid value).mpr ⟨row, column, hit⟩)
    exact List.all_eq_true.mp (List.all_eq_true.mp every cells listed) value inner
  · intro every
    refine List.all_eq_true.mpr fun cells member => List.all_eq_true.mpr fun value inner => ?_
    obtain ⟨row, column, hit⟩ :=
      (mem_flatten_iff grid value).mp (List.mem_flatten.mpr ⟨cells, member, inner⟩)
    exact every row column value hit

/-- The cells in reading order: cell `(row, column)` of a full table stands at
    `row * columns + column`. -/
theorem flatten_at (grid : Grid α) (rows columns : Nat) (shape : grid.Shape rows columns)
    (row column : Nat) (reach : column < columns) :
    grid.flatten[row * columns + column]? = grid.at? (row : Int) (column : Int) := by
  induction grid generalizing rows row with
  | nil => simp [at_nat]
  | cons cells rest ih =>
      have width : cells.length = columns := shape.2 cells List.mem_cons_self
      have tail : Shape rest rest.length columns :=
        ⟨rfl, fun other member => shape.2 other (List.mem_cons_of_mem cells member)⟩
      cases row with
      | zero =>
          rw [List.flatten_cons, List.getElem?_append_left (by omega), Nat.zero_mul, Nat.zero_add]
          rfl
      | succ row =>
          rw [List.flatten_cons, List.getElem?_append_right (by rw [width, Nat.succ_mul]; omega)]
          have index : (row + 1) * columns + column - cells.length = row * columns + column := by
            rw [width, Nat.succ_mul]; omega
          rw [index, ih rest.length tail row]
          rfl

theorem flatten_length (grid : Grid α) (rows columns : Nat) (shape : grid.Shape rows columns) :
    grid.flatten.length = rows * columns := by
  induction grid generalizing rows with
  | nil => simp [← shape.1]
  | cons cells rest ih =>
      have width : cells.length = columns := shape.2 cells List.mem_cons_self
      have tail : Shape rest rest.length columns :=
        ⟨rfl, fun other member => shape.2 other (List.mem_cons_of_mem cells member)⟩
      have height : rest.length + 1 = rows := shape.1
      rw [List.flatten_cons, List.length_append, ih rest.length tail, width, ← height, Nat.succ_mul]
      omega

end Grid
end Library
