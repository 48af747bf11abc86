import RelicRace.Maze.DeadEnds
import RelicRace.Maze.WellFormed

/-!
The dead ends that `openUpMap` leaves in the finished maze. Connections are
only added, so a dead end of the finished maze has been one from `carve` on, and
what its own turn in the scan has not opened leads to a room with three
connections, or is the way across that the filter drops.
-/

namespace RelicRace
open Library

namespace Maze

def DeadEnd (data : Grid MazeTile) (place : GridPosition) : Prop :=
  (links data place).length = 1

/-- Every direction of the border rule is connected, is the one that
    `nodeDirections` reports in the place of the connected one, or leads to a
    room with three connections. -/
def BoxedIn (data : Grid MazeTile) (place : GridPosition) : Prop :=
  ∀ possibility ∈ borderRule place.row place.column,
    Joined data place (place.towards possibility 1) ∨
      Joined data place (place.towards possibility.mirrored 1) ∨
      3 ≤ (links data (place.towards possibility 2)).length

/-- Connections are only added. -/
def Widens (before after : Grid MazeTile) : Prop :=
  ∀ source target, Joined before source target → Joined after source target

theorem Widens.trans {first second third : Grid MazeTile} (start : Widens first second)
    (next : Widens second third) : Widens first third :=
  fun source target wired => next source target (start source target wired)

section Widening
variable {before after : Grid MazeTile} {place : GridPosition}

theorem widens_length (unique : ∀ cell, (links before cell).Nodup) (wider : Widens before after)
    (cell : GridPosition) : (links before cell).length ≤ (links after cell).length :=
  ((unique cell).subperm fun target wired => wider cell target wired).length_le

/-- A dead end has been one before, with the same connection. -/
theorem dead_end_before (scanned : Scanned before) (scanned' : Scanned after)
    (wider : Widens before after) (deadEnd : DeadEnd after place) :
    DeadEnd before place ∧ ∀ target, Joined after place target → Joined before place target := by
  obtain ⟨room, -⟩ := dead_end_room _ _ after scanned'.1 place deadEnd
  have linked := (scanned_linked before scanned place).mp (scanned.2 place room)
  have some := List.length_pos_iff.mpr linked
  have most := widens_length scanned.1.nodup wider place
  rw [DeadEnd] at deadEnd
  have single : (links before place).length = 1 := by omega
  refine ⟨single, fun target wired => ?_⟩
  obtain ⟨only, listed⟩ := List.length_eq_one_iff.mp deadEnd
  obtain ⟨first, listed'⟩ := List.length_eq_one_iff.mp single
  have kept := wider place first (by simp [Joined, listed'])
  rw [Joined, listed, List.mem_singleton] at kept wired
  rw [Joined, listed', List.mem_singleton, wired, kept]

/-- Openings elsewhere leave a dead end boxed in, as long as it is one. -/
theorem boxed_in_widened (scanned : Scanned before) (scanned' : Scanned after)
    (wider : Widens before after) (boxed : DeadEnd before place → BoxedIn before place)
    (deadEnd : DeadEnd after place) : BoxedIn after place := by
  obtain ⟨earlier, -⟩ := dead_end_before scanned scanned' wider deadEnd
  intro possibility listed
  rcases boxed earlier possibility listed with here | mirrored | crossing
  · exact Or.inl (wider _ _ here)
  · exact Or.inr (Or.inl (wider _ _ mirrored))
  · exact Or.inr (Or.inr (crossing.trans (widens_length scanned.1.nodup wider _)))

end Widening

section Scan
variable {data : Grid MazeTile}

/-- A passage with two connections is floor, so it is connected to the room. -/
theorem passage_joined (scanned : Scanned data) (place : GridPosition) (floor : IsSpace data place)
    (possibility : Direction) (real : possibility ≠ .none)
    (linked : links data (place.towards possibility 1) ≠ []) :
    Joined data place (place.towards possibility 1) :=
  (scanned.1.joined _ _).mpr ⟨floor, (scanned_linked data scanned _).mpr linked,
    (straight_beside (towards_straight place possibility real)).1⟩

/-- The turn of a cell leaves it boxed in, if it stays a dead end. -/
theorem cell_boxes_in (scanned : Scanned data) (y x : Nat)
    (inside : Grid.Inside MAX_ROWS MAX_COLUMNS y x) :
    ∃ after, openUpCell data y x = .ok after ∧ Scanned after ∧ Widens data after ∧
      (DeadEnd after ⟨x, y⟩ → BoxedIn after ⟨x, y⟩) := by
  obtain ⟨after, ran, exact⟩ := cell_opens scanned y x inside
  obtain ⟨after', ran', scanned'⟩ := open_up_cell_keeps data scanned y x inside
  obtain rfl := Except.ok.inj (ran'.symm.trans ran)
  have wider : Widens data after' := fun source target wired =>
    (exact.joined source target).mpr (Or.inl wired)
  refine ⟨after', ran, scanned', wider, fun deadEnd possibility listed => ?_⟩
  obtain ⟨single, -⟩ := dead_end_before scanned scanned' wider deadEnd
  obtain ⟨-, floor⟩ := dead_end_room _ _ data scanned.1 _ single
  have real := border_rule_real _ _ _ listed
  by_cases mirrored : Joined data ⟨x, y⟩ (GridPosition.towards ⟨x, y⟩ possibility.mirrored 1)
  · exact Or.inr (Or.inl (wider _ _ mirrored))
  by_cases openable : Openable data ⟨x, y⟩ possibility
  · -- The direction is taken, so that its passage is connected now.
    have taken : Taken data ⟨x, y⟩ possibility := ⟨single, listed, mirrored, openable⟩
    exact Or.inl ((exact.joined _ _).mpr (Or.inr ⟨possibility, taken, Or.inl (Or.inl ⟨rfl, rfl⟩)⟩))
  · rcases not_and_or.mp openable with passage | crossing
    · have linked : links data (GridPosition.towards ⟨x, y⟩ possibility 1) ≠ [] := by
        intro none
        exact passage (by simp [none])
      exact Or.inl (wider _ _ (passage_joined scanned _ floor possibility real linked))
    · exact Or.inr (Or.inr ((not_le.mp crossing).trans_le
        (widens_length scanned.1.nodup wider _)))

/-- The invariant of the scan: the dead ends among the cells it has passed are boxed in. -/
structure BoxesIn (data : Grid MazeTile) (passed : GridPosition → Prop) (state : Grid MazeTile) :
    Prop where
  scanned : Scanned state
  wider : Widens data state
  boxed : ∀ place, passed place → DeadEnd state place → BoxedIn state place

/-- The cells before a column of a row. -/
def Passed (y x : Nat) (place : GridPosition) : Prop :=
  place.row < y ∨ place.row = y ∧ place.column < x

theorem boxes_in_next {state : Grid MazeTile} {y x : Nat}
    (inside : Grid.Inside MAX_ROWS MAX_COLUMNS y x) (boxes : BoxesIn data (Passed y x) state) :
    ∃ after, openUpCell state y x = .ok after ∧ BoxesIn data (Passed y (x + 1)) after := by
  obtain ⟨after, ran, scanned, wider, boxed⟩ := cell_boxes_in boxes.scanned y x inside
  refine ⟨after, ran, scanned, boxes.wider.trans wider, fun place passed deadEnd => ?_⟩
  by_cases here : place = ⟨x, y⟩
  · subst here
    exact boxed deadEnd
  · have earlier : Passed y x place := by
      have apart : ¬ (place.column = x ∧ place.row = y) :=
        fun same => here (GridPosition.ext same.1 same.2)
      simp only [Passed] at passed ⊢
      omega
    exact boxed_in_widened boxes.scanned scanned wider (boxes.boxed place earlier) deadEnd

theorem row_boxes_in {state : Grid MazeTile} {y : Nat} (within : y < MAX_ROWS)
    (boxes : BoxesIn data (Passed y 0) state) :
    ∃ after, openUpRow state y = .ok after ∧ BoxesIn data (Passed (y + 1) 0) after := by
  obtain ⟨after, ran, passed⟩ := Loops.up_to_carries (fun data x => openUpCell data y x) MAX_COLUMNS
    (fun x => BoxesIn data (Passed y x))
    (fun x reach middle boxes => boxes_in_next (by simp only [Grid.Inside]; omega) boxes)
    state boxes MAX_COLUMNS le_rfl
  rw [openUpRow, Grid.row_length state _ _ boxes.scanned.1.shape y within]
  refine ⟨after, ran, passed.scanned, passed.wider, fun place above deadEnd => ?_⟩
  obtain ⟨⟨-, -, interior⟩, -⟩ := dead_end_room _ _ after passed.scanned.1 place deadEnd
  refine passed.boxed place ?_ deadEnd
  simp only [Interior, Passed] at interior above ⊢
  omega

theorem map_boxes_in (scanned : Scanned data) :
    ∃ after, openUpMap data = .ok after ∧ BoxesIn data (Passed MAX_ROWS 0) after := by
  have first : BoxesIn data (Passed 0 0) data := by
    refine ⟨scanned, fun _ _ wired => wired, fun place passed deadEnd => ?_⟩
    obtain ⟨⟨-, -, interior⟩, -⟩ := dead_end_room _ _ data scanned.1 place deadEnd
    simp only [Interior, Passed] at interior passed
    omega
  rw [openUpMap, scanned.1.shape.1]
  exact Loops.up_to_carries openUpRow MAX_ROWS (fun y => BoxesIn data (Passed y 0))
    (fun y within state boxes => row_boxes_in within boxes) data first MAX_ROWS le_rfl

end Scan

theorem beside_towards (place target : GridPosition) (beside : EdgeAdjacent place target) :
    ∃ possibility, possibility ≠ .none ∧ target = place.towards possibility 1 := by
  simp only [GridPosition.ext_iff, GridPosition.towards]
  rcases beside with ⟨row, shift | shift⟩ | ⟨column, shift | shift⟩
  · exact ⟨.left, by simp, by simp only [Direction.offset]; omega⟩
  · exact ⟨.right, by simp, by simp only [Direction.offset]; omega⟩
  · exact ⟨.up, by simp, by simp only [Direction.offset]; omega⟩
  · exact ⟨.down, by simp, by simp only [Direction.offset]; omega⟩

/-- A dead end is connected in one direction. -/
theorem dead_end_exit {data : Grid MazeTile} (scanned : Scanned data) (place : GridPosition)
    (deadEnd : DeadEnd data place) : ∃ exit, exit ≠ .none ∧ ∀ possibility, possibility ≠ .none →
      (Joined data place (place.towards possibility 1) ↔ possibility = exit) := by
  obtain ⟨target, only⟩ := List.length_eq_one_iff.mp deadEnd
  have wired : Joined data place target := by simp [Joined, only]
  obtain ⟨exit, real, rfl⟩ := beside_towards place target ((scanned.1.joined _ _).mp wired).2.2
  refine ⟨exit, real, fun possibility real' => ⟨fun joined => ?_, fun same => same ▸ wired⟩⟩
  rw [Joined, only, List.mem_singleton] at joined
  by_contra apart
  exact towards_apart place possibility exit real' real apart 1 1 (Or.inl rfl) (Or.inl rfl) joined

theorem mirrored_real (possibility : Direction) (real : possibility ≠ .none) :
    possibility.mirrored ≠ .none := by
  cases possibility <;> simp_all [Direction.mirrored]

/-- In every generated maze a dead end was one when `carve` was done, with the same
    connection; and every other direction of the border rule leads to a room with
    at least three connections, except for the way across from a sideways connection. -/
theorem dead_ends_boxed_in (extra : Nat) (draws : Nat → Nat) :
    ∃ before maze,
      carved MAX_COLUMNS MAX_ROWS (roundBound MAX_COLUMNS MAX_ROWS + extra) draws = .ok before ∧
      generate MAX_COLUMNS MAX_ROWS (roundBound MAX_COLUMNS MAX_ROWS + extra) draws = .ok maze ∧
      ∀ place, DeadEnd maze.data place → DeadEnd before.data place ∧
        ∃ exit, Joined before.data place (place.towards exit 1) ∧
          Joined maze.data place (place.towards exit 1) ∧
          ∀ possibility ∈ borderRule place.row place.column,
            possibility = exit ∨ possibility.mirrored = exit ∨
              3 ≤ (links maze.data (place.towards possibility 2)).length := by
  obtain ⟨before, ran, laid, -, -, rooms⟩ := carved_returns MAX_COLUMNS MAX_ROWS
    (roundBound MAX_COLUMNS MAX_ROWS + extra) draws (by decide) (by decide) (by omega)
  obtain ⟨data, opened, boxes⟩ := map_boxes_in ⟨laid, rooms⟩
  refine ⟨before, { before with data, graph := graphOf data }, ran,
    by simp [generate, ran, opened], fun place deadEnd => ?_⟩
  obtain ⟨earlier, kept⟩ := dead_end_before ⟨laid, rooms⟩ boxes.scanned boxes.wider deadEnd
  obtain ⟨exit, real, only⟩ := dead_end_exit boxes.scanned place deadEnd
  have wired := (only exit real).mpr rfl
  have inside : Passed MAX_ROWS 0 place := by
    obtain ⟨⟨-, -, interior⟩, -⟩ := dead_end_room _ _ data boxes.scanned.1 place deadEnd
    simp only [Interior, Passed] at interior ⊢
    omega
  refine ⟨earlier, exit, kept _ wired, wired, fun possibility listed => ?_⟩
  have proposed := border_rule_real _ _ _ listed
  rcases boxes.boxed place inside deadEnd possibility listed with here | mirrored | crossing
  · exact Or.inl ((only possibility proposed).mp here)
  · exact Or.inr (Or.inl ((only _ (mirrored_real possibility proposed)).mp mirrored))
  · exact Or.inr (Or.inr crossing)

end Maze
end RelicRace
