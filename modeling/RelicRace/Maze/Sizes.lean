import RelicRace.Maze.DeadEnds

/-!
`Maze(width:height:)` at other sizes than 37x21. `carve` works with `mazeWidth`
and `mazeHeight`, but the border rule of `openUpMap` compares with the constants
of the class. At another size a dead end before the last column or row is not
recognized, and the cell two steps behind the border is read.
-/

namespace RelicRace
open Library

namespace Maze

/-- What the initializer owes for its parameters. -/
structure Honoured (width height : Nat) (data : Grid MazeTile) : Prop where
  shape : data.Shape height width
  border : ∀ place tile, tileAt? data place = some tile →
    place.row = 0 ∨ place.row = (height : Int) - 1 ∨
      place.column = 0 ∨ place.column = (width : Int) - 1 → tile.cellType = .Wall
  reachable : ∀ source target, IsSpace data source → IsSpace data target →
    Relation.ReflTransGen (Joined data) source target

def Honours (width height limit : Nat) (draws : Nat → Nat) : Prop :=
  ∃ maze, generate width height limit draws = .ok maze ∧ Honoured width height maze.data

/-- A dead end that the border rule does not see at the border: in the last
    column of rooms without a connection to the left, or in the last row of
    rooms, while no constant of the class meets its column or row. -/
def Strays (width height : Nat) (data : Grid MazeTile) (place : GridPosition) : Prop :=
  (links data place).length = 1 ∧
    ((place.column = (width : Int) - 2 ∧ place.column ≠ (MAX_COLUMNS : Int) - 2 ∧
        place.row ≠ 1 ∧ place.row ≠ (MAX_ROWS : Int) - 2 ∧
        ¬ Joined data place ⟨place.column - 1, place.row⟩) ∨
      (place.row = (height : Int) - 2 ∧ place.row ≠ (MAX_ROWS : Int) - 2 ∧
        place.column ≠ 1 ∧ place.column ≠ (MAX_COLUMNS : Int) - 2))

theorem border_rule_iff (y x : Int) (possibility : Direction) :
    possibility ∈ borderRule y x ↔
      (possibility = .left ∧ x = (MAX_COLUMNS : Int) - 2) ∨ (possibility = .right ∧ x = 1) ∨
        (possibility = .up ∧ y = (MAX_ROWS : Int) - 2) ∨ (possibility = .down ∧ y = 1) ∨
        (possibility ≠ .none ∧ x ≠ (MAX_COLUMNS : Int) - 2 ∧ x ≠ 1 ∧
          y ≠ (MAX_ROWS : Int) - 2 ∧ y ≠ 1) := by
  refine ⟨border_rule_cases y x possibility, ?_⟩
  rintro (⟨rfl, rfl⟩ | ⟨rfl, rfl⟩ | ⟨rfl, rfl⟩ | ⟨rfl, rfl⟩ | ⟨real, away⟩)
  · simp [borderRule]
  · simp [borderRule, MAX_COLUMNS]
  · simp [borderRule]
  · simp [borderRule, MAX_ROWS]
  · obtain ⟨lastColumn, firstColumn, lastRow, firstRow⟩ := away
    cases possibility <;> simp_all [borderRule]

section Cell
variable {width height : Nat} {data : Grid MazeTile} {place : GridPosition}

/-- Two cells from a room there is a room, unless the map ends before it. -/
theorem towards_room (oddWidth : width % 2 = 1) (oddHeight : height % 2 = 1)
    (room : IsRoom width height place) (possibility : Direction)
    (inside : Grid.Inside height width (place.towards possibility 2).row
      (place.towards possibility 2).column) :
    IsRoom width height (place.towards possibility 2) := by
  simp only [IsRoom, Interior, Grid.Inside, GridPosition.towards] at room inside ⊢
  cases possibility <;> simp only [Direction.offset] at inside ⊢ <;> omega

theorem try_possibility_outside (shape : data.Shape height width) (possibility : Direction)
    (outside : ¬ Grid.Inside height width (place.towards possibility 2).row
      (place.towards possibility 2).column) (after : Grid MazeTile) :
    tryPossibility place data possibility ≠ .ok after := by
  intro ran
  have missing : tileAt? data (place.towards possibility 2) = none :=
    Grid.at_none_of_not_inside data height width shape _ _ outside
  obtain ⟨tile1, -, ran⟩ := (run_bind_iff _ _ _).mp ran
  obtain ⟨tile2, found, -⟩ := (run_bind_iff _ _ _).mp ran
  rw [missing] at found
  cases found

/-- What the rounds of one dead end keep. -/
def CellKept (width height : Nat) (place : GridPosition) (data : Grid MazeTile) : Prop :=
  WellLaid width height data ∧ IsSpace data place

theorem try_possibility_returns_iff (oddWidth : width % 2 = 1) (oddHeight : height % 2 = 1)
    (room : IsRoom width height place) (possibility : Direction) (real : possibility ≠ .none)
    (kept : CellKept width height place data) :
    (∃ after, tryPossibility place data possibility = .ok after) ↔
      Grid.Inside height width (place.towards possibility 2).row
        (place.towards possibility 2).column := by
  constructor
  · rintro ⟨after, ran⟩
    by_contra outside
    exact try_possibility_outside kept.1.shape possibility outside after ran
  · intro inside
    obtain ⟨after, ran, -⟩ := try_possibility_keeps width height data kept.1 place possibility room
      kept.2 real (towards_room oddWidth oddHeight room possibility inside)
    exact ⟨after, ran⟩

theorem try_possibility_kept (oddWidth : width % 2 = 1) (oddHeight : height % 2 = 1)
    (room : IsRoom width height place) (possibility : Direction) (real : possibility ≠ .none)
    (kept : CellKept width height place data) (after : Grid MazeTile)
    (ran : tryPossibility place data possibility = .ok after) :
    CellKept width height place after := by
  have inside := (try_possibility_returns_iff oddWidth oddHeight room possibility real kept).mp
    ⟨after, ran⟩
  obtain ⟨after', ran', laid, grows⟩ := try_possibility_keeps width height data kept.1 place
    possibility room kept.2 real (towards_room oddWidth oddHeight room possibility inside)
  obtain rfl := Except.ok.inj (ran'.symm.trans ran)
  exact ⟨laid, grows place kept.2⟩

/-- The directions of a dead end stay in the map exactly when it does not stray. -/
theorem candidates_inside_iff (wide : 5 ≤ width) (tall : 5 ≤ height)
    (laid : WellLaid width height data) (single : (links data place).length = 1)
    {tile : MazeTile} (present : tileAt? data place = some tile) :
    (∀ possibility ∈ candidates tile.node place.row place.column,
      Grid.Inside height width (place.towards possibility 2).row
        (place.towards possibility 2).column) ↔ ¬ Strays width height data place := by
  obtain ⟨⟨-, -, bounds⟩, -⟩ := dead_end_room width height data laid place single
  have left1 : place.towards .left 1 = ⟨place.column - 1, place.row⟩ := by
    simp [GridPosition.towards, Direction.offset]
    omega
  -- Below the last row of rooms there is no floor to be connected to.
  have below (last : place.row = (height : Int) - 2) :
      ¬ Joined data place (place.towards .down 1) := by
    intro joined
    have inner := laid.interior _ ((laid.joined _ _).mp joined).2.1
    simp only [Interior, GridPosition.towards, Direction.offset] at inner
    omega
  simp only [Interior] at bounds
  constructor
  · rintro inside ⟨-, ⟨last, column, first, row, apart⟩ | ⟨last, row, first, column⟩⟩
    · have listed : Direction.right ∈ candidates tile.node place.row place.column := by
        rw [candidate_iff laid present .right (by simp), border_rule_iff]
        exact ⟨by simp; omega, by rw [Direction.mirrored, left1]; exact apart⟩
      have reach := inside .right listed
      simp only [Grid.Inside, GridPosition.towards, Direction.offset] at reach
      omega
    · have listed : Direction.down ∈ candidates tile.node place.row place.column := by
        rw [candidate_iff laid present .down (by simp), border_rule_iff]
        exact ⟨by simp; omega, below last⟩
      have reach := inside .down listed
      simp only [Grid.Inside, GridPosition.towards, Direction.offset] at reach
      omega
  · intro stays possibility listed
    have proposed := (List.mem_filter.mp listed).1
    have real := border_rule_real _ _ _ proposed
    obtain ⟨-, apart⟩ := (candidate_iff laid present possibility real).mp listed
    rw [border_rule_iff] at proposed
    by_contra outside
    simp only [Grid.Inside, GridPosition.towards] at outside
    simp only [MAX_COLUMNS, MAX_ROWS] at proposed
    refine stays ⟨single, ?_⟩
    simp only [MAX_COLUMNS, MAX_ROWS]
    cases possibility with
    | none => exact absurd rfl real
    | up => simp [Direction.offset] at outside proposed; omega
    | down => simp [Direction.offset] at outside proposed; omega
    | left => simp [Direction.offset] at outside proposed; omega
    | right =>
        rw [Direction.mirrored, left1] at apart
        simp [Direction.offset] at outside proposed
        exact Or.inl ⟨by omega, by omega, by omega, by omega, apart⟩

end Cell

section Scan
variable {width height : Nat} {data : Grid MazeTile}

theorem open_up_cell_kept (oddWidth : width % 2 = 1) (oddHeight : height % 2 = 1)
    (laid : WellLaid width height data) (y x : Nat) (after : Grid MazeTile)
    (ran : openUpCell data y x = .ok after) : WellLaid width height after := by
  obtain ⟨tile, present, ran⟩ := (run_bind_iff _ _ _).mp ran
  have here := (indexed_ok_iff _ _).mp present
  by_cases single : tile.node.connectedNodes.length = 1
  · rw [if_neg (not_not.mpr single)] at ran
    have deadEnd : (links data ⟨x, y⟩).length = 1 := by simpa [links, here] using single
    obtain ⟨room, floor⟩ := dead_end_room width height data laid ⟨x, y⟩ deadEnd
    refine (Loops.listed_keeps (tryPossibility ⟨x, y⟩) (CellKept width height ⟨x, y⟩) _
      ?_ data after ⟨laid, floor⟩ ran).1
    intro possibility listed state next kept went
    have real := border_rule_real _ _ _ (List.mem_filter.mp listed).1
    exact try_possibility_kept oddWidth oddHeight room possibility real kept next went
  · rw [if_pos single] at ran
    exact Except.ok.inj ran ▸ laid

theorem open_up_cell_returns_iff (wide : 5 ≤ width) (tall : 5 ≤ height)
    (oddWidth : width % 2 = 1) (oddHeight : height % 2 = 1) (laid : WellLaid width height data)
    (y x : Nat) (within : y < height) (reach : x < width) :
    (∃ after, openUpCell data y x = .ok after) ↔ ¬ Strays width height data ⟨x, y⟩ := by
  obtain ⟨tile, present⟩ := Grid.at_inside data height width laid.shape y x
    (by simp only [Grid.Inside]; omega)
  have here : tileAt? data ⟨x, y⟩ = some tile := present
  have count : (links data ⟨x, y⟩).length = tile.node.connectedNodes.length := by
    rw [links, here]
  simp only [openUpCell, here, indexed, run_ok]
  by_cases single : tile.node.connectedNodes.length = 1
  · obtain ⟨room, floor⟩ := dead_end_room width height data laid ⟨x, y⟩ (count.trans single)
    rw [if_neg (not_not.mpr single),
      ← candidates_inside_iff wide tall laid (count.trans single) here]
    have real (possibility : Direction) (listed : possibility ∈ candidates tile.node y x) :=
      border_rule_real _ _ _ (List.mem_filter.mp listed).1
    refine Loops.listed_returns_iff (tryPossibility ⟨x, y⟩) (CellKept width height ⟨x, y⟩) _ _
      ?_ ?_ data ⟨laid, floor⟩
    · intro possibility listed state next kept went
      exact try_possibility_kept oddWidth oddHeight room possibility (real possibility listed)
        kept next went
    · intro possibility listed state kept
      exact try_possibility_returns_iff oddWidth oddHeight room possibility
        (real possibility listed) kept
  · rw [if_pos single]
    exact iff_of_true ⟨data, rfl⟩ fun strays => single (count.symm.trans strays.1)

/-- The part of a row before a column. -/
def rowBefore (data : Grid MazeTile) (y x : Nat) : Except Fault (Grid MazeTile) :=
  Loops.upTo (fun data x => openUpCell data y x) data x

theorem row_before_kept (oddWidth : width % 2 = 1) (oddHeight : height % 2 = 1)
    (laid : WellLaid width height data) (y x : Nat) (reached : Grid MazeTile)
    (ran : rowBefore data y x = .ok reached) : WellLaid width height reached :=
  Loops.up_to_keeps (fun data x => openUpCell data y x) (WellLaid width height) x
    (fun column _ _ next kept went =>
      open_up_cell_kept oddWidth oddHeight kept y column next went)
    data laid x (Nat.le_refl x) reached ran

theorem open_up_row_kept (oddWidth : width % 2 = 1) (oddHeight : height % 2 = 1)
    (laid : WellLaid width height data) (y : Nat) (after : Grid MazeTile)
    (ran : openUpRow data y = .ok after) : WellLaid width height after :=
  row_before_kept oddWidth oddHeight laid y _ after ran

theorem open_up_row_returns_iff (wide : 5 ≤ width) (tall : 5 ≤ height)
    (oddWidth : width % 2 = 1) (oddHeight : height % 2 = 1) (laid : WellLaid width height data)
    (y : Nat) (within : y < height) :
    (∃ after, openUpRow data y = .ok after) ↔
      ∀ x < width, ∀ state, rowBefore data y x = .ok state →
        ¬ Strays width height state ⟨x, y⟩ := by
  rw [openUpRow, Grid.row_length data _ _ laid.shape y within]
  exact Loops.returns_iff (fun data x => openUpCell data y x) (WellLaid width height)
    (fun state x => ¬ Strays width height state ⟨x, y⟩) width
    (fun x _ _ next kept went => open_up_cell_kept oddWidth oddHeight kept y x next went)
    (fun x reach _ kept =>
      open_up_cell_returns_iff wide tall oddWidth oddHeight kept y x within reach)
    data laid

theorem open_up_map_kept (oddWidth : width % 2 = 1) (oddHeight : height % 2 = 1)
    (laid : WellLaid width height data) (after : Grid MazeTile)
    (ran : openUpMap data = .ok after) : WellLaid width height after :=
  Loops.up_to_keeps openUpRow (WellLaid width height) data.length
    (fun y _ _ next kept went => open_up_row_kept oddWidth oddHeight kept y next went)
    data laid data.length (Nat.le_refl _) after ran

theorem open_up_map_returns_iff (wide : 5 ≤ width) (tall : 5 ≤ height)
    (oddWidth : width % 2 = 1) (oddHeight : height % 2 = 1) (laid : WellLaid width height data) :
    (∃ after, openUpMap data = .ok after) ↔
      ∀ y x state, y < height → x < width → scanBefore data y x = .ok state →
        ¬ Strays width height state ⟨x, y⟩ := by
  have rows := Loops.returns_iff openUpRow (WellLaid width height)
    (fun state y => ∀ x < width, ∀ reached, rowBefore state y x = .ok reached →
      ¬ Strays width height reached ⟨x, y⟩) height
    (fun y _ _ next kept went => open_up_row_kept oddWidth oddHeight kept y next went)
    (fun y within _ kept =>
      open_up_row_returns_iff wide tall oddWidth oddHeight kept y within)
    data laid
  rw [openUpMap, laid.shape.1]
  refine rows.trans ?_
  constructor
  · intro clear y x state within reach came
    obtain ⟨start, before, rest⟩ := (run_bind_iff _ _ _).mp came
    exact clear y within start before x reach state rest
  · intro clear y within start before x reach state rest
    exact clear y x state within reach ((run_bind_iff _ _ _).mpr ⟨start, before, rest⟩)

end Scan

theorem laid_honoured {width height : Nat} {data : Grid MazeTile}
    (laid : WellLaid width height data) : Honoured width height data where
  shape := laid.shape
  border place tile present edge := by
    cases cell : tile.cellType with
    | Wall => rfl
    | Space =>
        have inner := laid.interior place ⟨tile, present, cell⟩
        simp only [Interior] at inner
        omega
  reachable source target here there := floor_connected laid source target here there

/-- For every odd size and every sequence of draws `carve` returns, and the
    initializer honours its parameters exactly when no dead end strays from the
    map in the state in which the scan comes to it. -/
theorem honours_iff_none_strays (width height extra : Nat) (draws : Nat → Nat)
    (wide : 5 ≤ width) (tall : 5 ≤ height) (oddWidth : width % 2 = 1)
    (oddHeight : height % 2 = 1) :
    ∃ maze, carved width height (roundBound width height + extra) draws = .ok maze ∧
      (Honours width height (roundBound width height + extra) draws ↔
        ∀ y x state, y < height → x < width → scanBefore maze.data y x = .ok state →
          ¬ Strays width height state ⟨x, y⟩) := by
  obtain ⟨maze, ran, laid, -⟩ := carved_returns width height (roundBound width height + extra)
    draws (by omega) (by omega) (by omega)
  refine ⟨maze, ran, ?_⟩
  rw [← open_up_map_returns_iff wide tall oddWidth oddHeight laid]
  constructor
  · rintro ⟨final, generated, -⟩
    rw [generate, ran, run_ok] at generated
    obtain ⟨data, opened, -⟩ := (run_bind_iff _ _ _).mp generated
    exact ⟨data, opened⟩
  · rintro ⟨data, opened⟩
    refine ⟨{ maze with data, graph := graphOf data }, by simp [generate, ran, opened], ?_⟩
    exact laid_honoured (open_up_map_kept oddWidth oddHeight laid data opened)

theorem honours_seven_by_five : ∃ maze,
    carved 7 5 (roundBound 7 5 + 0) (fun _ => 0) = .ok maze ∧
      (Honours 7 5 (roundBound 7 5 + 0) (fun _ => 0) ↔
        ∀ y x state, y < 5 → x < 7 → scanBefore maze.data y x = .ok state →
          ¬ Strays 7 5 state ⟨x, y⟩) :=
  honours_iff_none_strays 7 5 0 (fun _ => 0) (by decide) (by decide) (by decide) (by decide)

theorem five_by_seven_traps :
    (generate 5 7 (roundBound 5 7) fun _ => 1).map (fun _ => ()) = .error .indexOutOfRange := by
  decide +kernel

theorem parameters_not_honoured : ¬ ∀ (width height : Nat) (draws : Nat → Nat),
    5 ≤ width → 5 ≤ height → width % 2 = 1 → height % 2 = 1 →
      Honours width height (roundBound width height) draws := by
  intro honours
  obtain ⟨maze, generated, -⟩ :=
    honours 5 7 (fun _ => 1) (by decide) (by decide) (by decide) (by decide)
  have trapped := five_by_seven_traps
  rw [generated] at trapped
  cases trapped

end Maze
end RelicRace
