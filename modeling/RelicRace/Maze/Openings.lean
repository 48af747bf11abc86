import RelicRace.Maze.CarveSearch
import RelicRace.Maze.OpenUp

/-!
`openUpMap` on the map that `carve` leaves. A dead end is always a room, because
a passage has two connections from the moment it is opened. The border rule
then only proposes directions whose two cells lie inside a 37x21 map, and a
proposal that is taken opens one passage.
-/

namespace RelicRace
open Library

namespace Maze

/-- Floor is never taken away. -/
def Grows (before after : Grid MazeTile) : Prop :=
  ∀ place, IsSpace before place → IsSpace after place

/-- A cell with exactly one connection is a room. -/
theorem dead_end_room (width height : Nat) (data : Grid MazeTile)
    (laid : WellLaid width height data) (place : GridPosition)
    (single : (links data place).length = 1) :
    IsRoom width height place ∧ IsSpace data place := by
  obtain ⟨target, only⟩ := List.length_eq_one_iff.mp single
  have wired : Joined data place target := by simp [Joined, only]
  have floor := ((laid.joined place target).mp wired).1
  have alone (other : GridPosition) (there : IsSpace data other)
      (beside : EdgeAdjacent place other) : other = target := by
    have join := (laid.joined place other).mpr ⟨floor, there, beside⟩
    simpa [Joined, only] using join
  refine ⟨⟨?_, ?_, laid.interior place floor⟩, floor⟩
  · by_contra even
    -- A passage would have both of its rooms, two connections.
    have ends := laid.upright place floor (by omega)
    have above := alone _ ends.1 (by simp [EdgeAdjacent])
    have below := alone _ ends.2 (by simp [EdgeAdjacent])
    have same := above.trans below.symm
    simp only [GridPosition.mk.injEq] at same
    omega
  · by_contra even
    have ends := laid.sideways place floor (by omega)
    have before := alone _ ends.1 (by simp [EdgeAdjacent])
    have after := alone _ ends.2 (by simp [EdgeAdjacent])
    have same := before.trans after.symm
    simp only [GridPosition.mk.injEq] at same
    omega

theorem towards_straight (place : GridPosition) (direction : Direction)
    (real : direction ≠ .none) :
    Straight place (place.towards direction 1) (place.towards direction 2) := by
  cases direction <;>
    simp only [Straight, GridPosition.towards, Direction.offset, ne_eq, not_true_eq_false]
      at real ⊢ <;>
    omega

/-- The writes of one opening, in the order of `openUpMap`. -/
theorem open_passage_backward (data : Grid MazeTile) (place : GridPosition)
    (possibility : Direction) (real : possibility ≠ .none) (tile tile1 tile2 : MazeTile)
    (present : tileAt? data place = some tile)
    (present1 : tileAt? data (place.towards possibility 1) = some tile1)
    (present2 : tileAt? data (place.towards possibility 2) = some tile2) :
    ∃ after, (do
      let data ← addConnections data place (place.towards possibility 1)
      let data ← addConnections data (place.towards possibility 1) (place.towards possibility 2)
      openCells data place possibility) = .ok after ∧
      Opens data after place (place.towards possibility 1) (place.towards possibility 2) := by
  obtain ⟨data1, ran1, effect1⟩ := add_connections_effect data _ _ _ _ present present1
  obtain ⟨_, there1⟩ := effect1.present _ tile1 present1
  obtain ⟨_, there2⟩ := effect1.present _ tile2 present2
  obtain ⟨data2, ran2, effect2⟩ := add_connections_effect data1 _ _ _ _ there1 there2
  have effect12 := effect1.trans effect2
  obtain ⟨_, near⟩ := effect12.present _ tile1 present1
  obtain ⟨data3, ran3, effect3⟩ := open_tile_effect data2 _ _ near
  have effect123 := effect12.trans effect3
  obtain ⟨_, far⟩ := effect123.present _ tile2 present2
  obtain ⟨data4, ran4, effect4⟩ := open_tile_effect data3 _ _ far
  have cells : openCells data2 place possibility = .ok data4 := by
    cases possibility <;> simp_all [openCells]
  exact ⟨data4, by simp [ran1, ran2, cells], (effect123.trans effect4).weaken (by simp) (by simp)⟩

/-- The counts that a direction is tested for. -/
def Openable (data : Grid MazeTile) (place : GridPosition) (possibility : Direction) : Prop :=
  (links data (place.towards possibility 1)).length ≤ 1 ∧
    (links data (place.towards possibility 2)).length ≤ 2

/-- A round opens its passage or leaves the map as it is. -/
theorem try_possibility_cases (width height : Nat) (data : Grid MazeTile)
    (laid : WellLaid width height data) (place : GridPosition) (possibility : Direction)
    (room : IsRoom width height place) (real : possibility ≠ .none)
    (target : IsRoom width height (place.towards possibility 2)) :
    ∃ after, tryPossibility place data possibility = .ok after ∧
      ((Openable data place possibility ∧ Opens data after place
          (place.towards possibility 1) (place.towards possibility 2)) ∨
        (¬ Openable data place possibility ∧ after = data)) := by
  have straight := towards_straight place possibility real
  have passageIn : Interior width height (place.towards possibility 1) := by
    simp only [Straight, IsRoom, Interior] at straight room target ⊢; omega
  obtain ⟨tile, present⟩ := interior_present width height data laid.shape _ room.2.2
  obtain ⟨tile1, present1⟩ := interior_present width height data laid.shape _ passageIn
  obtain ⟨tile2, present2⟩ := interior_present width height data laid.shape _ target.2.2
  simp only [tryPossibility, present1, present2, indexed, run_ok]
  have counts : Openable data place possibility ↔
      tile1.node.connectedNodes.length ≤ 1 ∧ tile2.node.connectedNodes.length ≤ 2 := by
    simp only [Openable, links, present1, present2]
  split
  · rename_i few
    obtain ⟨after, ran, opened⟩ :=
      open_passage_backward data place possibility real tile tile1 tile2 present present1 present2
    exact ⟨after, ran, Or.inl ⟨counts.mpr few, opened⟩⟩
  · rename_i many
    exact ⟨data, rfl, Or.inr ⟨fun few => many (counts.mp few), rfl⟩⟩

theorem try_possibility_keeps (width height : Nat) (data : Grid MazeTile)
    (laid : WellLaid width height data) (place : GridPosition) (possibility : Direction)
    (room : IsRoom width height place) (floor : IsSpace data place)
    (real : possibility ≠ .none) (target : IsRoom width height (place.towards possibility 2)) :
    ∃ after, tryPossibility place data possibility = .ok after ∧
      WellLaid width height after ∧ Grows data after := by
  have straight := towards_straight place possibility real
  obtain ⟨after, ran, ⟨-, opened⟩ | ⟨-, rfl⟩⟩ :=
    try_possibility_cases width height data laid place possibility room real target
  · exact ⟨after, ran, opens_well_laid laid floor room target straight opened,
      (opens_floor opened).1⟩
  · exact ⟨after, ran, laid, fun _ old => old⟩

/-- Why the border rule proposes a direction. -/
theorem border_rule_cases (y x : Int) (possibility : Direction)
    (proposed : possibility ∈ borderRule y x) :
    (possibility = .left ∧ x = (MAX_COLUMNS : Int) - 2) ∨ (possibility = .right ∧ x = 1) ∨
      (possibility = .up ∧ y = (MAX_ROWS : Int) - 2) ∨ (possibility = .down ∧ y = 1) ∨
      (possibility ≠ .none ∧ x ≠ (MAX_COLUMNS : Int) - 2 ∧ x ≠ 1 ∧
        y ≠ (MAX_ROWS : Int) - 2 ∧ y ≠ 1) := by
  by_cases lastColumn : x = (MAX_COLUMNS : Int) - 2 <;> by_cases firstColumn : x = 1 <;>
    by_cases lastRow : y = (MAX_ROWS : Int) - 2 <;> by_cases firstRow : y = 1 <;>
    cases possibility <;>
    simp_all [borderRule]

theorem border_rule_real (y x : Int) (possibility : Direction)
    (listed : possibility ∈ borderRule y x) : possibility ≠ .none := by
  rcases border_rule_cases y x possibility listed with
    ⟨rfl, -⟩ | ⟨rfl, -⟩ | ⟨rfl, -⟩ | ⟨rfl, -⟩ | ⟨real, -⟩
  · simp
  · simp
  · simp
  · simp
  · exact real

/-- Away from the border of the rooms all directions are proposed. -/
theorem border_rule_inner (y x : Int)
    (away : x ≠ (MAX_COLUMNS : Int) - 2 ∧ x ≠ 1 ∧ y ≠ (MAX_ROWS : Int) - 2 ∧ y ≠ 1) :
    borderRule y x = [.up, .down, .left, .right] := by
  simp [borderRule, away]

/-- Two cells in a proposed direction there is another room of the 37x21 map. -/
theorem border_rule_room (place : GridPosition) (room : IsRoom MAX_COLUMNS MAX_ROWS place)
    (possibility : Direction) (proposed : possibility ∈ borderRule place.row place.column) :
    possibility ≠ .none ∧ IsRoom MAX_COLUMNS MAX_ROWS (place.towards possibility 2) := by
  simp only [IsRoom, Interior, MAX_COLUMNS, MAX_ROWS, GridPosition.towards] at room ⊢
  have why := border_rule_cases place.row place.column possibility proposed
  simp only [MAX_COLUMNS, MAX_ROWS] at why
  rcases why with ⟨rfl, edge⟩ | ⟨rfl, edge⟩ | ⟨rfl, edge⟩ | ⟨rfl, edge⟩ | ⟨real, inner⟩
  · exact ⟨by simp, by simp only [Direction.offset]; omega⟩
  · exact ⟨by simp, by simp only [Direction.offset]; omega⟩
  · exact ⟨by simp, by simp only [Direction.offset]; omega⟩
  · exact ⟨by simp, by simp only [Direction.offset]; omega⟩
  · refine ⟨real, ?_⟩
    cases possibility <;> simp only [Direction.offset] <;> omega

/-- The invariant of the scan: a well laid map in which every room is floor. -/
def Scanned (data : Grid MazeTile) : Prop :=
  WellLaid MAX_COLUMNS MAX_ROWS data ∧
    ∀ place, IsRoom MAX_COLUMNS MAX_ROWS place → IsSpace data place

theorem open_up_cell_keeps (data : Grid MazeTile) (scanned : Scanned data) (y x : Nat)
    (inside : Grid.Inside MAX_ROWS MAX_COLUMNS y x) :
    ∃ after, openUpCell data y x = .ok after ∧ Scanned after := by
  obtain ⟨laid, rooms⟩ := scanned
  obtain ⟨tile, present⟩ := Grid.at_inside data MAX_ROWS MAX_COLUMNS laid.shape y x inside
  have here : tileAt? data ⟨x, y⟩ = some tile := present
  simp only [openUpCell, here, indexed, run_ok]
  by_cases single : tile.node.connectedNodes.length = 1
  · have deadEnd : (links data ⟨x, y⟩).length = 1 := by simpa [links, here] using single
    have room := (dead_end_room _ _ data laid ⟨x, y⟩ deadEnd).1
    rw [if_neg (not_not.mpr single)]
    apply loop_keeps
    -- Every candidate of the cell meets the invariant that the ones before it left.
    · intro possibility listed state kept
      have proposed := (List.mem_filter.mp listed).1
      obtain ⟨real, target⟩ := border_rule_room ⟨x, y⟩ room possibility proposed
      obtain ⟨after, ran, laid', grows⟩ := try_possibility_keeps _ _ state kept.1 ⟨x, y⟩
        possibility room (kept.2 _ room) real target
      exact ⟨after, ran, laid', fun place placeRoom => grows place (kept.2 place placeRoom)⟩
    · exact ⟨laid, rooms⟩
  · rw [if_pos single]
    exact ⟨data, rfl, laid, rooms⟩

theorem open_up_row_keeps (data : Grid MazeTile) (scanned : Scanned data) (y : Nat)
    (within : y < MAX_ROWS) : ∃ after, openUpRow data y = .ok after ∧ Scanned after := by
  rw [openUpRow, Grid.row_length data _ _ scanned.1.shape y within]
  apply loop_keeps
  · intro x listed state kept
    have reach := List.mem_range.mp listed
    exact open_up_cell_keeps state kept y x (by simp only [Grid.Inside]; omega)
  · exact scanned

theorem open_up_map_keeps (data : Grid MazeTile) (scanned : Scanned data) :
    ∃ after, openUpMap data = .ok after ∧ Scanned after := by
  rw [openUpMap, scanned.1.shape.1]
  apply loop_keeps
  · intro y listed state kept
    exact open_up_row_keeps state kept y (List.mem_range.mp listed)
  · exact scanned

/-- `Maze(width: 37, height: 21)` returns a well laid map for all draws. -/
theorem generate_returns (extra : Nat) (draws : Nat → Nat) :
    ∃ maze, generate MAX_COLUMNS MAX_ROWS (roundBound MAX_COLUMNS MAX_ROWS + extra) draws =
      .ok maze ∧ Scanned maze.data ∧ maze.graph = graphOf maze.data := by
  obtain ⟨carved, ran, laid, -, -, rooms⟩ := carved_returns MAX_COLUMNS MAX_ROWS
    (roundBound MAX_COLUMNS MAX_ROWS + extra) draws (by decide) (by decide) (by omega)
  obtain ⟨data, opened, scanned⟩ := open_up_map_keeps carved.data ⟨laid, rooms⟩
  exact ⟨{ carved with data, graph := graphOf data }, by simp [generate, ran, opened],
    scanned, rfl⟩

end Maze

section Consequences
variable {width height : Nat} {data : Grid MazeTile}

theorem joined_symm (laid : WellLaid width height data) (source target : GridPosition) :
    Joined data source target ↔ Joined data target source := by
  rw [laid.joined, laid.joined, edge_adjacent_symm source target]
  tauto

theorem floor_connected (laid : WellLaid width height data) (source target : GridPosition)
    (here : IsSpace data source) (there : IsSpace data target) :
    Relation.ReflTransGen (Joined data) source target := by
  have back : Relation.ReflTransGen (Joined data) source spawnRoom := by
    have forward := laid.reached source here
    induction forward with
    | refl => exact Relation.ReflTransGen.refl
    | tail _ edge ih =>
        have floor := ((laid.joined _ _).mp edge).1
        exact Relation.ReflTransGen.head ((joined_symm laid _ _).mp edge) (ih floor)
  exact back.trans (laid.reached target there)

/-- With two floor cells in the map no floor cell is left without a connection. -/
theorem floor_iff_linked (laid : WellLaid width height data) (first second : GridPosition)
    (floor : IsSpace data first) (floor' : IsSpace data second) (apart : first ≠ second)
    (place : GridPosition) : IsSpace data place ↔ links data place ≠ [] := by
  constructor
  · intro here unlinked
    -- Without a connection a walk does not leave the cell, so it cannot reach both floors.
    have stuck (target : GridPosition)
        (walk : Relation.ReflTransGen (Joined data) place target) : target = place := by
      rcases Relation.ReflTransGen.cases_head walk with same | ⟨next, edge, -⟩
      · exact same.symm
      · simp [Joined, unlinked] at edge
    exact apart ((stuck first (floor_connected laid place first here floor)).trans
      (stuck second (floor_connected laid place second here floor')).symm)
  · intro linked
    obtain ⟨target, wired⟩ := List.exists_mem_of_ne_nil _ linked
    exact ((laid.joined place target).mp wired).1

end Consequences
end RelicRace
