import RelicRace.Trophy.FairPlacement

/-!
The tile of a point and its neighbours. Where the point is on a wall,
`changeToNeighbour` searches by its own rule: `up` is the row after, a cell off
the map is read, and a search that finds nothing is unwrapped.
-/

namespace RelicRace
open Library

/-- The cell beside a place as `changeToNeighbour` reads a direction: `up` is the
    row after. -/
def GridPosition.trophyStep (place : GridPosition) : Direction → GridPosition
  | .up => ⟨place.column, place.row + 1⟩
  | .down => ⟨place.column, place.row - 1⟩
  | .left => ⟨place.column - 1, place.row⟩
  | .right => ⟨place.column + 1, place.row⟩
  | .none => place

/-- Floor is found in one of the directions before a cell off the map is read. -/
def FirstFloor (data : Grid MazeTile) (place : GridPosition) : List Direction → Prop
  | [] => False
  | direction :: rest => OnMap (place.trophyStep direction) ∧
      (IsSpace data (place.trophyStep direction) ∨ FirstFloor data place rest)

/-- A wall from which a neighbour is found: an inner one beside floor, one of the
    first row above floor, or one of the last column beside floor. -/
def Sheltered (data : Grid MazeTile) (place : GridPosition) : Prop :=
  (2 ≤ place.row ∧ place.row + 2 < MAX_ROWS ∧ 2 ≤ place.column ∧ place.column + 2 < MAX_COLUMNS ∧
      ∃ next, EdgeAdjacent place next ∧ IsSpace data next) ∨
    (place.row = 0 ∧ 2 ≤ place.column ∧ place.column + 2 < MAX_COLUMNS ∧
      IsSpace data ⟨place.column, 1⟩) ∨
    (place.column = (MAX_COLUMNS : Int) - 1 ∧ 2 ≤ place.row ∧ place.row + 2 < MAX_ROWS ∧
      IsSpace data ⟨place.column - 1, place.row⟩)

section Neighbours
variable {data : Grid MazeTile}

/-- On the border of the rooms the listed directions lead to walls. -/
theorem border_steps_walls (scanned : Maze.Scanned data) (place : GridPosition)
    (wall : ¬ IsSpace data place) (direction : Direction)
    (listed : direction ∈ Maze.borderRule place.row place.column)
    (floor : IsSpace data (place.trophyStep direction)) :
    direction ≠ .none ∧ place.column ≠ (MAX_COLUMNS : Int) - 2 ∧ place.column ≠ 1 ∧
      place.row ≠ (MAX_ROWS : Int) - 2 ∧ place.row ≠ 1 := by
  have inner := scanned.1.interior _ floor
  have noPillar := scanned.1.noPillar _ floor
  have room : ¬ IsRoom MAX_COLUMNS MAX_ROWS place := fun room => wall (scanned.2 place room)
  have why := Maze.border_rule_cases place.row place.column direction listed
  simp only [IsRoom, Interior, MAX_COLUMNS, MAX_ROWS] at inner room why ⊢
  rcases why with ⟨rfl, edge⟩ | ⟨rfl, edge⟩ | ⟨rfl, edge⟩ | ⟨rfl, edge⟩ | away
  · simp only [GridPosition.trophyStep] at inner noPillar
    omega
  · simp only [GridPosition.trophyStep] at inner noPillar
    omega
  · simp only [GridPosition.trophyStep] at inner
    omega
  · simp only [GridPosition.trophyStep] at inner
    omega
  · exact away

theorem first_floor_mem (place : GridPosition) (directions : List Direction)
    (found : FirstFloor data place directions) :
    ∃ direction ∈ directions, IsSpace data (place.trophyStep direction) := by
  induction directions with
  | nil => exact found.elim
  | cons direction rest ih =>
      rcases found.2 with floor | later
      · exact ⟨direction, List.mem_cons_self, floor⟩
      · obtain ⟨other, listed, floor⟩ := ih later
        exact ⟨other, List.mem_cons_of_mem direction listed, floor⟩

theorem first_floor_of_mem (place : GridPosition) (directions : List Direction)
    (onMap : ∀ direction ∈ directions, OnMap (place.trophyStep direction))
    (found : ∃ direction ∈ directions, IsSpace data (place.trophyStep direction)) :
    FirstFloor data place directions := by
  induction directions with
  | nil => simp at found
  | cons direction rest ih =>
      obtain ⟨other, listed, floor⟩ := found
      refine ⟨onMap direction List.mem_cons_self, ?_⟩
      rcases List.mem_cons.mp listed with rfl | later
      · exact Or.inl floor
      · exact Or.inr (ih (fun other member => onMap other (List.mem_cons_of_mem direction member))
          ⟨other, later, floor⟩)

theorem trophy_step_beside (place : GridPosition) (direction : Direction)
    (real : direction ≠ .none) : EdgeAdjacent place (place.trophyStep direction) := by
  cases direction <;> simp_all [EdgeAdjacent, GridPosition.trophyStep]

theorem beside_trophy_step (place next : GridPosition) (beside : EdgeAdjacent place next) :
    ∃ direction ∈ [Direction.up, .down, .left, .right], next = place.trophyStep direction := by
  simp only [EdgeAdjacent] at beside
  rcases beside with ⟨row, column | column⟩ | ⟨column, row | row⟩
  · exact ⟨.left, by decide, by ext <;> simp only [GridPosition.trophyStep] <;> omega⟩
  · exact ⟨.right, by decide, by ext <;> simp only [GridPosition.trophyStep] <;> omega⟩
  · exact ⟨.down, by decide, by ext <;> simp only [GridPosition.trophyStep] <;> omega⟩
  · exact ⟨.up, by decide, by ext <;> simp only [GridPosition.trophyStep] <;> omega⟩

/-- Without an early read off the map the four neighbours are searched. -/
theorem four_steps_sheltered (scanned : Maze.Scanned data) (place : GridPosition)
    (away : place.column ≠ (MAX_COLUMNS : Int) - 2 ∧ place.column ≠ 1 ∧
      place.row ≠ (MAX_ROWS : Int) - 2 ∧ place.row ≠ 1)
    (found : FirstFloor data place [.up, .down, .left, .right]) : Sheltered data place := by
  have beside (direction : Direction) (real : direction ≠ .none)
      (floor : IsSpace data (place.trophyStep direction)) :
      ∃ next, EdgeAdjacent place next ∧ IsSpace data next :=
    ⟨_, trophy_step_beside place direction real, floor⟩
  have bounds (column row : Int) (floor : IsSpace data ⟨column, row⟩) :
      (1 ≤ row ∧ row ≤ 19) ∧ 1 ≤ column ∧ column ≤ 35 := by
    have inner := scanned.1.interior _ floor
    simp only [Interior, MAX_COLUMNS, MAX_ROWS] at inner
    omega
  simp only [FirstFloor, OnMap, Grid.Inside, GridPosition.trophyStep, MAX_COLUMNS, MAX_ROWS]
    at away found
  rcases found with ⟨up, floor | ⟨down, floor | ⟨left, floor | ⟨right, floor | none⟩⟩⟩⟩
  · have inner := bounds _ _ floor
    by_cases first : place.row = 0
    · refine Or.inr (Or.inl ⟨first, by omega, by simp only [MAX_COLUMNS]; omega, ?_⟩)
      rwa [first] at floor
    · exact Or.inl ⟨by omega, by simp only [MAX_ROWS]; omega, by omega,
        by simp only [MAX_COLUMNS]; omega, beside .up (by simp) floor⟩
  · have inner := bounds _ _ floor
    exact Or.inl ⟨by omega, by simp only [MAX_ROWS]; omega, by omega,
      by simp only [MAX_COLUMNS]; omega, beside .down (by simp) floor⟩
  · have inner := bounds _ _ floor
    by_cases last : place.column = 36
    · exact Or.inr (Or.inr ⟨last, by omega, by simp only [MAX_ROWS]; omega, floor⟩)
    · exact Or.inl ⟨by omega, by simp only [MAX_ROWS]; omega, by omega,
        by simp only [MAX_COLUMNS]; omega, beside .left (by simp) floor⟩
  · have inner := bounds _ _ floor
    exact Or.inl ⟨by omega, by simp only [MAX_ROWS]; omega, by omega,
      by simp only [MAX_COLUMNS]; omega, beside .right (by simp) floor⟩
  · exact none.elim

theorem sheltered_first_floor (place : GridPosition) (sheltered : Sheltered data place) :
    FirstFloor data place [.up, .down, .left, .right] := by
  rcases sheltered with ⟨low, high, left, right, next, near, floor⟩ | ⟨row, left, right, floor⟩ |
    ⟨column, low, high, floor⟩
  · refine first_floor_of_mem place _ (fun direction listed => ?_) ?_
    · simp only [OnMap, Grid.Inside]
      cases direction <;> simp only [GridPosition.trophyStep] <;> omega
    · obtain ⟨direction, listed, rfl⟩ := beside_trophy_step place next near
      exact ⟨direction, listed, floor⟩
  · refine ⟨?_, Or.inl ?_⟩
    · simp only [OnMap, Grid.Inside, GridPosition.trophyStep, MAX_ROWS]
      omega
    · rw [GridPosition.trophyStep, row]
      exact floor
  · simp only [MAX_COLUMNS] at column
    refine ⟨?_, Or.inr ⟨?_, Or.inr ⟨?_, Or.inl floor⟩⟩⟩
    · simp only [OnMap, Grid.Inside, GridPosition.trophyStep, MAX_COLUMNS]
      omega
    · simp only [OnMap, Grid.Inside, GridPosition.trophyStep, MAX_COLUMNS]
      omega
    · simp only [OnMap, Grid.Inside, GridPosition.trophyStep, MAX_COLUMNS]
      omega

theorem first_floor_iff (scanned : Maze.Scanned data) (place : GridPosition)
    (wall : ¬ IsSpace data place) :
    FirstFloor data place (Maze.borderRule place.row place.column) ↔ Sheltered data place := by
  constructor
  · intro found
    obtain ⟨direction, listed, floor⟩ := first_floor_mem place _ found
    have away := (border_steps_walls scanned place wall direction listed floor).2
    rw [Maze.border_rule_inner _ _ away] at found
    exact four_steps_sheltered scanned place away found
  · intro sheltered
    rw [Maze.border_rule_inner]
    · exact sheltered_first_floor place sheltered
    · simp only [Sheltered, MAX_COLUMNS, MAX_ROWS] at sheltered ⊢
      omega

end Neighbours

section Tiles
variable {data : Grid MazeTile} {manager : TileManager}

/-- A tile of the floor. -/
def FloorTile (data : Grid MazeTile) (tile : TileNode) : Prop :=
  tile.typeName = "space" ∧
    ∃ place, IsSpace data place ∧ tile.row = place.row ∧ tile.column = place.column

/-- A tile of the map with the kind of its cell. -/
theorem get_tile_kind (shows : manager.Shows data) (scanned : Maze.Scanned data)
    (place : GridPosition) (onMap : OnMap place) :
    ∃ tile, manager.getTile place.row place.column = .ok tile ∧
      (IsSpace data place → FloorTile data tile) ∧
      (¬ IsSpace data place → tile.typeName = "wall") := by
  obtain ⟨tile, found, row, column, -, -, kind⟩ :=
    TileManager.shown_tile shows scanned.1 place onMap
  have linked := Maze.scanned_linked data scanned place
  refine ⟨tile, found, fun floor => ⟨?_, place, floor, row, column⟩, fun wall => ?_⟩
  · rw [kind, if_neg (linked.mp floor)]
  · rw [kind, if_pos (not_not.mp fun some' => wall (linked.mpr some'))]

/-- The last fallback draws a tile of the floor, whatever its condition. -/
theorem drawn_floor_tile (shows : manager.Shows data) (scanned : Maze.Scanned data)
    (condition : TileNode → Bool) (draw : Nat) :
    ∃ tile, manager.getRandomTile condition draw = .ok tile ∧ FloorTile data tile := by
  obtain ⟨place, tile, onMap, found, drawn, kind⟩ :=
    TileManager.random_tile_shown shows condition draw
  obtain ⟨other, found', isFloor, isWall⟩ := get_tile_kind shows scanned place onMap
  obtain rfl := Except.ok.inj (found.symm.trans found')
  refine ⟨tile, drawn, isFloor ?_⟩
  rcases kind with space | rfl
  · by_contra wall
    rw [isWall wall] at space
    simp at space
  · exact Maze.first_room_floor scanned

end Tiles

namespace TrophyScene
variable {K : Type} [Zero K] [LT K] {data : Grid MazeTile} {manager : TileManager}

theorem nearest_neighbour_floor (shows : manager.Shows data) (scanned : Maze.Scanned data)
    (scene : TrophyScene K) (managed : scene.tileManager = manager) (place : GridPosition)
    (floor : IsSpace data place) :
    ∃ tile, scene.nearestNeighbour place.column place.row = .ok (some tile) ∧
      FloorTile data tile := by
  obtain ⟨tile, found, isFloor, -⟩ :=
    get_tile_kind shows scanned place (floor_on_map scanned.1 place floor)
  refine ⟨tile, ?_, isFloor floor⟩
  rw [nearestNeighbour, managed, found, run_ok, if_pos (isFloor floor).1, run_pure]

theorem nearest_neighbour_wall (shows : manager.Shows data) (scanned : Maze.Scanned data)
    (scene : TrophyScene K) (managed : scene.tileManager = manager) (place : GridPosition)
    (onMap : OnMap place) (wall : ¬ IsSpace data place) :
    scene.nearestNeighbour place.column place.row = .ok none := by
  obtain ⟨tile, found, -, isWall⟩ := get_tile_kind shows scanned place onMap
  rw [nearestNeighbour, managed, found, run_ok, if_neg (by simp [isWall wall]), run_pure]

theorem first_neighbour_step (scene : TrophyScene K) (place : GridPosition)
    (direction : Direction) (real : direction ≠ .none) (rest : List Direction) :
    scene.firstNeighbour place (direction :: rest) = (do
      match ← scene.nearestNeighbour (place.trophyStep direction).column
          (place.trophyStep direction).row with
      | some tile => return some tile
      | none => scene.firstNeighbour place rest) := by
  cases direction with
  | none => exact absurd rfl real
  | up => rfl
  | down => rfl
  | left => rfl
  | right => rfl

/-- The search for a neighbour finds floor, or it traps or finds nothing. -/
theorem first_neighbour_cases (shows : manager.Shows data) (scanned : Maze.Scanned data)
    (scene : TrophyScene K) (managed : scene.tileManager = manager) (place : GridPosition)
    (directions : List Direction) (real : ∀ direction ∈ directions, direction ≠ .none) :
    (FirstFloor data place directions ∧ ∃ tile,
      scene.firstNeighbour place directions = .ok (some tile) ∧ FloorTile data tile) ∨
    (¬ FirstFloor data place directions ∧
      ∀ tile, scene.firstNeighbour place directions ≠ .ok (some tile)) := by
  induction directions with
  | nil => exact Or.inr ⟨id, fun tile found => by cases found⟩
  | cons direction rest ih =>
      have step := first_neighbour_step scene place direction
        (real direction List.mem_cons_self) rest
      by_cases onMap : OnMap (place.trophyStep direction)
      · by_cases floor : IsSpace data (place.trophyStep direction)
        · obtain ⟨tile, near, isFloor⟩ :=
            nearest_neighbour_floor shows scanned scene managed _ floor
          refine Or.inl ⟨⟨onMap, Or.inl floor⟩, tile, ?_, isFloor⟩
          rw [step, near]
          rfl
        · have passed : scene.firstNeighbour place (direction :: rest) =
              scene.firstNeighbour place rest := by
            rw [step, nearest_neighbour_wall shows scanned scene managed _ onMap floor]
            rfl
          rw [passed]
          have same : FirstFloor data place (direction :: rest) ↔ FirstFloor data place rest := by
            simp only [FirstFloor, onMap, floor, true_and, false_or]
          rw [same]
          exact ih fun other listed => real other (List.mem_cons_of_mem direction listed)
      -- A cell off the map is an index out of range.
      · refine Or.inr ⟨fun found => onMap found.1, fun tile found => ?_⟩
        rw [step, nearestNeighbour, managed, TileManager.get_tile_off_map shows _ onMap] at found
        cases found

/-- Where a wall is exchanged for a neighbour the neighbour is floor. -/
theorem change_to_neighbour_iff (shows : manager.Shows data) (scanned : Maze.Scanned data)
    (scene : TrophyScene K) (managed : scene.tileManager = manager) (place : GridPosition)
    (wall : ¬ IsSpace data place) :
    (Sheltered data place ∧ ∃ tile, scene.changeToNeighbour place = .ok tile ∧
      FloorTile data tile) ∨
    (¬ Sheltered data place ∧ ∀ tile, scene.changeToNeighbour place ≠ .ok tile) := by
  rw [← first_floor_iff scanned _ wall]
  rcases first_neighbour_cases shows scanned scene managed place
      (Maze.borderRule place.row place.column)
      (fun direction listed => Maze.border_rule_real _ _ direction listed) with
    ⟨first, tile, got, isFloor⟩ | ⟨missed, never⟩
  · exact Or.inl ⟨first, tile, by rw [changeToNeighbour, got, run_ok, unwrapped], isFloor⟩
  · refine Or.inr ⟨missed, fun tile ran => ?_⟩
    obtain ⟨wrapped, ran, unwraps⟩ := (run_bind_iff _ _ _).mp ran
    cases wrapped with
    | none => cases unwraps
    | some other => exact never other ran

end TrophyScene
end RelicRace
