import RelicRace.Trophy.FirstPlacement

/-!
The placements of the whole match, wherever the actors stand. The tiles that
`MSTBasedFairPosition` chooses from are the floor that lies far from both actors
by nearly the same walks. Exchanging the actors changes nothing there, but the
fallback tests the distance from the player only.
-/

namespace RelicRace
open Library

/-- Floor more than 36 connections away from both tiles, by shortest walks that
    differ in length by 7 at most. -/
def FairPlace (data : Grid MazeTile) (playerTile opponentTile place : GridPosition) : Prop :=
  IsSpace data place ∧ ∃ near far : Nat,
    BreadthFirst.IsDistance (Joined data) playerTile place (some near) ∧
      BreadthFirst.IsDistance (Joined data) opponentTile place (some far) ∧
      36 < near ∧ 36 < far ∧ near ≤ far + 7 ∧ far ≤ near + 7

theorem fair_place_symm (data : Grid MazeTile) (playerTile opponentTile place : GridPosition) :
    FairPlace data playerTile opponentTile place ↔
      FairPlace data opponentTile playerTile place := by
  constructor
  · rintro ⟨floor, near, far, first, second, long, long', close, close'⟩
    exact ⟨floor, far, near, second, first, long', long, close', close⟩
  · rintro ⟨floor, near, far, first, second, long, long', close, close'⟩
    exact ⟨floor, far, near, second, first, long', long, close', close⟩

namespace Trophy

theorem is_viable_iff (dist1 dist2 : Int) :
    isViable dist1 dist2 = true ↔
      36 < dist1 ∧ 36 < dist2 ∧ dist1 ≤ dist2 + 7 ∧ dist2 ≤ dist1 + 7 := by
  simp only [isViable, Bool.and_eq_true, decide_eq_true_eq]
  omega

/-- An unreachable cell fails the comparison, because it holds -1. -/
theorem viable_values_iff (label1 label2 : Option Nat) :
    isViable (distValue label1) (distValue label2) = true ↔
      ∃ near far : Nat, label1 = some near ∧ label2 = some far ∧
        36 < near ∧ 36 < far ∧ near ≤ far + 7 ∧ far ≤ near + 7 := by
  rw [is_viable_iff]
  cases label1 with
  | none => simp [distValue]
  | some near =>
      cases label2 with
      | none => simp [distValue]
      | some far =>
          simp only [distValue, Option.some.injEq, exists_and_left, exists_eq_left']
          omega

end Trophy

section Placing
variable {K : Type} [Field K] [LinearOrder K]
variable {data : Grid MazeTile} {manager : TileManager}

namespace TrophyScene

def exchanged (scene : TrophyScene K) : TrophyScene K :=
  { scene with player1 := scene.opponent, opponent := scene.player1 }

/-- The floor tiles that pass the filter of `XimingsRandomTrophyPositioning`. -/
def ximingsTiles (scene : TrophyScene K) : List GridPosition :=
  (scene.tileManager.spaces scene.ximingsCondition).map (·.node.gridPosition)

/-- At similar distances, but clear of one actor only. -/
def Lopsided (scene : TrophyScene K) (place : GridPosition) : Prop :=
  scene.Similar place ∧
    ¬ (Clear scene.frame scene.player1 place ↔ Clear scene.frame scene.opponent place)

theorem similar_exchanged (scene : TrophyScene K) (place : GridPosition) :
    scene.exchanged.Similar place ↔ scene.Similar place := by
  simp only [Similar, exchanged]
  rw [abs_sub_comm |_ - scene.opponent.x|, abs_sub_comm |_ - scene.opponent.y|]

/-- The filter keeps the player at a distance, not the opponent. -/
theorem ximings_condition_iff (scene : TrophyScene K) (place : GridPosition) :
    scene.ximingsCondition (shownTile data place) = true ↔
      scene.Similar place ∧ Clear scene.frame scene.player1 place := by
  have position : (shownTile data place).position scene.frame = scene.frame.tilePosition place :=
    rfl
  simp only [ximingsCondition, position, Bool.and_eq_true, decide_eq_true_eq, gt_iff_lt,
    Similar, Clear, and_assoc]

theorem ximings_tiles_iff (shows : manager.Shows data) (scanned : Maze.Scanned data)
    (scene : TrophyScene K) (managed : scene.tileManager = manager) (place : GridPosition) :
    place ∈ scene.ximingsTiles ↔ IsSpace data place ∧ scene.Similar place ∧
      Clear scene.frame scene.player1 place := by
  rw [ximingsTiles, managed, space_places shows scanned.1, List.mem_filter, place_list_mem,
    Bool.and_eq_true, decide_eq_true_eq, gt_iff_lt, List.length_pos_iff,
    ← Maze.scanned_linked data scanned, ximings_condition_iff]
  exact and_iff_right_of_imp fun passed => floor_on_map scanned.1 place passed.1

variable [FloorRing K]

/-- The tiles of the two actors decide what is viable. -/
theorem viable_tile_fair (laid : WellLaid MAX_COLUMNS MAX_ROWS data) (scene : TrophyScene K)
    (graph : scene.mazeGraph = Maze.graphOf data) :
    ∃ tiles, scene.viableTile = .ok tiles ∧ ∀ place, place ∈ tiles ↔
      FairPlace data (scene.frame.indexFrom scene.player1) (scene.frame.indexFrom scene.opponent)
        place := by
  obtain ⟨dist1, label1, dist2, label2, table1, table2, viable⟩ :=
    viable_tile_tables laid scene graph
  refine ⟨placeList.filter (Trophy.viableAt dist1 dist2), viable, fun place => ?_⟩
  have same (source target : GridPosition) :
      target ∈ Trophy.linksOf (Maze.graphOf data) source ↔ Joined data source target := by
    rw [Trophy.laid_links laid, Joined]
  have least1 := (BreadthFirst.is_distance_congr _ _ same _ _ _).mp (table1.least place)
  have least2 := (BreadthFirst.is_distance_congr _ _ same _ _ _).mp (table2.least place)
  have entry (onMap : OnMap place) : Trophy.viableAt dist1 dist2 place =
      Trophy.isViable (Trophy.distValue (label1 place)) (Trophy.distValue (label2 place)) := by
    rw [Trophy.viableAt, table1.cells place onMap, table2.cells place onMap]
  rw [List.mem_filter, place_list_mem]
  constructor
  · rintro ⟨onMap, viable⟩
    rw [entry onMap, Trophy.viable_values_iff] at viable
    obtain ⟨near, far, found1, found2, long, rest⟩ := viable
    rw [found1] at least1
    rw [found2] at least2
    refine ⟨?_, near, far, least1, least2, long, rest⟩
    -- A walk of more than 36 connections has a last one, which ends on floor.
    obtain ⟨count, rfl⟩ := Nat.exists_eq_add_of_lt (Nat.zero_lt_of_lt long)
    obtain ⟨middle, -, edge⟩ := least1.1 _ rfl
    exact ((laid.joined _ _).mp edge).2.1
  · rintro ⟨floor, near, far, first, second, bounds⟩
    have onMap := floor_on_map laid place floor
    refine ⟨onMap, ?_⟩
    rw [entry onMap, Trophy.viable_values_iff]
    exact ⟨near, far, BreadthFirst.distance_unique _ _ _ _ _ least1 first,
      BreadthFirst.distance_unique _ _ _ _ _ least2 second, bounds⟩

/-- In every generated maze, wherever the actors stand, the viable tiles are the
    fair ones, and if there is one the trophy is put on a fair tile and every
    fair tile can be drawn. -/
theorem viable_trophy_fair [SquareRoot K] (extra : Nat) (draws : Nat → Nat) :
    ∃ maze manager, Maze.generate MAX_COLUMNS MAX_ROWS
        (Maze.roundBound MAX_COLUMNS MAX_ROWS + extra) draws = .ok maze ∧
      TileManager.make maze.graph = .ok manager ∧
      ∀ (frame : SceneFrame K) (player1 opponent : CGPoint K),
        ∃ tiles, viableTile ⟨manager, maze.graph, frame, player1, opponent⟩ = .ok tiles ∧
          (∀ place, place ∈ tiles ↔
            FairPlace maze.data (frame.indexFrom player1) (frame.indexFrom opponent) place) ∧
          (tiles ≠ [] →
            (∀ draw, ∃ place,
              FairPlace maze.data (frame.indexFrom player1) (frame.indexFrom opponent) place ∧
                mstBasedFairPosition ⟨manager, maze.graph, frame, player1, opponent⟩ draw =
                  .ok (frame.tilePosition place)) ∧
            ∀ place,
              FairPlace maze.data (frame.indexFrom player1) (frame.indexFrom opponent) place →
                ∃ element, ∀ draw : TrophyDraw K, draw.element = element →
                  mstBasedFairPosition ⟨manager, maze.graph, frame, player1, opponent⟩ draw =
                    .ok (frame.tilePosition place)) := by
  obtain ⟨maze, manager, generated, made, scanned, shows, graph⟩ :=
    Maze.generate_with_tiles extra draws
  refine ⟨maze, manager, generated, made, fun frame player1 opponent => ?_⟩
  obtain ⟨tiles, viable, fair⟩ := viable_tile_fair scanned.1
    ⟨manager, maze.graph, frame, player1, opponent⟩ graph
  refine ⟨tiles, viable, fair, fun filled => ?_⟩
  have onMap : ∀ place ∈ tiles, OnMap place := fun place listed =>
    floor_on_map scanned.1 place ((fair place).mp listed).1
  have drawn := mst_draws shows scanned.1 ⟨manager, maze.graph, frame, player1, opponent⟩ rfl
    tiles viable filled onMap
  constructor
  · intro draw
    have listed := List.mem_of_getElem? (drawn_tile_get tiles filled draw.element)
    exact ⟨drawnTile tiles draw.element, (fair _).mp listed, drawn draw⟩
  · intro place isFair
    obtain ⟨element, within, same⟩ := List.getElem_of_mem ((fair place).mpr isFair)
    refine ⟨element, fun draw chosen => ?_⟩
    rw [drawn draw, drawnTile, chosen, Nat.mod_eq_of_lt within, List.getElem?_eq_getElem within,
      same, Option.getD_some]

/-! ### The actors exchanged -/

/-- Both placements choose from the same tiles when the actors are exchanged. -/
def TreatsAlike (scene : TrophyScene K) : Prop :=
  (∃ tiles tiles', scene.viableTile = .ok tiles ∧ scene.exchanged.viableTile = .ok tiles' ∧
    ∀ place, place ∈ tiles ↔ place ∈ tiles') ∧
  ∀ place, place ∈ scene.ximingsTiles ↔ place ∈ scene.exchanged.ximingsTiles

theorem viable_tiles_alike (laid : WellLaid MAX_COLUMNS MAX_ROWS data) (scene : TrophyScene K)
    (graph : scene.mazeGraph = Maze.graphOf data) :
    ∃ tiles tiles', scene.viableTile = .ok tiles ∧ scene.exchanged.viableTile = .ok tiles' ∧
      ∀ place, place ∈ tiles ↔ place ∈ tiles' := by
  obtain ⟨tiles, viable, fair⟩ := viable_tile_fair laid scene graph
  obtain ⟨tiles', viable', fair'⟩ := viable_tile_fair laid scene.exchanged graph
  refine ⟨tiles, tiles', viable, viable', fun place => ?_⟩
  rw [fair, fair']
  exact fair_place_symm data _ _ place

theorem scene_treats_alike_iff (shows : manager.Shows data) (scanned : Maze.Scanned data)
    (scene : TrophyScene K) (managed : scene.tileManager = manager)
    (graph : scene.mazeGraph = Maze.graphOf data) :
    scene.TreatsAlike ↔ ∀ place, IsSpace data place → ¬ scene.Lopsided place := by
  rw [TreatsAlike, and_iff_right (viable_tiles_alike scanned.1 scene graph)]
  refine forall_congr' fun place => ?_
  rw [ximings_tiles_iff shows scanned scene managed,
    ximings_tiles_iff shows scanned scene.exchanged managed, similar_exchanged, Lopsided]
  change (_ ↔ _ ∧ _ ∧ Clear scene.frame scene.opponent place) ↔ _
  tauto

/-- In every generated maze the two placements treat the actors alike exactly
    when no floor tile at similar distances is clear of one actor only. -/
theorem treats_alike_iff_none_lopsided (extra : Nat) (draws : Nat → Nat) :
    ∃ maze manager, Maze.generate MAX_COLUMNS MAX_ROWS
        (Maze.roundBound MAX_COLUMNS MAX_ROWS + extra) draws = .ok maze ∧
      TileManager.make maze.graph = .ok manager ∧
      ∀ (frame : SceneFrame K) (player1 opponent : CGPoint K),
        TreatsAlike ⟨manager, maze.graph, frame, player1, opponent⟩ ↔
          ∀ place, IsSpace maze.data place →
            ¬ Lopsided ⟨manager, maze.graph, frame, player1, opponent⟩ place := by
  obtain ⟨maze, manager, generated, made, scanned, shows, graph⟩ :=
    Maze.generate_with_tiles extra draws
  refine ⟨maze, manager, generated, made, fun frame player1 opponent => ?_⟩
  exact scene_treats_alike_iff shows scanned ⟨manager, maze.graph, frame, player1, opponent⟩ rfl
    graph

end TrophyScene
end Placing

namespace TrophyScene

/-- Ten rows below the first room, ten and eight columns away from it. -/
def tenAway : CGPoint ℚ := ⟨-7, 1⟩
def eightAway : CGPoint ℚ := ⟨-9, 1⟩

theorem first_room_lopsided (manager : TileManager) (graph : GKGridGraph) :
    Lopsided ⟨manager, graph, SceneFrame.unit, tenAway, eightAway⟩ spawnRoom := by
  have clear : Clear SceneFrame.unit tenAway spawnRoom := by
    constructor <;>
      norm_num [SceneFrame.unit, SceneFrame.tileWidth, SceneFrame.tileHeight,
        SceneFrame.tilePosition, spawnRoom, tenAway, MAX_COLUMNS, MAX_ROWS, abs_of_neg]
  have near : ¬ Clear SceneFrame.unit eightAway spawnRoom := by
    rintro ⟨wide, -⟩
    norm_num [SceneFrame.unit, SceneFrame.tileWidth, SceneFrame.tilePosition, spawnRoom,
      eightAway, MAX_COLUMNS, abs_of_neg] at wide
  refine ⟨?_, fun same => near (same.mp clear)⟩
  constructor <;>
    norm_num [SceneFrame.unit, SceneFrame.tileWidth, SceneFrame.tileHeight,
      SceneFrame.tilePosition, spawnRoom, tenAway, eightAway, MAX_COLUMNS, MAX_ROWS, abs_of_neg]

theorem actors_not_treated_alike : ¬ ∀ (draws : Nat → Nat) (maze : Maze) (manager : TileManager),
    Maze.generate MAX_COLUMNS MAX_ROWS (Maze.roundBound MAX_COLUMNS MAX_ROWS) draws = .ok maze →
    TileManager.make maze.graph = .ok manager →
    ∀ (frame : SceneFrame ℚ) (player1 opponent : CGPoint ℚ),
      TreatsAlike ⟨manager, maze.graph, frame, player1, opponent⟩ := by
  intro alike
  obtain ⟨maze, manager, generated, made, scanned, shows, graph⟩ :=
    Maze.generate_with_tiles 0 fun _ => 0
  have same := alike (fun _ => 0) maze manager generated made SceneFrame.unit tenAway
    eightAway
  exact (scene_treats_alike_iff shows scanned _ rfl graph).mp same spawnRoom
    (Maze.first_room_floor scanned) (first_room_lopsided manager maze.graph)

end TrophyScene
end RelicRace
