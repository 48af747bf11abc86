import RelicRace.Maze.WellFormed
import RelicRace.Transfer.MapTransfer
import RelicRace.Trophy.Placement

/-!
The first trophy of a match: both actors stand on their spawn tiles, so the
circles of the fallback do not meet and the trophy's tile is one element of a
list that the map alone decides.
-/

namespace RelicRace
open Library

/-! ### The graph and the tiles of a well laid map -/

section Laid
variable {data : Grid MazeTile} {manager : TileManager}

namespace Trophy

theorem listed_node (laid : WellLaid MAX_COLUMNS MAX_ROWS data) (node : GKGridGraphNode)
    (member : node ∈ (Maze.graphOf data).nodes) :
    node.connectedNodes = links data node.gridPosition := by
  obtain ⟨tile, listed, rfl⟩ := List.mem_map.mp member
  rw [links, listed_tile data laid tile listed]

theorem laid_map_graph (laid : WellLaid MAX_COLUMNS MAX_ROWS data) :
    MapGraph (Maze.graphOf data) where
  size := by
    rw [Maze.graphOf, List.length_map, Grid.flatten_length data MAX_ROWS MAX_COLUMNS laid.shape]
  placed row column within reach := by
    have inside : Grid.Inside MAX_ROWS MAX_COLUMNS row column := by
      simp only [Grid.Inside]
      omega
    obtain ⟨tile, hit⟩ := Grid.at_inside data _ _ laid.shape _ _ inside
    rw [TileManager.graph_node_at data laid.shape row column reach, hit, Option.map_some,
      Option.map_some, laid.placed ⟨column, row⟩ tile hit]
  closed node member next joined := by
    rw [listed_node laid node member] at joined
    exact links_on_map laid node.gridPosition next joined

theorem laid_links (laid : WellLaid MAX_COLUMNS MAX_ROWS data) (place : GridPosition) :
    linksOf (Maze.graphOf data) place = links data place := by
  by_cases onMap : OnMap place
  · obtain ⟨node, -, found, position⟩ := node_on_map _ (laid_map_graph laid) place onMap
    rw [linksOf, found, ← position]
    exact listed_node laid node (List.mem_of_find?_eq_some found)
  · have missed : tileAt? data place = none :=
      Grid.at_none_of_not_inside data _ _ laid.shape _ _ onMap
    rw [links, missed, linksOf]
    cases found : (Maze.graphOf data).nodeAt? place with
    | none => rfl
    | some node =>
        have position : node.gridPosition = place := by simpa using List.find?_some found
        obtain ⟨tile, listed, rfl⟩ := List.mem_map.mp (List.mem_of_find?_eq_some found)
        rw [← position, listed_tile data laid tile listed] at missed
        cases missed

end Trophy

/-- The tile that the manager of a map holds for a place. -/
def shownTile (data : Grid MazeTile) (place : GridPosition) : TileNode :=
  TileNode.make ⟨place, links data place⟩

theorem shown_tiles (shows : manager.Shows data) (laid : WellLaid MAX_COLUMNS MAX_ROWS data) :
    manager.tiles.flatten = placeList.map (shownTile data) := by
  have tiles : Grid.tabulate MAX_ROWS MAX_COLUMNS
      (fun row column => shownTile data ⟨column, row⟩) = manager.tiles := by
    apply Grid.tabulate_of_at _ _ _ shows.shape
    intro row column within reach
    have inside : Grid.Inside MAX_ROWS MAX_COLUMNS row column := by
      simp only [Grid.Inside]
      omega
    obtain ⟨tile, hit⟩ := Grid.at_inside data _ _ laid.shape _ _ inside
    have placed := laid.placed ⟨column, row⟩ tile hit
    have wires : links data ⟨column, row⟩ = tile.node.connectedNodes := by
      rw [links, show tileAt? data ⟨column, row⟩ = some tile from hit]
    rw [shows.tiles, hit, Option.map_some, shownTile, wires, ← placed]
  rw [← tiles, placeList, List.map_flatten, Grid.tabulate, Grid.tabulate, List.map_map]
  congr 2

/-- The floor tiles that pass a condition, by their places. -/
theorem spaces_eq (shows : manager.Shows data) (laid : WellLaid MAX_COLUMNS MAX_ROWS data)
    (condition : TileNode → Bool) :
    manager.spaces condition = (placeList.filter fun place =>
      (links data place).length > 0 && condition (shownTile data place)).map (shownTile data) := by
  rw [TileManager.spaces, shown_tiles shows laid, List.filter_map]
  congr 2
  funext place
  cases listed : links data place <;> simp [shownTile, TileNode.make, listed]

theorem space_places (shows : manager.Shows data) (laid : WellLaid MAX_COLUMNS MAX_ROWS data)
    (condition : TileNode → Bool) :
    (manager.spaces condition).map (·.node.gridPosition) = placeList.filter fun place =>
      (links data place).length > 0 && condition (shownTile data place) := by
  rw [spaces_eq shows laid, List.map_map]
  exact List.map_id _

end Laid

/-! ### One draw from a list of places -/

def drawnTile (tiles : List GridPosition) (draw : Nat) : GridPosition :=
  tiles[draw % tiles.length]?.getD ⟨1, 1⟩

theorem drawn_tile_get (tiles : List GridPosition) (filled : tiles ≠ []) (draw : Nat) :
    tiles[draw % tiles.length]? = some (drawnTile tiles draw) := by
  have within := Nat.mod_lt draw (List.length_pos_iff.mpr filled)
  rw [drawnTile, List.getElem?_eq_getElem within, Option.getD_some]

theorem drawn_tile_mem (tiles : List GridPosition) (draw : Nat) :
    drawnTile tiles draw ∈ tiles ∨ drawnTile tiles draw = ⟨1, 1⟩ := by
  rw [drawnTile]
  cases found : tiles[draw % tiles.length]? with
  | none => exact Or.inr rfl
  | some place => exact Or.inl (List.mem_of_getElem? found)

/-- Two draws from a list without repetitions give one tile exactly when they
    fall on one index. -/
theorem drawn_tile_same (tiles : List GridPosition) (nodup : tiles.Nodup) (first second : Nat) :
    drawnTile tiles first = drawnTile tiles second ↔
      tiles = [] ∨ first % tiles.length = second % tiles.length := by
  by_cases empty : tiles = []
  · simp [empty, drawnTile]
  · have positive : 0 < tiles.length := List.length_pos_iff.mpr empty
    have within := Nat.mod_lt first positive
    have within' := Nat.mod_lt second positive
    simp only [drawnTile, List.getElem?_eq_getElem within, List.getElem?_eq_getElem within',
      Option.getD_some, empty, false_or]
    exact nodup.getElem_inj_iff

/-! ### The placement at the spawn tiles -/

section AtSpawn
variable {K : Type} [Field K] [LinearOrder K]

namespace TrophyScene

def atSpawn (manager : TileManager) (graph : GKGridGraph) (frame : SceneFrame K) :
    TrophyScene K where
  tileManager := manager
  mazeGraph := graph
  frame := frame
  player1 := frame.tilePosition Maze.playerSpawn
  opponent := frame.tilePosition Maze.opponentSpawn

variable {data data' : Grid MazeTile} {manager manager' : TileManager}

/-- The last fallback draws from the floor tiles that pass its condition. -/
theorem ximings_returns (shows : manager.Shows data) (laid : WellLaid MAX_COLUMNS MAX_ROWS data)
    (scene : TrophyScene K) (managed : scene.tileManager = manager) (draw : TrophyDraw K) :
    scene.ximingsRandomTrophyPositioning draw = .ok (scene.frame.tilePosition (drawnTile
      ((manager.spaces scene.ximingsCondition).map (·.node.gridPosition)) draw.element)) := by
  rw [ximingsRandomTrophyPositioning, managed, TileManager.getRandomTile, drawnTile,
    List.length_map, List.getElem?_map]
  have spaces := spaces_eq shows laid scene.ximingsCondition
  cases found : (manager.spaces scene.ximingsCondition)[draw.element %
      (manager.spaces scene.ximingsCondition).length]? with
  | some tile =>
      have listed := List.mem_of_getElem? found
      rw [spaces] at listed
      obtain ⟨place, -, rfl⟩ := List.mem_map.mp listed
      rfl
  | none =>
      obtain ⟨tile, got, position⟩ := get_tile_position shows laid scene.frame ⟨1, 1⟩ (by decide)
      simp only [got, run_ok, position, run_pure, Option.map_none, Option.getD_none]

variable [FloorRing K]

/-- The viable tiles are read off the two distance tables. -/
theorem viable_tile_tables (laid : WellLaid MAX_COLUMNS MAX_ROWS data) (scene : TrophyScene K)
    (graph : scene.mazeGraph = Maze.graphOf data) :
    ∃ dist1 label1 dist2 label2,
      Trophy.DistanceTable (Maze.graphOf data) (scene.frame.indexFrom scene.player1) dist1 label1 ∧
      Trophy.DistanceTable (Maze.graphOf data) (scene.frame.indexFrom scene.opponent)
        dist2 label2 ∧
      scene.viableTile = .ok (placeList.filter (Trophy.viableAt dist1 dist2)) := by
  have mapGraph := Trophy.laid_map_graph laid
  obtain ⟨dist1, label1, ran1, table1⟩ := Trophy.distances_return mapGraph
    (scene.frame.indexFrom scene.player1) (index_from_on_map scene.frame scene.player1)
  obtain ⟨dist2, label2, ran2, table2⟩ := Trophy.distances_return mapGraph
    (scene.frame.indexFrom scene.opponent) (index_from_on_map scene.frame scene.opponent)
  refine ⟨dist1, label1, dist2, label2, table1, table2, ?_⟩
  simp only [viableTile, graph, ran1, ran2, run_ok]
  exact Trophy.viable_tile_eq dist1 dist2 table1.shape table2.shape

/-- The places the trophy can be put on: the viable tiles, or where there is
    none the floor tiles that pass the condition of the last fallback. -/
def candidates (scene : TrophyScene K) : Except Fault (List GridPosition) := do
  let viableTile ← scene.viableTile
  return if viableTile.isEmpty then
    (scene.tileManager.spaces scene.ximingsCondition).map (·.node.gridPosition)
  else viableTile

/-- With viable tiles the trophy is put on the drawn one. -/
theorem mst_draws [SquareRoot K] (shows : manager.Shows data)
    (laid : WellLaid MAX_COLUMNS MAX_ROWS data) (scene : TrophyScene K)
    (managed : scene.tileManager = manager) (tiles : List GridPosition)
    (viable : scene.viableTile = .ok tiles) (filled : tiles ≠ [])
    (onMap : ∀ place ∈ tiles, OnMap place) (draw : TrophyDraw K) :
    scene.mstBasedFairPosition draw =
      .ok (scene.frame.tilePosition (drawnTile tiles draw.element)) := by
  have drawn := drawn_tile_get tiles filled draw.element
  obtain ⟨tile, got, position⟩ := get_tile_position shows laid scene.frame _
    (onMap _ (List.mem_of_getElem? drawn))
  have some' : tiles.isEmpty = false := by simpa using filled
  rw [mstBasedFairPosition, viable, run_ok, some', if_neg Bool.false_ne_true, drawn, unwrapped,
    run_ok, managed, got, run_ok, position, run_pure]

/-- Maps with the same connections have the same candidates. -/
theorem candidates_same (shows : manager.Shows data) (laid : WellLaid MAX_COLUMNS MAX_ROWS data)
    (shows' : manager'.Shows data') (laid' : WellLaid MAX_COLUMNS MAX_ROWS data')
    (same : ∀ source target, Joined data source target ↔ Joined data' source target)
    (frame : SceneFrame K) :
    (atSpawn manager (Maze.graphOf data) frame).candidates =
      (atSpawn manager' (Maze.graphOf data') frame).candidates := by
  have dist (place : GridPosition) (onMap : OnMap place) :=
    Trophy.distances_same (Maze.graphOf data) (Maze.graphOf data') (Trophy.laid_map_graph laid)
      (Trophy.laid_map_graph laid')
      (fun source target => by
        rw [Trophy.laid_links laid, Trophy.laid_links laid']
        exact same source target) place onMap
  have viable : (atSpawn manager (Maze.graphOf data) frame).viableTile =
      (atSpawn manager' (Maze.graphOf data') frame).viableTile := by
    simp only [viableTile, atSpawn]
    rw [dist _ (index_from_on_map frame _), dist _ (index_from_on_map frame _)]
  have linked (place : GridPosition) :
      (links data place).length > 0 ↔ (links data' place).length > 0 := by
    simp only [gt_iff_lt, List.length_pos_iff_exists_mem]
    exact exists_congr fun target => same place target
  have spaces : ((manager.spaces (atSpawn manager (Maze.graphOf data) frame).ximingsCondition).map
      (·.node.gridPosition)) =
      (manager'.spaces (atSpawn manager' (Maze.graphOf data') frame).ximingsCondition).map
        (·.node.gridPosition) := by
    rw [space_places shows laid, space_places shows' laid']
    simp only [linked]
    rfl
  simp only [candidates, viable]
  congr 1
  funext tiles
  split
  · exact congrArg _ spaces
  · rfl

variable [IsStrictOrderedRing K]

/-- With different columns and rows, half the larger distance is too short for
    the circles to meet. -/
theorem circles_miss [SquareRoot K] (scene : TrophyScene K)
    (column : scene.player1.x ≠ scene.opponent.x) (row : scene.player1.y ≠ scene.opponent.y) :
    intersectTwoCircles scene.circles.1 scene.circles.2 = [] := by
  apply far_circles_miss
  simp only [circles, add_halves]
  have wide : 0 < (scene.player1.x - scene.opponent.x) * (scene.player1.x - scene.opponent.x) :=
    mul_self_pos.mpr (sub_ne_zero.mpr column)
  have tall : 0 < (scene.player1.y - scene.opponent.y) * (scene.player1.y - scene.opponent.y) :=
    mul_self_pos.mpr (sub_ne_zero.mpr row)
  split
  · rw [abs_mul_abs_self]
    linarith
  · rw [abs_mul_abs_self]
    linarith

theorem spawn_apart (frame : SceneFrame K) :
    (frame.tilePosition Maze.playerSpawn).x ≠ (frame.tilePosition Maze.opponentSpawn).x ∧
      (frame.tilePosition Maze.playerSpawn).y ≠ (frame.tilePosition Maze.opponentSpawn).y := by
  have widthNe : frame.width ≠ 0 := frame.wide.ne'
  have heightNe : frame.height ≠ 0 := frame.tall.ne'
  constructor
  · intro same
    simp only [SceneFrame.tilePosition, Maze.playerSpawn, Maze.opponentSpawn, MAX_COLUMNS] at same
    push_cast at same
    field_simp at same
    linarith [frame.wide]
  · intro same
    simp only [SceneFrame.tilePosition, Maze.playerSpawn, Maze.opponentSpawn, MAX_ROWS] at same
    push_cast at same
    field_simp at same
    linarith [frame.tall]

variable [SquareRoot K]

/-- The first placement puts the trophy on the drawn candidate. -/
theorem first_placement (shows : manager.Shows data) (laid : WellLaid MAX_COLUMNS MAX_ROWS data)
    (frame : SceneFrame K) :
    ∃ tiles, (atSpawn manager (Maze.graphOf data) frame).candidates = .ok tiles ∧ tiles.Nodup ∧
      (∀ place ∈ tiles, OnMap place) ∧
      ∀ draw, (atSpawn manager (Maze.graphOf data) frame).setRandomPosition draw =
        .ok (frame.tilePosition (drawnTile tiles draw.element)) := by
  obtain ⟨dist1, -, dist2, -, -, -, viable⟩ :=
    viable_tile_tables laid (atSpawn manager (Maze.graphOf data) frame) rfl
  have filtered (keep : GridPosition → Bool) : (placeList.filter keep).Nodup ∧
      ∀ place ∈ placeList.filter keep, OnMap place :=
    ⟨place_list_nodup.filter keep, fun place member =>
      (place_list_mem place).mp (List.mem_filter.mp member).1⟩
  by_cases none : placeList.filter (Trophy.viableAt dist1 dist2) = []
  · have spaces :=
      space_places shows laid (atSpawn manager (Maze.graphOf data) frame).ximingsCondition
    refine ⟨(manager.spaces (atSpawn manager (Maze.graphOf data) frame).ximingsCondition).map
      (·.node.gridPosition), ?_, ?_, ?_, ?_⟩
    · simp only [candidates, viable, none, run_ok, List.isEmpty_nil, if_true, run_pure]
      rfl
    · rw [spaces]
      exact (filtered _).1
    · rw [spaces]
      exact (filtered _).2
    · intro draw
      have missed := circles_miss (atSpawn manager (Maze.graphOf data) frame)
        (spawn_apart frame).1 (spawn_apart frame).2
      rw [setRandomPosition, mstBasedFairPosition, viable, run_ok, none, List.isEmpty_nil,
        if_pos rfl, circleBasedRandomPositioning, missed, List.isEmpty_nil, if_pos (Or.inr rfl)]
      exact ximings_returns shows laid (atSpawn manager (Maze.graphOf data) frame) rfl draw
  · refine ⟨placeList.filter (Trophy.viableAt dist1 dist2), ?_, (filtered _).1, (filtered _).2, ?_⟩
    · simp [candidates, viable, none]
    · intro draw
      exact mst_draws shows laid (atSpawn manager (Maze.graphOf data) frame) rfl _ viable none
        (filtered _).2 draw

end TrophyScene
end AtSpawn
end RelicRace
