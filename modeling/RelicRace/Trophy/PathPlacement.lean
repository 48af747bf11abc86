import RelicRace.Game.Arrival
import RelicRace.Trophy.FairPlacement

/-!
`graphBasedRandomPositioning`, the plain placement that asks `findPath` for a way
from every floor tile to both actors. A path has one node more than the distance
has connections, so the filter on paths is a filter on the two distance tables
from which `MSTBasedFairPosition` chooses.
-/

namespace RelicRace
open Library

/-- Floor at least 20 connections away from both tiles, by shortest walks that
    differ in length by 5 at most. -/
def PathFair (data : Grid MazeTile) (playerTile opponentTile place : GridPosition) : Prop :=
  IsSpace data place ∧ ∃ near far : Nat,
    BreadthFirst.IsDistance (Joined data) playerTile place (some near) ∧
      BreadthFirst.IsDistance (Joined data) opponentTile place (some far) ∧
      20 ≤ near ∧ 20 ≤ far ∧ near ≤ far + 5 ∧ far ≤ near + 5

/-- Without a way `findPath` returns no nodes. -/
def PathFinder.ReturnsNothing (finder : PathFinder) : Prop :=
  ∀ graph source target, (¬ ∃ path, NodePath graph source target path) →
    finder.findPath graph source target = []

section Placing
variable {K : Type} [Field K] [LinearOrder K]

namespace TrophyScene

def graphBasedCondition (finder : PathFinder) (scene : TrophyScene K)
    (opponentNode playerNode : GridPosition) (tile : TileNode) : Bool :=
  let shortestPathOT : Int :=
    (finder.findPath scene.mazeGraph tile.node.gridPosition opponentNode).length
  let shortestPathPT : Int :=
    (finder.findPath scene.mazeGraph tile.node.gridPosition playerNode).length
  let MIN_LENGTH_OT := shortestPathOT > 20
  let MIN_LENGTH_PT := shortestPathPT > 20
  let SIMILIAR_LENTH :=
    shortestPathOT + 5 ≥ shortestPathPT ∧ shortestPathOT - 5 ≤ shortestPathPT
  MIN_LENGTH_OT && MIN_LENGTH_PT && SIMILIAR_LENTH

variable [FloorRing K]

/-- The source looks the nodes of the actors up again for every tile. -/
def graphBasedRandomPositioning (finder : PathFinder) (scene : TrophyScene K)
    (draw : TrophyDraw K) : Except Fault (CGPoint K) := do
  let opponentPos := scene.frame.indexFrom scene.opponent
  let opponentTile ← scene.tileManager.getTile opponentPos.row opponentPos.column
  let playerPos := scene.frame.indexFrom scene.player1
  let playerTile ← scene.tileManager.getTile playerPos.row playerPos.column
  let tile ← scene.tileManager.getRandomTile
    (scene.graphBasedCondition finder opponentTile.node.gridPosition
      playerTile.node.gridPosition) draw.element
  return tile.position scene.frame

end TrophyScene

section Paths
variable {data : Grid MazeTile} {manager : TileManager}

/-- A path leads along the connections. -/
theorem node_path_walk (graph : GKGridGraph) (source target : GridPosition)
    (path : List GridPosition) (nodes : NodePath graph source target path) :
    Relation.ReflTransGen graph.Linked source target := by
  cases path with
  | nil => cases nodes.first
  | cons first rest =>
      obtain rfl := Option.some.inj nodes.first
      have walked := BreadthFirst.steps_of_chain graph.Linked first rest nodes.linked
      have ends := nodes.last
      rw [List.getLast?_eq_some_getLast (List.cons_ne_nil first rest), Option.some.injEq] at ends
      exact BreadthFirst.walk_of_steps graph.Linked first rest.length target (ends ▸ walked)

/-- The nodes of the path from a floor tile to a place, by the distance of the place. -/
theorem find_path_count (laid : WellLaid MAX_COLUMNS MAX_ROWS data) (finder : PathFinder)
    (nothing : finder.ReturnsNothing) (place actor : GridPosition) (distance : Option Nat)
    (least : BreadthFirst.IsDistance (Joined data) actor place distance) :
    (finder.findPath (Maze.graphOf data) place actor).length = (distance.map (· + 1)).getD 0 := by
  have back := BreadthFirst.distance_symm (Joined data)
    (fun source target => (joined_symm laid source target).mp) actor place distance least
  have linked := (BreadthFirst.is_distance_congr _ _ (graph_linked laid) place actor distance).mpr
    back
  cases distance with
  | none =>
      have missed := (BreadthFirst.distance_none_iff _ _ _ _ linked).mp rfl
      have nowhere : ¬ ∃ path, NodePath (Maze.graphOf data) place actor path := by
        rintro ⟨path, nodes⟩
        exact missed (node_path_walk _ place actor path nodes)
      rw [nothing _ _ _ nowhere]
      rfl
  | some count =>
      obtain ⟨steps, fewest⟩ := (BreadthFirst.distance_some_iff _ _ _ _ linked count).mp rfl
      exact find_path_length finder _ place actor count steps fewest

/-- The filter on path lengths is a filter on distances. -/
theorem graph_condition_iff (laid : WellLaid MAX_COLUMNS MAX_ROWS data) (finder : PathFinder)
    (nothing : finder.ReturnsNothing) (scene : TrophyScene K)
    (graph : scene.mazeGraph = Maze.graphOf data) (opponentNode playerNode place : GridPosition)
    (label1 label2 : Option Nat)
    (least1 : BreadthFirst.IsDistance (Joined data) playerNode place label1)
    (least2 : BreadthFirst.IsDistance (Joined data) opponentNode place label2) :
    scene.graphBasedCondition finder opponentNode playerNode (shownTile data place) = true ↔
      ∃ near far : Nat, label1 = some near ∧ label2 = some far ∧
        20 ≤ near ∧ 20 ≤ far ∧ near ≤ far + 5 ∧ far ≤ near + 5 := by
  have node : (shownTile data place).node.gridPosition = place := rfl
  simp only [TrophyScene.graphBasedCondition, graph, node,
    find_path_count laid finder nothing place _ _ least1,
    find_path_count laid finder nothing place _ _ least2, Bool.and_eq_true, decide_eq_true_eq]
  cases label1 with
  | none => simp
  | some near =>
      cases label2 with
      | none => simp
      | some far =>
          simp only [Option.map_some, Option.getD_some, Option.some.injEq]
          constructor
          · rintro ⟨⟨long, long'⟩, close, close'⟩
            exact ⟨near, far, rfl, rfl, by omega, by omega, by omega, by omega⟩
          · rintro ⟨near, far, rfl, rfl, long, long', close, close'⟩
            exact ⟨⟨by omega, by omega⟩, by omega, by omega⟩

/-- The tiles that the plain placement chooses from. -/
theorem path_tiles_iff (shows : manager.Shows data) (scanned : Maze.Scanned data)
    (finder : PathFinder) (nothing : finder.ReturnsNothing) (scene : TrophyScene K)
    (graph : scene.mazeGraph = Maze.graphOf data) (opponentNode playerNode : GridPosition)
    (label1 label2 : GridPosition → Option Nat)
    (least1 : ∀ place, BreadthFirst.IsDistance (Joined data) playerNode place (label1 place))
    (least2 : ∀ place, BreadthFirst.IsDistance (Joined data) opponentNode place (label2 place))
    (place : GridPosition) :
    place ∈ (manager.spaces (scene.graphBasedCondition finder opponentNode playerNode)).map
        (·.node.gridPosition) ↔ PathFair data playerNode opponentNode place := by
  rw [space_places shows scanned.1, List.mem_filter, place_list_mem, Bool.and_eq_true,
    decide_eq_true_eq, gt_iff_lt, List.length_pos_iff, ← Maze.scanned_linked data scanned,
    graph_condition_iff scanned.1 finder nothing scene graph _ _ place _ _ (least1 place)
      (least2 place), PathFair]
  constructor
  · rintro ⟨-, floor, near, far, found1, found2, bounds⟩
    exact ⟨floor, near, far, found1 ▸ least1 place, found2 ▸ least2 place, bounds⟩
  · rintro ⟨floor, near, far, first, second, bounds⟩
    exact ⟨floor_on_map scanned.1 place floor, floor, near, far,
      BreadthFirst.distance_unique _ _ _ _ _ (least1 place) first,
      BreadthFirst.distance_unique _ _ _ _ _ (least2 place) second, bounds⟩

/-- A random tile is the drawn one of the tiles that pass, or the tile (1, 1). -/
theorem random_tile_position (shows : manager.Shows data)
    (laid : WellLaid MAX_COLUMNS MAX_ROWS data) (frame : SceneFrame K)
    (condition : TileNode → Bool) (draw : Nat) :
    ∃ tile, manager.getRandomTile condition draw = .ok tile ∧
      tile.position frame = frame.tilePosition
        (drawnTile ((manager.spaces condition).map (·.node.gridPosition)) draw) := by
  rw [TileManager.getRandomTile, drawnTile, List.length_map, List.getElem?_map]
  have spaces := spaces_eq shows laid condition
  cases found : (manager.spaces condition)[draw % (manager.spaces condition).length]? with
  | some tile =>
      have listed := List.mem_of_getElem? found
      rw [spaces] at listed
      obtain ⟨place, -, rfl⟩ := List.mem_map.mp listed
      exact ⟨shownTile data place, rfl, rfl⟩
  | none => exact get_tile_position shows laid frame ⟨1, 1⟩ (by decide)

variable [FloorRing K]

theorem graph_based_returns (shows : manager.Shows data)
    (laid : WellLaid MAX_COLUMNS MAX_ROWS data) (finder : PathFinder) (scene : TrophyScene K)
    (managed : scene.tileManager = manager) (draw : TrophyDraw K) :
    scene.graphBasedRandomPositioning finder draw = .ok (scene.frame.tilePosition (drawnTile
      ((manager.spaces (scene.graphBasedCondition finder (scene.frame.indexFrom scene.opponent)
        (scene.frame.indexFrom scene.player1))).map (·.node.gridPosition)) draw.element)) := by
  obtain ⟨opponentTile, found, -, -, node, -⟩ := TileManager.shown_tile shows laid
    (scene.frame.indexFrom scene.opponent) (index_from_on_map _ _)
  obtain ⟨playerTile, found', -, -, node', -⟩ := TileManager.shown_tile shows laid
    (scene.frame.indexFrom scene.player1) (index_from_on_map _ _)
  obtain ⟨tile, drawn, position⟩ := random_tile_position shows laid scene.frame
    (scene.graphBasedCondition finder (scene.frame.indexFrom scene.opponent)
      (scene.frame.indexFrom scene.player1)) draw.element
  simp only [TrophyScene.graphBasedRandomPositioning, managed, found, found', node, node', run_ok,
    drawn, position, run_pure]

end Paths

variable [FloorRing K]

end Placing

theorem choosing_returns_nothing : PathFinder.choosing.ReturnsNothing :=
  fun _ _ _ nowhere => dif_neg nowhere

end RelicRace
