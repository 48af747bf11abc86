import Mathlib.Algebra.Order.Floor.Ring
import Mathlib.Data.Rat.Floor
import Mathlib.Tactic.FieldSimp
import Mathlib.Tactic.Ring
import Mathlib.Tactic.Linarith
import RelicRace.Maze.Passages
import RelicRace.Maze.OpenUp

/-!
`TileManager` and `TileNode`: the tiles built from the nodes of a graph, the
position of a tile in the scene and the tile at a position. Coordinates are
exact; `K` is any ordered field with a floor, such as the rationals.
-/

namespace RelicRace
open Library

/-- The positions of the 21x37 map. -/
def OnMap (place : GridPosition) : Prop :=
  Grid.Inside MAX_ROWS MAX_COLUMNS place.row place.column

instance (place : GridPosition) : Decidable (OnMap place) :=
  inferInstanceAs (Decidable (Grid.Inside _ _ _ _))

/-- A position that `getTile` accepts. -/
abbrev MapPlace := { place : GridPosition // OnMap place }

theorem floor_on_map {data : Grid MazeTile} (laid : WellLaid MAX_COLUMNS MAX_ROWS data)
    (place : GridPosition) (floor : IsSpace data place) : OnMap place := by
  have inner := laid.interior place floor
  simp only [Interior, OnMap, Grid.Inside] at inner ⊢
  omega

structure TileNode where
  node : GKGridGraphNode
  row : Int
  column : Int
  typeName : String
  deriving DecidableEq, Repr

def TileNode.make (node : GKGridGraphNode) : TileNode where
  node := node
  row := node.gridPosition.row
  column := node.gridPosition.column
  typeName := if node.connectedNodes.length > 0 then "space" else "wall"

structure TileManager where
  graph : GKGridGraph
  tiles : Grid TileNode

namespace TileManager

def make (graph : GKGridGraph) : Except Fault TileManager :=
  if graph.nodes.isEmpty then
    .ok ⟨graph, []⟩
  else do
    let tiles ← (List.range MAX_ROWS).mapM fun i =>
      (List.range MAX_COLUMNS).mapM fun j => do
        let node ← indexed graph.nodes[i * MAX_COLUMNS + j]?
        return TileNode.make node
    return ⟨graph, tiles⟩

def getTile (manager : TileManager) (row column : Int) : Except Fault TileNode :=
  indexed (manager.tiles.at? row column)

/-- The tiles `getRandomTile` chooses from, in the order of its two loops. -/
def spaces (manager : TileManager) (condition : TileNode → Bool) : List TileNode :=
  manager.tiles.flatten.filter fun tile => tile.typeName = "space" && condition tile

def getRandomTile (manager : TileManager) (condition : TileNode → Bool) (draw : Nat) :
    Except Fault TileNode :=
  let spaces := manager.spaces condition
  match spaces[draw % spaces.length]? with
  | some tile => .ok tile
  -- Without a tile that meets the condition the source falls back to (1, 1).
  | none => manager.getTile 1 1

end TileManager

section Geometry
variable {K : Type} [Field K] [LinearOrder K]

/-- The numeral two of the coordinates is one constant in every module. -/
instance two_at_least_two : Nat.AtLeastTwo 2 := ⟨le_rfl⟩

@[ext] structure CGPoint (K : Type) where
  x : K
  y : K

/-- The frame of the scene that holds the tiles. -/
structure SceneFrame (K : Type) [Zero K] [LT K] where
  midX : K
  midY : K
  width : K
  height : K
  wide : 0 < width
  tall : 0 < height

def SceneFrame.tileWidth (frame : SceneFrame K) : K := frame.width / (MAX_COLUMNS : K)

def SceneFrame.tileHeight (frame : SceneFrame K) : K := frame.height / (MAX_ROWS : K)

/-- The `position` that `setPosition(in:)` gives the tile at a place. -/
def SceneFrame.tilePosition (frame : SceneFrame K) (place : GridPosition) : CGPoint K :=
  let ufX := (place.column : K) / (MAX_COLUMNS : K) * frame.width
  let ufY := (place.row : K) / (MAX_ROWS : K) * frame.height
  ⟨ufX - frame.width / 2 + frame.tileWidth / 2, ufY - frame.height / 2 + frame.tileHeight / 2⟩

def TileNode.position (frame : SceneFrame K) (tile : TileNode) : CGPoint K :=
  frame.tilePosition ⟨tile.column, tile.row⟩

/-- `rounded()`: to the nearest integer, halves away from zero. -/
def rounded [FloorRing K] (value : K) : Int :=
  if 0 ≤ value then ⌊value + 1 / 2⌋ else ⌈value - 1 / 2⌉

/-- `indexFrom(position:)`. -/
def SceneFrame.indexFrom [FloorRing K] (frame : SceneFrame K) (position : CGPoint K) :
    GridPosition :=
  let ratioX := position.x + frame.width / 2 - frame.tileWidth / 2
  let column := rounded ((MAX_COLUMNS : K) * ratioX / frame.width)
  let ratioY := position.y + frame.height / 2 - frame.tileHeight / 2
  let row := rounded ((MAX_ROWS : K) * ratioY / frame.height)
  ⟨if 0 ≤ column ∧ column < MAX_COLUMNS then column else 0,
    if 0 ≤ row ∧ row < MAX_ROWS then row else 0⟩

theorem index_from_on_map [FloorRing K] (frame : SceneFrame K) (position : CGPoint K) :
    OnMap (frame.indexFrom position) := by
  simp only [OnMap, Grid.Inside, SceneFrame.indexFrom, MAX_ROWS, MAX_COLUMNS]
  split_ifs <;> omega

variable [IsStrictOrderedRing K] [FloorRing K]

/-- Less than a half away from an integer a value is rounded to it. -/
theorem rounded_near (value : K) (whole : Int) (low : whole - 1 / 2 < value)
    (high : value < whole + 1 / 2) : rounded value = whole := by
  simp only [rounded]
  split
  · rw [Int.floor_eq_iff]
    constructor <;> linarith
  · rw [Int.ceil_eq_iff]
    constructor <;> linarith

theorem rounded_int (value : Int) : rounded (value : K) = value :=
  rounded_near _ value (by linarith) (by linarith)

/-- The centre of a tile is on that tile. -/
theorem index_from_tile (frame : SceneFrame K) (place : GridPosition) (onMap : OnMap place) :
    frame.indexFrom (frame.tilePosition place) = place := by
  have widthNe : frame.width ≠ 0 := frame.wide.ne'
  have heightNe : frame.height ≠ 0 := frame.tall.ne'
  have column : (MAX_COLUMNS : K) * ((frame.tilePosition place).x + frame.width / 2 -
      frame.tileWidth / 2) / frame.width = (place.column : K) := by
    simp only [SceneFrame.tilePosition, SceneFrame.tileWidth, MAX_COLUMNS]
    field_simp
    ring
  have row : (MAX_ROWS : K) * ((frame.tilePosition place).y + frame.height / 2 -
      frame.tileHeight / 2) / frame.height = (place.row : K) := by
    simp only [SceneFrame.tilePosition, SceneFrame.tileHeight, MAX_ROWS]
    field_simp
    ring
  simp only [SceneFrame.indexFrom, column, row, rounded_int]
  obtain ⟨rowLow, rowHigh, columnLow, columnHigh⟩ := onMap
  simp [rowLow, rowHigh, columnLow, columnHigh]

/-- Different tiles have different centres. -/
theorem tile_position_inj (frame : SceneFrame K) (first second : GridPosition)
    (onMap : OnMap first) (onMap' : OnMap second)
    (same : frame.tilePosition first = frame.tilePosition second) : first = second := by
  rw [← index_from_tile frame first onMap, same, index_from_tile frame second onMap']

end Geometry

/-- A scene around the origin whose tiles are unit squares. -/
def SceneFrame.unit : SceneFrame ℚ := ⟨0, 0, 37, 21, by decide +kernel, by decide +kernel⟩

/-! ### The tiles of a generated maze -/

namespace TileManager

/-- `node.connectedNodes` of the node of the graph that has the position. -/
def linksAt (manager : TileManager) (place : GridPosition) : List GridPosition :=
  match manager.graph.nodes.find? fun node => node.gridPosition = place with
  | some node => node.connectedNodes
  | none => []

/-- Where the position determines the connections, the node found has them. -/
theorem links_at_eq (manager : TileManager) (wires : GridPosition → List GridPosition)
    (wired : ∀ node ∈ manager.graph.nodes, node.connectedNodes = wires node.gridPosition)
    (place : GridPosition)
    (listed : wires place ≠ [] → ∃ node ∈ manager.graph.nodes, node.gridPosition = place) :
    manager.linksAt place = wires place := by
  rw [linksAt]
  split
  · rename_i node found
    have same := List.find?_some found
    rw [decide_eq_true_eq] at same
    rw [wired node (List.mem_of_find?_eq_some found), same]
  · rename_i absent
    by_contra some
    obtain ⟨node, member, same⟩ := listed fun none => some none.symm
    exact absurd (decide_eq_true same) (List.find?_eq_none.mp absent node member)

/-- The manager holds one tile for every cell of the map, with its node. -/
structure Shows (manager : TileManager) (data : Grid MazeTile) : Prop where
  graph : manager.graph = Maze.graphOf data
  shape : manager.tiles.Shape MAX_ROWS MAX_COLUMNS
  tiles : ∀ row column, manager.tiles.at? row column =
    (data.at? row column).map fun tile => TileNode.make tile.node

theorem graph_node_at (data : Grid MazeTile) (shape : data.Shape MAX_ROWS MAX_COLUMNS)
    (row column : Nat) (reach : column < MAX_COLUMNS) :
    (Maze.graphOf data).nodes[row * MAX_COLUMNS + column]? =
      (data.at? row column).map (·.node) := by
  rw [Maze.graphOf, List.getElem?_map,
    Grid.flatten_at data MAX_ROWS MAX_COLUMNS shape row column reach]

/-- A graph with enough nodes fills the map, row by row. -/
theorem make_tiles (graph : GKGridGraph)
    (enough : MAX_ROWS * MAX_COLUMNS ≤ graph.nodes.length) :
    ∃ manager, make graph = .ok manager ∧ manager.graph = graph ∧
      manager.tiles.Shape MAX_ROWS MAX_COLUMNS ∧
      ∀ row column : Nat, row < MAX_ROWS → column < MAX_COLUMNS →
        manager.tiles.at? (row : Int) (column : Int) =
          (graph.nodes[row * MAX_COLUMNS + column]?).map TileNode.make := by
  let node (row column : Nat) : GKGridGraphNode :=
    (graph.nodes[row * MAX_COLUMNS + column]?).getD ⟨⟨0, 0⟩, []⟩
  have present (row column : Nat) (within : row < MAX_ROWS) (reach : column < MAX_COLUMNS) :
      graph.nodes[row * MAX_COLUMNS + column]? = some (node row column) := by
    have index : row * MAX_COLUMNS + column < graph.nodes.length := by
      simp only [MAX_ROWS, MAX_COLUMNS] at *
      omega
    simp only [node, List.getElem?_eq_getElem index, Option.getD_some]
  have rows : (List.range MAX_ROWS).mapM (fun i => (List.range MAX_COLUMNS).mapM fun j => do
      let node ← indexed graph.nodes[i * MAX_COLUMNS + j]?
      return TileNode.make node) =
      .ok (Grid.tabulate MAX_ROWS MAX_COLUMNS fun i j => TileNode.make (node i j)) := by
    apply map_all_ok
    intro i within
    apply map_all_ok
    intro j reach
    rw [present i j (List.mem_range.mp within) (List.mem_range.mp reach), indexed, run_ok, run_pure]
  have filled : graph.nodes.isEmpty = false := by
    cases listed : graph.nodes with
    | nil => simp [listed, MAX_ROWS, MAX_COLUMNS] at enough
    | cons node rest => rfl
  refine ⟨⟨graph, Grid.tabulate MAX_ROWS MAX_COLUMNS fun i j => TileNode.make (node i j)⟩, ?_, rfl,
    Grid.tabulate_shape _ _ _, fun row column within reach => ?_⟩
  · rw [make, if_neg (by simp [filled]), rows, run_ok, run_pure]
  · rw [Grid.at_tabulate _ _ _ _ _ within reach, present row column within reach, Option.map_some]

/-- The tiles are made of no node at all or of at least as many as the map has. -/
theorem make_returns_iff (graph : GKGridGraph) : (∃ manager, make graph = .ok manager) ↔
    graph.nodes = [] ∨ MAX_ROWS * MAX_COLUMNS ≤ graph.nodes.length := by
  constructor
  · rintro ⟨manager, made⟩
    by_cases empty : graph.nodes = []
    · exact Or.inl empty
    · rw [make, if_neg (by simpa using empty)] at made
      obtain ⟨tiles, rows, -⟩ := (run_bind_iff _ _ _).mp made
      -- The last round of both loops has read the last node.
      obtain ⟨cells, row⟩ := (Loops.map_returns_iff _ _).mp ⟨tiles, rows⟩ 20 (by decide)
      obtain ⟨tile, last⟩ := (Loops.map_returns_iff _ _).mp ⟨cells, row⟩ 36 (by decide)
      obtain ⟨node, read, -⟩ := (run_bind_iff _ _ _).mp last
      exact Or.inr (List.getElem?_eq_some_iff.mp ((indexed_ok_iff _ _).mp read)).1
  · rintro (empty | enough)
    · exact ⟨⟨graph, []⟩, by rw [make, if_pos (by simpa using empty)]⟩
    · obtain ⟨manager, made, -⟩ := make_tiles graph enough
      exact ⟨manager, made⟩

theorem make_shows (data : Grid MazeTile) (shape : data.Shape MAX_ROWS MAX_COLUMNS) :
    ∃ manager, make (Maze.graphOf data) = .ok manager ∧ manager.Shows data := by
  have length : (Maze.graphOf data).nodes.length = MAX_ROWS * MAX_COLUMNS := by
    rw [Maze.graphOf, List.length_map, Grid.flatten_length data _ _ shape]
  obtain ⟨manager, made, graph, shape', tiles⟩ := make_tiles (Maze.graphOf data) length.ge
  refine ⟨manager, made, graph, shape', fun row column => ?_⟩
  by_cases inside : Grid.Inside MAX_ROWS MAX_COLUMNS row column
  · obtain ⟨r, rfl⟩ := Int.eq_ofNat_of_zero_le inside.1
    obtain ⟨c, rfl⟩ := Int.eq_ofNat_of_zero_le inside.2.2.1
    have within : r < MAX_ROWS := by have := inside.2.1; omega
    have reach : c < MAX_COLUMNS := by have := inside.2.2.2; omega
    rw [tiles r c within reach, graph_node_at data shape r c reach, Option.map_map]
    rfl
  · rw [Grid.at_none_of_not_inside data _ _ shape _ _ inside]
    exact Grid.at_none_of_not_inside _ _ _ shape' _ _ inside

/-- Of a graph with nodes the manager makes all tiles of the map. -/
theorem make_shape (graph : GKGridGraph) (manager : TileManager) (filled : graph.nodes ≠ [])
    (made : make graph = .ok manager) : manager.tiles.Shape MAX_ROWS MAX_COLUMNS := by
  rw [make, if_neg (by simpa using filled)] at made
  obtain ⟨tiles, rows, same⟩ := (run_bind_iff _ _ _).mp made
  obtain rfl := Except.ok.inj same
  obtain ⟨height, row⟩ := Loops.map_collects _ _ _ rows
  refine ⟨by simpa using height, fun cells listed => ?_⟩
  obtain ⟨i, -, columns⟩ := row cells listed
  simpa using (Loops.map_collects _ _ _ columns).1

section Shown
variable {manager : TileManager} {data : Grid MazeTile}

theorem shown_links (shows : manager.Shows data) (laid : WellLaid MAX_COLUMNS MAX_ROWS data)
    (place : GridPosition) : manager.linksAt place = links data place := by
  apply links_at_eq
  · intro node member
    rw [shows.graph, Maze.graphOf, List.mem_map] at member
    obtain ⟨tile, listed, rfl⟩ := member
    rw [links, listed_tile data laid tile listed]
  · intro some
    rw [links] at some
    cases hit : tileAt? data place with
    | none => simp [hit] at some
    | some tile =>
        refine ⟨tile.node, ?_, laid.placed place tile hit⟩
        rw [shows.graph, Maze.graphOf, List.mem_map]
        exact ⟨tile, (Grid.mem_flatten_iff data tile).mpr ⟨_, _, hit⟩, rfl⟩

theorem shown_tile (shows : manager.Shows data) (laid : WellLaid MAX_COLUMNS MAX_ROWS data)
    (place : GridPosition) (onMap : OnMap place) :
    ∃ tile, manager.getTile place.row place.column = .ok tile ∧
      tile.row = place.row ∧ tile.column = place.column ∧
      tile.node.gridPosition = place ∧ tile.node.connectedNodes = links data place ∧
      tile.typeName = if links data place = [] then "wall" else "space" := by
  obtain ⟨mazeTile, hit⟩ := Grid.at_inside data MAX_ROWS MAX_COLUMNS laid.shape _ _ onMap
  have node := laid.placed place mazeTile hit
  have wires : links data place = mazeTile.node.connectedNodes := by simp [links, tileAt?, hit]
  refine ⟨TileNode.make mazeTile.node, by simp [getTile, shows.tiles, hit, indexed], ?_, ?_, node,
    wires.symm, ?_⟩
  · simp [TileNode.make, node]
  · simp [TileNode.make, node]
  · rw [wires]
    cases listed : mazeTile.node.connectedNodes <;> simp [TileNode.make, listed]

/-- The random tile is one of the map's, of the floor or in the corner. -/
theorem random_tile_shown (shows : manager.Shows data) (condition : TileNode → Bool)
    (draw : Nat) :
    ∃ place tile, OnMap place ∧ manager.getTile place.row place.column = .ok tile ∧
      manager.getRandomTile condition draw = .ok tile ∧
      (tile.typeName = "space" ∨ place = ⟨1, 1⟩) := by
  simp only [getRandomTile]
  split
  · rename_i tile drawn
    have member := List.mem_filter.mp (List.mem_of_getElem? drawn)
    rw [Bool.and_eq_true, decide_eq_true_eq] at member
    obtain ⟨row, column, hit⟩ := (Grid.mem_flatten_iff manager.tiles tile).mp member.1
    exact ⟨⟨column, row⟩, tile, Grid.inside_of_at manager.tiles _ _ shows.shape row column _ hit,
      by rw [getTile, hit, indexed], rfl, Or.inl member.2.1⟩
  · have corner : OnMap ⟨1, 1⟩ := by decide
    obtain ⟨tile, hit⟩ := Grid.at_inside manager.tiles _ _ shows.shape _ _ corner
    have found : manager.getTile 1 1 = .ok tile := by
      rw [getTile, hit, indexed]
    exact ⟨⟨1, 1⟩, tile, corner, found, found, Or.inr rfl⟩

theorem get_tile_off_map (shows : manager.Shows data) (place : GridPosition)
    (outside : ¬ OnMap place) :
    manager.getTile place.row place.column = .error .indexOutOfRange := by
  rw [getTile, Grid.at_none_of_not_inside manager.tiles _ _ shows.shape _ _ outside, indexed]

end Shown
end TileManager
end RelicRace
