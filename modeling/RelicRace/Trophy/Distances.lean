import Mathlib.Data.Finset.Prod
import RelicRace.Library.BreadthFirst
import RelicRace.Tiles.TileManager

/-!
`distances(from:using:)`: the breadth-first search of the trophy over the nodes
of the maze graph, with its queue and its two tables. A node on the queue is a
reference; a connected node is looked up by its grid position.
-/

namespace RelicRace
open Library

/-- `enqueue` appends to the array and `dequeue` takes its first element. -/
structure Queue (T : Type) where
  array : List T

namespace Queue
variable {T : Type}

def enqueue (queue : Queue T) (element : T) : Queue T := ⟨queue.array ++ [element]⟩

def dequeue (queue : Queue T) : Option (T × Queue T) :=
  match queue.array with
  | [] => none
  | element :: rest => some (element, ⟨rest⟩)

end Queue

/-- The node that a reference with this position refers to. -/
def GKGridGraph.nodeAt? (graph : GKGridGraph) (place : GridPosition) : Option GKGridGraphNode :=
  graph.nodes.find? fun node => node.gridPosition = place

/-- `nodes[index]`. -/
def GKGridGraph.node (graph : GKGridGraph) (index : Int) : Except Fault GKGridGraphNode :=
  if 0 ≤ index then indexed graph.nodes[index.toNat]? else .error .indexOutOfRange

namespace Trophy

def readAt {α : Type} (grid : Grid α) (place : GridPosition) : Except Fault α :=
  indexed (grid.at? place.row place.column)

def writeAt {α : Type} (grid : Grid α) (place : GridPosition) (value : α) :
    Except Fault (Grid α) :=
  match grid.at? place.row place.column with
  | some _ => .ok (grid.put place.row place.column value)
  | none => .error .indexOutOfRange

/-- The local variables of the search. -/
structure SearchState where
  queue : Queue GKGridGraphNode
  visited : Grid Bool
  dist : Grid Int

/-- One round of `for neighbour in rootNode.connectedNodes`. -/
def visitNeighbour (graph : GKGridGraph) (rootNode : GKGridGraphNode) (state : SearchState)
    (neighbour : GridPosition) : Except Fault SearchState := do
  let neighbourNode ← unwrapped (graph.nodeAt? neighbour)
  let neighbourPos := neighbourNode.gridPosition
  let seen ← readAt state.visited neighbourPos
  if seen then
    return state
  else
    let rootDist ← readAt state.dist rootNode.gridPosition
    let dist ← writeAt state.dist neighbourPos (rootDist + 1)
    let visited ← writeAt state.visited neighbourPos true
    return ⟨state.queue.enqueue neighbourNode, visited, dist⟩

/-- `while let rootNode = queue.dequeue()`. -/
def search (graph : GKGridGraph) : Nat → SearchState → Except Fault (Grid Int)
  | 0, _ => .error .stepLimit
  | limit + 1, state =>
      match state.queue.dequeue with
      | none => .ok state.dist
      | some (rootNode, queue) => do
          let state ← rootNode.connectedNodes.foldlM (visitNeighbour graph rootNode)
            { state with queue }
          search graph limit state

/-- A round for every node, and the one that finds the queue empty. -/
def searchBound : Nat := MAX_ROWS * MAX_COLUMNS + 2

def distances (src : Int) (graph : GKGridGraph) : Except Fault (Grid Int) := do
  let srcNode ← graph.node src
  let visited ← writeAt (Grid.tabulate MAX_ROWS MAX_COLUMNS fun _ _ => false)
    srcNode.gridPosition true
  let dist ← writeAt (Grid.tabulate MAX_ROWS MAX_COLUMNS fun _ _ => (-1 : Int))
    srcNode.gridPosition 0
  search graph searchBound ⟨Queue.enqueue ⟨[]⟩ srcNode, visited, dist⟩

/-! ### The graphs of a map -/

/-- The nodes are those of the map, row by row, and the connections stay on it. -/
structure MapGraph (graph : GKGridGraph) : Prop where
  size : graph.nodes.length = MAX_ROWS * MAX_COLUMNS
  placed : ∀ row column : Nat, row < MAX_ROWS → column < MAX_COLUMNS →
    (graph.nodes[row * MAX_COLUMNS + column]?).map (·.gridPosition) = some ⟨column, row⟩
  closed : ∀ node ∈ graph.nodes, ∀ next ∈ node.connectedNodes, OnMap next

def linksOf (graph : GKGridGraph) (place : GridPosition) : List GridPosition :=
  match graph.nodeAt? place with
  | some node => node.connectedNodes
  | none => []

theorem node_at_index (graph : GKGridGraph) (mapGraph : MapGraph graph) (row column : Nat)
    (within : row < MAX_ROWS) (reach : column < MAX_COLUMNS) :
    ∃ node, graph.nodes[row * MAX_COLUMNS + column]? = some node ∧
      graph.nodeAt? ⟨column, row⟩ = some node ∧ node.gridPosition = ⟨column, row⟩ := by
  obtain ⟨node, hit, position⟩ :=
    Option.map_eq_some_iff.mp (mapGraph.placed row column within reach)
  refine ⟨node, hit, ?_, position⟩
  cases found : graph.nodeAt? ⟨column, row⟩ with
  | none =>
      have missed := List.find?_eq_none.mp found node (List.mem_of_getElem? hit)
      simp [position] at missed
  | some other =>
      -- The node that is found stands at an index of its own, given by its position.
      have placed : other.gridPosition = ⟨column, row⟩ := by simpa using List.find?_some found
      obtain ⟨index, bound, same⟩ := List.getElem_of_mem (List.mem_of_find?_eq_some found)
      have columns : index % MAX_COLUMNS < MAX_COLUMNS := Nat.mod_lt index (by decide)
      have rows : index / MAX_COLUMNS < MAX_ROWS :=
        Nat.div_lt_of_lt_mul (by rw [Nat.mul_comm, ← mapGraph.size]; exact bound)
      have split : index / MAX_COLUMNS * MAX_COLUMNS + index % MAX_COLUMNS = index := by
        rw [Nat.mul_comm]
        exact Nat.div_add_mod index MAX_COLUMNS
      have own := mapGraph.placed _ _ rows columns
      rw [split, List.getElem?_eq_getElem bound, same, Option.map_some, placed] at own
      simp only [Option.some.injEq, GridPosition.mk.injEq, Int.natCast_inj] at own
      have home : row * MAX_COLUMNS + column = index := by rw [own.1, own.2, split]
      rw [home, List.getElem?_eq_getElem bound, same] at hit
      exact hit

theorem node_on_map (graph : GKGridGraph) (mapGraph : MapGraph graph) (place : GridPosition)
    (onMap : OnMap place) :
    ∃ node, graph.node (place.row * MAX_COLUMNS + place.column) = .ok node ∧
      graph.nodeAt? place = some node ∧ node.gridPosition = place := by
  obtain ⟨column, row⟩ := place
  obtain ⟨rowLow, rowHigh, columnLow, columnHigh⟩ := onMap
  obtain ⟨r, rfl⟩ := Int.eq_ofNat_of_zero_le rowLow
  obtain ⟨c, rfl⟩ := Int.eq_ofNat_of_zero_le columnLow
  obtain ⟨node, hit, found, position⟩ :=
    node_at_index graph mapGraph r c (Int.ofNat_lt.mp rowHigh) (Int.ofNat_lt.mp columnHigh)
  refine ⟨node, ?_, found, position⟩
  have index : (((r : Int) * MAX_COLUMNS + c).toNat) = r * MAX_COLUMNS + c := by omega
  rw [GKGridGraph.node, if_pos (by positivity), index, hit, indexed]

/-! ### The search refines the abstract one -/

section Tables
variable {α : Type}

theorem write_at (grid : Grid α) (place : GridPosition) (value old : α)
    (present : grid.at? place.row place.column = some old) :
    ∃ after, writeAt grid place value = .ok after ∧
      (∀ rows columns, grid.Shape rows columns → after.Shape rows columns) ∧
      ∀ other : GridPosition, after.at? other.row other.column =
        if other = place then some value else grid.at? other.row other.column := by
  refine ⟨grid.put place.row place.column value, by rw [writeAt, present], ?_, ?_⟩
  · exact fun rows columns shape => Grid.shape_put grid rows columns shape _ _ value
  · intro other
    rw [Grid.at_put grid _ _ value old present]
    simp only [GridPosition.ext_iff, and_comm]

theorem tabulated_at (cell : α) (place : GridPosition) (onMap : OnMap place) :
    (Grid.tabulate MAX_ROWS MAX_COLUMNS fun _ _ => cell).at? place.row place.column =
      some cell := by
  obtain ⟨rowLow, rowHigh, columnLow, columnHigh⟩ := onMap
  obtain ⟨r, row⟩ := Int.eq_ofNat_of_zero_le rowLow
  obtain ⟨c, column⟩ := Int.eq_ofNat_of_zero_le columnLow
  rw [row, column]
  exact Grid.at_tabulate _ _ _ r c (by omega) (by omega)

end Tables

/-- The number in the table `dist` for a label. -/
def distValue : Option Nat → Int
  | some count => count
  | none => -1

/-- The cells of the table are the distances from the source. -/
structure DistanceTable (graph : GKGridGraph) (source : GridPosition) (dist : Grid Int)
    (label : GridPosition → Option Nat) : Prop where
  shape : dist.Shape MAX_ROWS MAX_COLUMNS
  cells : ∀ place, OnMap place →
    dist.at? place.row place.column = some (distValue (label place))
  least : ∀ place, BreadthFirst.IsDistance (fun here next => next ∈ linksOf graph here) source
    place (label place)

structure Tracks (graph : GKGridGraph) (state : SearchState)
    (search : BreadthFirst.Search GridPosition) : Prop where
  queue : search.queue = state.queue.array.map (·.gridPosition)
  nodes : ∀ node ∈ state.queue.array,
    graph.nodeAt? node.gridPosition = some node ∧ OnMap node.gridPosition
  shape : state.dist.Shape MAX_ROWS MAX_COLUMNS
  visited : ∀ place, OnMap place →
    state.visited.at? place.row place.column = some (search.label place).isSome
  dist : ∀ place, OnMap place →
    state.dist.at? place.row place.column = some (distValue (search.label place))

section Rounds
variable {graph : GKGridGraph}

theorem visit_neighbour_tracks (mapGraph : MapGraph graph) (rootNode : GKGridGraphNode)
    (near : Nat) (state : SearchState) (search : BreadthFirst.Search GridPosition)
    (neighbour : GridPosition) (tracks : Tracks graph state search)
    (rootOn : OnMap rootNode.gridPosition) (root : search.label rootNode.gridPosition = some near)
    (onMap : OnMap neighbour) :
    ∃ state', visitNeighbour graph rootNode state neighbour = .ok state' ∧
      Tracks graph state' (BreadthFirst.discover near search neighbour) := by
  obtain ⟨node, -, found, rfl⟩ := node_on_map graph mapGraph neighbour onMap
  have seen := tracks.visited node.gridPosition onMap
  have rootDist := tracks.dist rootNode.gridPosition rootOn
  rw [root] at rootDist
  simp only [visitNeighbour, found, unwrapped, run_ok, readAt, seen, indexed]
  -- A visited neighbour changes neither search; a fresh one is labelled and queued in both.
  cases label : search.label node.gridPosition with
  | some count =>
      have kept : BreadthFirst.discover near search node.gridPosition = search := by
        simp [BreadthFirst.discover, label]
      exact ⟨state, by simp, kept.symm ▸ tracks⟩
  | none =>
      obtain ⟨dist, wrote, shaped, distAt⟩ := write_at state.dist node.gridPosition
        ((near : Int) + 1) _ (tracks.dist node.gridPosition onMap)
      obtain ⟨visited, wrote', -, visitedAt⟩ := write_at state.visited node.gridPosition true _ seen
      refine ⟨⟨state.queue.enqueue node, visited, dist⟩, ?_, ?_⟩
      · simp [rootDist, distValue, wrote, wrote']
      · rw [BreadthFirst.discover, if_pos label]
        refine ⟨by simp [Queue.enqueue, tracks.queue], ?_, shaped _ _ tracks.shape, ?_, ?_⟩
        · intro other member
          rcases List.mem_append.mp member with waiting | last
          · exact tracks.nodes other waiting
          · obtain rfl := List.mem_singleton.mp last
            exact ⟨found, onMap⟩
        · intro place placeOn
          rw [visitedAt]
          by_cases same : place = node.gridPosition
          · simp [same]
          · simp [same, tracks.visited place placeOn]
        · intro place placeOn
          rw [distAt]
          by_cases same : place = node.gridPosition
          · simp [same, distValue]
          · simp [same, tracks.dist place placeOn]

theorem scan_tracks (mapGraph : MapGraph graph) (rootNode : GKGridGraphNode) (near : Nat)
    (nexts : List GridPosition)
    (state : SearchState) (search : BreadthFirst.Search GridPosition)
    (tracks : Tracks graph state search) (rootOn : OnMap rootNode.gridPosition)
    (root : search.label rootNode.gridPosition = some near) (onMap : ∀ next ∈ nexts, OnMap next) :
    ∃ state', nexts.foldlM (visitNeighbour graph rootNode) state = .ok state' ∧
      Tracks graph state' (BreadthFirst.scan near nexts search) := by
  induction nexts generalizing state search with
  | nil => exact ⟨state, rfl, tracks⟩
  | cons next rest ih =>
      obtain ⟨middle, ran, tracks'⟩ := visit_neighbour_tracks mapGraph rootNode near state search
        next tracks rootOn root (onMap next List.mem_cons_self)
      have root' := BreadthFirst.discover_keeps near search next rootNode.gridPosition near root
      obtain ⟨state', ran', final⟩ := ih middle _ tracks' root'
        fun other member => onMap other (List.mem_cons_of_mem next member)
      exact ⟨state', by simp [List.foldlM_cons, ran, ran'], final⟩

/-- The places of the map. -/
def mapPlaces : Finset GridPosition :=
  (Finset.range MAX_ROWS ×ˢ Finset.range MAX_COLUMNS).image fun place => ⟨place.2, place.1⟩

theorem map_places_mem (place : GridPosition) (onMap : OnMap place) : place ∈ mapPlaces := by
  obtain ⟨rowLow, rowHigh, columnLow, columnHigh⟩ := onMap
  refine Finset.mem_image.mpr ⟨(place.row.toNat, place.column.toNat), ?_, ?_⟩
  · simp only [Finset.mem_product, Finset.mem_range]
    omega
  · simp only [GridPosition.ext_iff]
    omega

theorem map_places_card : mapPlaces.card ≤ MAX_ROWS * MAX_COLUMNS :=
  le_trans Finset.card_image_le (by simp)

theorem links_of_node (node : GKGridGraphNode)
    (found : graph.nodeAt? node.gridPosition = some node) :
    linksOf graph node.gridPosition = node.connectedNodes := by
  rw [linksOf, found]

theorem search_returns (mapGraph : MapGraph graph) (source : GridPosition) (limit : Nat)
    (state : SearchState) (search : BreadthFirst.Search GridPosition)
    (tracks : Tracks graph state search)
    (layered : BreadthFirst.Layered (linksOf graph) source search)
    (enough : BreadthFirst.budget mapPlaces search < limit) :
    ∃ dist label, Trophy.search graph limit state = .ok dist ∧
      DistanceTable graph source dist label := by
  induction limit generalizing state search with
  | zero => exact absurd enough (Nat.not_lt_zero _)
  | succ limit ih =>
      obtain ⟨queue, visited, dist⟩ := state
      obtain ⟨array⟩ := queue
      cases array with
      | nil =>
          have exhausted : search.queue = [] := tracks.queue
          exact ⟨dist, search.label, rfl, tracks.shape, tracks.dist,
            BreadthFirst.exhausted_distance (linksOf graph) source search layered exhausted⟩
      | cons rootNode rest =>
          obtain ⟨found, rootOn⟩ := tracks.nodes rootNode List.mem_cons_self
          obtain ⟨waiting, label⟩ := search
          obtain rfl : waiting = rootNode.gridPosition :: rest.map (·.gridPosition) := tracks.queue
          obtain ⟨near, root⟩ := layered.queued rootNode.gridPosition List.mem_cons_self
          have links := links_of_node rootNode found
          have onMap : ∀ next ∈ rootNode.connectedNodes, OnMap next :=
            mapGraph.closed rootNode (List.mem_of_find?_eq_some found)
          -- The head leaves both queues before its neighbours are scanned.
          have dequeued : Tracks graph ⟨⟨rest⟩, visited, dist⟩
              ⟨rest.map (·.gridPosition), label⟩ :=
            ⟨rfl, fun node member => tracks.nodes node (List.mem_cons_of_mem rootNode member),
              tracks.shape, tracks.visited, tracks.dist⟩
          obtain ⟨state', ran, tracks'⟩ := scan_tracks mapGraph rootNode near
            rootNode.connectedNodes _ _ dequeued rootOn root onMap
          have layered' := BreadthFirst.scan_layered (linksOf graph) source rootNode.gridPosition
            (rest.map (·.gridPosition)) near label layered root
          have less := BreadthFirst.scan_budget mapPlaces rootNode.gridPosition
            (rest.map (·.gridPosition)) near label rootNode.connectedNodes
            fun next member => map_places_mem next (onMap next member)
          rw [links] at layered'
          obtain ⟨final, labels, found', spec⟩ := ih state' _ tracks' layered' (by omega)
          refine ⟨final, labels, ?_, spec⟩
          simp only [Trophy.search, Queue.dequeue, ran, run_ok, found']

/-- The table of `distances` holds the least numbers of connections, and -1
    where no path leads. -/
theorem distances_return (mapGraph : MapGraph graph) (source : GridPosition)
    (onMap : OnMap source) :
    ∃ dist label, distances (source.row * MAX_COLUMNS + source.column) graph = .ok dist ∧
      DistanceTable graph source dist label := by
  obtain ⟨srcNode, indexed, found, rfl⟩ := node_on_map graph mapGraph source onMap
  obtain ⟨visited, wrote, -, visitedAt⟩ := write_at _ srcNode.gridPosition true false
    (tabulated_at false srcNode.gridPosition onMap)
  obtain ⟨dist, wrote', shaped, distAt⟩ := write_at _ srcNode.gridPosition (0 : Int) (-1)
    (tabulated_at (-1) srcNode.gridPosition onMap)
  have tracks : Tracks graph ⟨Queue.enqueue ⟨[]⟩ srcNode, visited, dist⟩
      (BreadthFirst.initial srcNode.gridPosition) := by
    refine ⟨rfl, ?_, shaped _ _ (Grid.tabulate_shape _ _ _), ?_, ?_⟩
    · intro node member
      obtain rfl := List.mem_singleton.mp member
      exact ⟨found, onMap⟩
    · intro place placeOn
      rw [visitedAt, tabulated_at false place placeOn]
      by_cases same : place = srcNode.gridPosition <;> simp [BreadthFirst.initial, same]
    · intro place placeOn
      rw [distAt, tabulated_at (-1) place placeOn]
      by_cases same : place = srcNode.gridPosition <;>
        simp [BreadthFirst.initial, same, distValue]
  -- One scan for every place of the map is enough to exhaust the queue.
  have enough : BreadthFirst.budget mapPlaces (BreadthFirst.initial srcNode.gridPosition) <
      searchBound := by
    have card := map_places_card
    have fewer := Finset.card_filter_le mapPlaces
      fun vertex => (BreadthFirst.initial srcNode.gridPosition).label vertex = none
    simp only [BreadthFirst.budget, searchBound, BreadthFirst.initial, List.length_singleton] at *
    omega
  obtain ⟨final, label, ran, spec⟩ := search_returns mapGraph srcNode.gridPosition searchBound _ _
    tracks (BreadthFirst.initial_layered (linksOf graph) srcNode.gridPosition) enough
  exact ⟨final, label, by simp only [distances, indexed, run_ok, wrote, wrote', ran], spec⟩

end Rounds

/-- Graphs with the same connections have the same distances, in whatever order
    their nodes list the connections. -/
theorem distances_same (graph graph' : GKGridGraph) (mapGraph : MapGraph graph)
    (mapGraph' : MapGraph graph')
    (same : ∀ place next, next ∈ linksOf graph place ↔ next ∈ linksOf graph' place)
    (source : GridPosition) (onMap : OnMap source) :
    distances (source.row * MAX_COLUMNS + source.column) graph =
      distances (source.row * MAX_COLUMNS + source.column) graph' := by
  obtain ⟨dist, label, ran, table⟩ := distances_return mapGraph source onMap
  obtain ⟨dist', label', ran', table'⟩ := distances_return mapGraph' source onMap
  -- Distances are unique, so the two tables have the same labels.
  have labels : ∀ place, label place = label' place := by
    intro place
    refine BreadthFirst.distance_unique _ source place _ _ (table.least place) ?_
    exact (BreadthFirst.is_distance_congr _ _ same source place _).mpr (table'.least place)
  have tables : dist = dist' := by
    rw [← Grid.tabulate_of_at dist MAX_ROWS MAX_COLUMNS table.shape
      (fun row column => distValue (label ⟨column, row⟩))]
    · apply Grid.tabulate_of_at dist' MAX_ROWS MAX_COLUMNS table'.shape
      intro row column within reach
      rw [labels]
      exact table'.cells ⟨column, row⟩ (by simp only [OnMap, Grid.Inside]; omega)
    · intro row column within reach
      exact table.cells ⟨column, row⟩ (by simp only [OnMap, Grid.Inside]; omega)
  rw [ran, ran', tables]

/-! ### Every graph over the map -/

theorem linked_iff (graph : GKGridGraph) (mapGraph : MapGraph graph)
    (source target : GridPosition) :
    graph.Linked source target ↔ target ∈ linksOf graph source := by
  constructor
  · rintro ⟨node, listed, rfl, wired⟩
    obtain ⟨index, bound, same⟩ := List.getElem_of_mem listed
    have columns : index % MAX_COLUMNS < MAX_COLUMNS := Nat.mod_lt index (by decide)
    have rows : index / MAX_COLUMNS < MAX_ROWS :=
      Nat.div_lt_of_lt_mul (by rw [Nat.mul_comm, ← mapGraph.size]; exact bound)
    obtain ⟨node', hit, found, position⟩ := node_at_index graph mapGraph _ _ rows columns
    have split : index / MAX_COLUMNS * MAX_COLUMNS + index % MAX_COLUMNS = index := by
      rw [Nat.mul_comm]
      exact Nat.div_add_mod index MAX_COLUMNS
    rw [split, List.getElem?_eq_getElem bound, same, Option.some.injEq] at hit
    subst hit
    rw [linksOf, position, found]
    exact wired
  · intro wired
    rw [linksOf] at wired
    cases found : graph.nodeAt? source with
    | none => simp [found] at wired
    | some node =>
        rw [found] at wired
        exact ⟨node, List.mem_of_find?_eq_some found, by simpa using List.find?_some found, wired⟩

/-- The least number of connections on a path, or -1 where there is no path. -/
structure ShortestEntry (graph : GKGridGraph) (source place : GridPosition) (cell : Int) :
    Prop where
  counted : ∀ count : Nat, cell = count ↔
    BreadthFirst.Steps graph.Linked source count place ∧
      ∀ fewer, BreadthFirst.Steps graph.Linked source fewer place → count ≤ fewer
  missing : cell = -1 ↔ ¬ Relation.ReflTransGen graph.Linked source place

theorem dist_value_shortest (graph : GKGridGraph) (source place : GridPosition)
    (label : Option Nat) (least : BreadthFirst.IsDistance graph.Linked source place label) :
    ShortestEntry graph source place (distValue label) where
  counted count := by
    rw [← BreadthFirst.distance_some_iff _ _ _ label least count]
    cases label <;> simp [distValue]
  missing := by
    rw [← BreadthFirst.distance_none_iff _ _ _ label least]
    cases label <;> simp [distValue]

/-- For every graph over the map and every source index the search returns a
    full table of the shortest distances. -/
theorem distances_shortest (graph : GKGridGraph) (mapGraph : MapGraph graph) (index : Nat)
    (listed : index < MAX_ROWS * MAX_COLUMNS) :
    ∃ dist, distances index graph = .ok dist ∧ dist.Shape MAX_ROWS MAX_COLUMNS ∧
      ∀ row column : Nat, row < MAX_ROWS → column < MAX_COLUMNS →
        ∃ cell, dist.at? row column = some cell ∧
          ShortestEntry graph ⟨(index % MAX_COLUMNS : Nat), (index / MAX_COLUMNS : Nat)⟩
            ⟨column, row⟩ cell := by
  have columns : index % MAX_COLUMNS < MAX_COLUMNS := Nat.mod_lt index (by decide)
  have rows : index / MAX_COLUMNS < MAX_ROWS :=
    Nat.div_lt_of_lt_mul (by rw [Nat.mul_comm]; exact listed)
  obtain ⟨dist, label, ran, table⟩ := distances_return mapGraph
    ⟨(index % MAX_COLUMNS : Nat), (index / MAX_COLUMNS : Nat)⟩
    ⟨Int.natCast_nonneg _, Int.ofNat_lt.mpr rows, Int.natCast_nonneg _, Int.ofNat_lt.mpr columns⟩
  refine ⟨dist, ?_, table.shape, fun row column within reach => ?_⟩
  · rw [← ran]
    congr 1
    have split := Nat.div_add_mod index MAX_COLUMNS
    dsimp only
    rw [← Int.natCast_mul, ← Int.natCast_add, Nat.mul_comm, split]
  · refine ⟨_, table.cells ⟨column, row⟩ (by simp only [OnMap, Grid.Inside]; omega), ?_⟩
    exact dist_value_shortest graph _ _ _ ((BreadthFirst.is_distance_congr _ _
      (linked_iff graph mapGraph) _ _ _).mpr (table.least _))

/-- The graph over the map with the given connections. -/
def graphOver (connections : GridPosition → List GridPosition) : GKGridGraph :=
  ⟨(Grid.tabulate MAX_ROWS MAX_COLUMNS fun row column =>
    (⟨⟨column, row⟩, connections ⟨column, row⟩⟩ : GKGridGraphNode)).flatten⟩

theorem graph_over_map (connections : GridPosition → List GridPosition)
    (closed : ∀ place, ∀ next ∈ connections place, OnMap next) :
    MapGraph (graphOver connections) where
  size := Grid.flatten_length _ _ _ (Grid.tabulate_shape _ _ _)
  placed row column within reach := by
    rw [graphOver, Grid.flatten_at _ _ _ (Grid.tabulate_shape _ _ _) row column reach,
      Grid.at_tabulate _ _ _ row column within reach, Option.map_some]
  closed node member next wired := by
    obtain ⟨row, column, hit⟩ := (Grid.mem_flatten_iff _ _).mp member
    have inside := Grid.inside_of_at _ _ _ (Grid.tabulate_shape _ _ _) _ _ _ hit
    obtain ⟨y, rfl⟩ := Int.eq_ofNat_of_zero_le inside.1
    obtain ⟨x, rfl⟩ := Int.eq_ofNat_of_zero_le inside.2.2.1
    rw [Grid.at_tabulate _ _ _ y x (Int.ofNat_lt.mp inside.2.1) (Int.ofNat_lt.mp inside.2.2.2),
      Option.some.injEq] at hit
    subst hit
    exact closed _ next wired

/-- Every node leads to the one below it and to itself, the last row to the first. -/
def columnRings : GKGridGraph :=
  graphOver fun place =>
    if 0 ≤ place.column ∧ place.column < MAX_COLUMNS then
      [⟨place.column, (place.row + 1) % MAX_ROWS⟩, ⟨place.column, place.row % MAX_ROWS⟩]
    else []

theorem column_rings_map : MapGraph columnRings := by
  apply graph_over_map
  intro place next listed
  split at listed
  · simp only [List.mem_cons, List.not_mem_nil, or_false] at listed
    rcases listed with rfl | rfl
    · simp only [OnMap, Grid.Inside, MAX_ROWS]
      omega
    · simp only [OnMap, Grid.Inside, MAX_ROWS]
      omega
  · simp at listed

theorem column_rings_shortest :
    ∃ dist, distances (100 : Nat) columnRings = .ok dist ∧ dist.Shape MAX_ROWS MAX_COLUMNS ∧
      ∀ row column : Nat, row < MAX_ROWS → column < MAX_COLUMNS →
        ∃ cell, dist.at? row column = some cell ∧
          ShortestEntry columnRings ⟨(100 % MAX_COLUMNS : Nat), (100 / MAX_COLUMNS : Nat)⟩
            ⟨column, row⟩ cell :=
  distances_shortest columnRings column_rings_map 100 (by decide)

end Trophy
end RelicRace
