import RelicRace.Game.AIScene
import RelicRace.Library.Waypoints
import RelicRace.Tiles.Corridors

/-!
The AI on its way to the trophy. `moveShortestPath` runs a sequence of one move for
every node that `findPath` returns, from the tile in `gridPos` on. `run` adds a
sequence to those that run already, so a collection stops the AI first: wherever it
is, its position is rounded to a tile and it is sent off again.
-/

namespace RelicRace
open Library Waypoints

/-! ### `GKGraph.findPath` -/

/-- The nodes from one node to another, both included, each connected to the next. -/
structure NodePath (graph : GKGridGraph) (source target : GridPosition)
    (path : List GridPosition) : Prop where
  first : path.head? = some source
  last : path.getLast? = some target
  linked : path.IsChain graph.Linked

/-- `findPath(from:to:)` of the system returns a shortest of these paths. -/
structure PathFinder where
  findPath : GKGridGraph → GridPosition → GridPosition → List GridPosition
  shortest : ∀ graph source target path, NodePath graph source target path →
    NodePath graph source target (findPath graph source target) ∧
      (findPath graph source target).length ≤ path.length

theorem shortest_node_path (graph : GKGridGraph) (source target : GridPosition)
    (reachable : ∃ path, NodePath graph source target path) :
    ∃ path, NodePath graph source target path ∧
      ∀ other, NodePath graph source target other → path.length ≤ other.length := by
  obtain ⟨path, nodes, least⟩ := WellFounded.has_min (measure List.length).wf
    {path | NodePath graph source target path} reachable
  exact ⟨path, nodes, fun other nodes' => not_lt.mp (least other nodes')⟩

open Classical in
/-- A finder that chooses one of the shortest paths. -/
noncomputable def PathFinder.choosing : PathFinder where
  findPath graph source target :=
    if reachable : ∃ path, NodePath graph source target path then
      (shortest_node_path graph source target reachable).choose
    else []
  shortest graph source target path nodes := by
    have reachable : ∃ path, NodePath graph source target path := ⟨path, nodes⟩
    rw [dif_pos reachable]
    obtain ⟨chosen, least⟩ := (shortest_node_path graph source target reachable).choose_spec
    exact ⟨chosen, least path nodes⟩

/-- The seconds the AI takes for a tile, as `viewDidLoad` sets `TILE_TIME`. -/
def Difficulty.tileTime {K : Type} [Field K] : Difficulty → K
  | .Easy => ((37 : Nat) : K) / ((100 : Nat) : K)
  | .Hard => ((27 : Nat) : K) / ((100 : Nat) : K)
  | .Impossible => ((19 : Nat) : K) / ((100 : Nat) : K)

/-- Each walker is a sequence of moves that runs on the sprite, the oldest first. -/
structure AI (K : Type) where
  position : CGPoint K
  gridPos : GridPosition
  actions : List (Walker (CGPoint K) K)

section Pursuit
variable {K : Type} [Field K] [LinearOrder K]

/-- Where a sprite goes that several sequences move at once is up to SpriteKit. -/
abbrev Blend (K : Type) := CGPoint K → List (Walker (CGPoint K) K) → CGPoint K

namespace AI

/-- `removeAllActions` leaves the sprite where it is. -/
def stop (ai : AI K) : AI K := { ai with actions := [] }

/-- `run` of a sequence of moves beside the ones that run. -/
def run (targets : List (CGPoint K)) (ai : AI K) : AI K :=
  { ai with actions := ai.actions ++ [⟨ai.position, targets, 0⟩] }

/-- Some time passes: a single sequence moves the sprite along its targets, and a
    finished one is taken off. -/
def advance (blend : Blend K) (difficulty : Difficulty) (time : K) (ai : AI K) : AI K :=
  let actions := ai.actions.map (Walker.advance difficulty.tileTime time)
  { ai with
    position := match actions with
      | [] => ai.position
      | [walker] => walker.position difficulty.tileTime CGPoint.toward
      | walkers => blend ai.position walkers
    actions := actions.filter fun walker => !walker.waypoints.isEmpty }

/-- The targets that are left. -/
def waypoints (ai : AI K) : List (CGPoint K) := ai.actions.flatMap Walker.waypoints

def shortestPath (finder : PathFinder) (manager : TileManager) (point : GridPosition)
    (ai : AI K) : Except Fault (List GridPosition) := do
  let tile1 ← manager.getTile ai.gridPos.row ai.gridPos.column
  let tile2 ← manager.getTile point.row point.column
  return finder.findPath manager.graph tile1.node.gridPosition tile2.node.gridPosition

def moveShortestPath (finder : PathFinder) (manager : TileManager) (frame : SceneFrame K)
    (point : GridPosition) (ai : AI K) : Except Fault (AI K) := do
  let path ← ai.shortestPath finder manager point
  let actions ← path.mapM fun index => do
    let tile ← manager.getTile index.row index.column
    return tile.position frame
  return ai.run actions

/-- `generateOpponent`: the AI stands on `tiles[1][Maze.MAX_COLUMNS-2]`. -/
def spawn (manager : TileManager) (frame : SceneFrame K) : Except Fault (AI K) := do
  let tile ← manager.getTile Maze.opponentSpawn.row Maze.opponentSpawn.column
  return ⟨tile.position frame, Maze.opponentSpawn, []⟩

end AI

/-- The AI and the position of the trophy it was sent to. -/
structure Pursuit (K : Type) where
  ai : AI K
  trophyPosition : CGPoint K

/-- Time passes, or one of the two sides collects and the trophy moves to a floor tile. -/
inductive PursuitStep (K : Type) [Zero K] [LE K] (data : Grid MazeTile) where
  | pass (time : { time : K // 0 ≤ time })
  | collect (tile : { place : GridPosition // IsSpace data place })

/-- The tile on which a collection puts the trophy. -/
def PursuitStep.tile? {data : Grid MazeTile} :
    PursuitStep K data → Option { place : GridPosition // IsSpace data place }
  | .pass _ => none
  | .collect tile => some tile

namespace Pursuit
variable [FloorRing K]

/-- `trophySystemSetup` after `characterInitialization`. -/
def setup (finder : PathFinder) (manager : TileManager) (frame : SceneFrame K)
    (tile : GridPosition) : Except Fault (Pursuit K) := do
  let ai ← AI.spawn manager frame
  let trophyPosition := frame.tilePosition tile
  let ai ← ai.moveShortestPath finder manager frame (frame.indexFrom trophyPosition)
  return ⟨ai, trophyPosition⟩

/-- What both trophy responses do with the trophy and the AI. -/
def respond (finder : PathFinder) (manager : TileManager) (frame : SceneFrame K)
    (tile : GridPosition) (pursuit : Pursuit K) : Except Fault (Pursuit K) := do
  let trophyPosition := frame.tilePosition tile
  let ai := pursuit.ai.stop
  let ai := { ai with gridPos := frame.indexFrom ai.position }
  let ai ← ai.moveShortestPath finder manager frame (frame.indexFrom trophyPosition)
  return ⟨ai, trophyPosition⟩

def step (blend : Blend K) (finder : PathFinder) (manager : TileManager) (frame : SceneFrame K)
    (difficulty : Difficulty) {data : Grid MazeTile} (pursuit : Pursuit K) :
    PursuitStep K data → Except Fault (Pursuit K)
  | .pass time => .ok { pursuit with ai := pursuit.ai.advance blend difficulty time.1 }
  | .collect tile => pursuit.respond finder manager frame tile.1

end Pursuit

/-! ### On course through the corridors -/

/-- A leg leads from a point of a corridor to the centre of its second tile. -/
def CorridorLeg (frame : SceneFrame K) (data : Grid MazeTile) (source target : CGPoint K) :
    Prop :=
  ∃ first second, Corridor data first second ∧
    OnSegment (frame.tilePosition first) (frame.tilePosition second) source ∧
    target = frame.tilePosition second

/-- The last waypoint of every sequence that runs is the trophy's tile; without a
    sequence the AI stands there. -/
def Pursuit.HeadsForTrophy (pursuit : Pursuit K) : Prop :=
  (∀ walker ∈ pursuit.ai.actions, walker.waypoints.getLast? = some pursuit.trophyPosition) ∧
    (pursuit.ai.actions = [] → pursuit.ai.position = pursuit.trophyPosition)

/-- The sprite is where one walker is, and nothing else runs on it. -/
structure AI.Follows (difficulty : Difficulty) (ai : AI K) (walker : Walker (CGPoint K) K) :
    Prop where
  position : ai.position = walker.position difficulty.tileTime CGPoint.toward
  actions : ai.actions = if walker.waypoints.isEmpty then [] else [walker]

/-- The invariant of a run in which the trophy is on the tile. -/
structure Pursuit.OnTrack (frame : SceneFrame K) (data : Grid MazeTile) (difficulty : Difficulty)
    (tile : GridPosition) (pursuit : Pursuit K) : Prop where
  floor : IsSpace data tile
  trophy : pursuit.trophyPosition = frame.tilePosition tile
  course : ∃ walker, pursuit.ai.Follows difficulty walker ∧
    walker.OnCourse difficulty.tileTime (CorridorLeg frame data) (frame.tilePosition tile)

/-- The AI that is sent off: the nodes of the path that `findPath` returns lie before it. -/
structure Pursuit.Sent (finder : PathFinder) (frame : SceneFrame K) (data : Grid MazeTile)
    (difficulty : Difficulty) (tile : GridPosition) (pursuit : Pursuit K) : Prop where
  here : IsSpace data pursuit.ai.gridPos
  floor : IsSpace data tile
  trophy : pursuit.trophyPosition = frame.tilePosition tile
  course : ∃ walker, pursuit.ai.Follows difficulty walker ∧
    walker.OnCourse difficulty.tileTime (CorridorLeg frame data) (frame.tilePosition tile) ∧
    walker.elapsed = 0 ∧ walker.waypoints =
      (finder.findPath (Maze.graphOf data) pursuit.ai.gridPos tile).map frame.tilePosition

theorem Pursuit.Sent.on_track {finder : PathFinder} {frame : SceneFrame K}
    {data : Grid MazeTile} {difficulty : Difficulty} {tile : GridPosition} {pursuit : Pursuit K}
    (sent : pursuit.Sent finder frame data difficulty tile) :
    pursuit.OnTrack frame data difficulty tile := by
  obtain ⟨walker, follows, course, -⟩ := sent.course
  exact ⟨sent.floor, sent.trophy, walker, follows, course⟩

/-- A followed walker stays followed while time passes. -/
theorem AI.Follows.advance {difficulty : Difficulty} {ai : AI K}
    {walker : Walker (CGPoint K) K} (follows : ai.Follows difficulty walker) (blend : Blend K)
    (time : K) :
    (ai.advance blend difficulty time).Follows difficulty
      (walker.advance difficulty.tileTime time) := by
  rcases walker with ⟨origin, waypoints, elapsed⟩
  obtain ⟨position, actions⟩ := follows
  cases waypoints with
  | nil =>
      have finished : ai.actions = [] := actions
      exact ⟨by simp only [AI.advance, finished]; exact position, by simp [AI.advance, finished,
        Walker.advance, settle]⟩
  | cons target rest =>
      have running : ai.actions = [⟨origin, target :: rest, elapsed⟩] := actions
      -- One sequence runs, and it is taken off when it has no target left.
      refine ⟨by simp only [AI.advance, running, List.map_cons, List.map_nil], ?_⟩
      simp only [AI.advance, running, List.map_cons, List.map_nil, List.filter_cons,
        List.filter_nil]
      cases ((⟨origin, target :: rest, elapsed⟩ : Walker (CGPoint K) K).advance
        difficulty.tileTime time).waypoints.isEmpty <;> rfl

omit [LinearOrder K] in
theorem AI.Follows.waypoints {difficulty : Difficulty} {ai : AI K}
    {walker : Walker (CGPoint K) K} (follows : ai.Follows difficulty walker) :
    ai.waypoints = walker.waypoints := by
  rw [AI.waypoints, follows.actions]
  cases empty : walker.waypoints with
  | nil => rfl
  | cons target rest => simp [empty]

omit [LinearOrder K] in
/-- A stopped AI follows the sequence that it is sent along. -/
theorem AI.run_follows (difficulty : Difficulty) (ai : AI K) (stopped : ai.actions = [])
    (targets : List (CGPoint K)) (some : targets ≠ []) :
    (ai.run targets).Follows difficulty ⟨ai.position, targets, 0⟩ := by
  cases targets with
  | nil => exact absurd rfl some
  | cons target rest =>
      refine ⟨?_, by simp [AI.run, stopped]⟩
      simp only [AI.run, Walker.position, zero_div, toward_start]

theorem graph_linked {data : Grid MazeTile} (laid : WellLaid MAX_COLUMNS MAX_ROWS data)
    (source target : GridPosition) :
    (Maze.graphOf data).Linked source target ↔ Joined data source target := by
  simp only [GKGridGraph.Linked, Maze.graphOf, List.mem_map, exists_exists_and_eq_and]
  constructor
  · rintro ⟨tile, listed, rfl, connected⟩
    rw [Joined, links, listed_tile data laid tile listed]
    exact connected
  · intro joined
    obtain ⟨⟨tile, hit, -⟩, -, -⟩ := (laid.joined source target).mp joined
    refine ⟨tile, (Grid.mem_flatten_iff data tile).mpr ⟨_, _, hit⟩, laid.placed source tile hit, ?_⟩
    rw [Joined, links, hit] at joined
    exact joined

/-- Between two floor tiles there is a path for `findPath` to return. -/
theorem find_path_returns {data : Grid MazeTile} (laid : WellLaid MAX_COLUMNS MAX_ROWS data)
    (finder : PathFinder) (source target : GridPosition) (here : IsSpace data source)
    (there : IsSpace data target) :
    NodePath (Maze.graphOf data) source target
      (finder.findPath (Maze.graphOf data) source target) := by
  obtain ⟨rest, chain, last⟩ := List.exists_isChain_cons_of_relationReflTransGen
    (floor_connected laid source target here there)
  have linked : (source :: rest).IsChain (Maze.graphOf data).Linked :=
    chain.imp fun first second => (graph_linked laid first second).mpr
  have path : NodePath (Maze.graphOf data) source target (source :: rest) :=
    ⟨rfl, by rw [List.getLast?_eq_some_getLast (List.cons_ne_nil source rest), last], linked⟩
  exact (finder.shortest _ source target _ path).1

theorem difficulty_tile_time_pos [IsStrictOrderedRing K] (difficulty : Difficulty) :
    (0 : K) < difficulty.tileTime := by
  cases difficulty <;> simp only [Difficulty.tileTime] <;> positivity

theorem on_course_heads {difficulty : Difficulty} {pursuit : Pursuit K}
    {walker : Walker (CGPoint K) K} {leg : CGPoint K → CGPoint K → Prop}
    (follows : pursuit.ai.Follows difficulty walker)
    (course : walker.OnCourse difficulty.tileTime leg pursuit.trophyPosition) :
    pursuit.HeadsForTrophy := by
  rcases walker with ⟨origin, waypoints, elapsed⟩
  have heads := course.heads
  rw [Pursuit.HeadsForTrophy, follows.actions, follows.position]
  cases waypoints with
  | nil => exact ⟨by simp, fun _ => Option.some.inj heads⟩
  | cons target rest => exact ⟨by simpa using heads, by simp⟩

section OnTrack
variable [IsStrictOrderedRing K] {manager : TileManager} {data : Grid MazeTile}

/-- Along a path of nodes the moves are legs through corridors. -/
theorem path_legs (laid : WellLaid MAX_COLUMNS MAX_ROWS data) (frame : SceneFrame K)
    (path : List GridPosition) (linked : path.IsChain (Maze.graphOf data).Linked) :
    (path.map frame.tilePosition).IsChain (CorridorLeg frame data) := by
  refine List.isChain_map_of_isChain frame.tilePosition ?_ linked
  intro first second edge
  have joined := (graph_linked laid first second).mp edge
  obtain ⟨here, there, -⟩ := (laid.joined first second).mp joined
  exact ⟨first, second, ⟨here, there, Or.inl joined⟩, on_segment_start _ _, rfl⟩

/-- Every node of a path that starts on the floor is floor. -/
theorem path_floor (laid : WellLaid MAX_COLUMNS MAX_ROWS data) {source target : GridPosition}
    (here : IsSpace data source) {path : List GridPosition}
    (nodes : NodePath (Maze.graphOf data) source target path) :
    ∀ place ∈ path, IsSpace data place := by
  refine List.IsChain.induction (IsSpace data) path nodes.linked ?_ ?_
  · intro first second edge _
    exact ((laid.joined first second).mp ((graph_linked laid first second).mp edge)).2.1
  · intro some
    have head := nodes.first
    rw [List.head?_eq_some_head some] at head
    rw [Option.some.inj head]
    exact here

omit [Field K] [LinearOrder K] [IsStrictOrderedRing K] in
theorem shortest_path_eq (shows : manager.Shows data) (laid : WellLaid MAX_COLUMNS MAX_ROWS data)
    (finder : PathFinder) (ai : AI K) {goal : GridPosition} (here : IsSpace data ai.gridPos)
    (floor : IsSpace data goal) : ai.shortestPath finder manager goal =
      .ok (finder.findPath (Maze.graphOf data) ai.gridPos goal) := by
  obtain ⟨tile1, found1, -, -, node1, -⟩ :=
    TileManager.shown_tile shows laid ai.gridPos (floor_on_map laid _ here)
  obtain ⟨tile2, found2, -, -, node2, -⟩ :=
    TileManager.shown_tile shows laid goal (floor_on_map laid _ floor)
  simp only [AI.shortestPath, found1, found2, run_ok, run_pure, node1, node2, shows.graph]

omit [IsStrictOrderedRing K] in
/-- The targets of a path over the floor are the centres of its tiles. -/
theorem path_targets (shows : manager.Shows data) (laid : WellLaid MAX_COLUMNS MAX_ROWS data)
    (frame : SceneFrame K) (path : List GridPosition) (floor : ∀ place ∈ path, IsSpace data place) :
    (path.mapM fun index => do
      let tile ← manager.getTile index.row index.column
      return tile.position frame) = .ok (path.map frame.tilePosition) := by
  refine map_all_ok _ frame.tilePosition path fun index member => ?_
  obtain ⟨tile, found, row, column, -⟩ :=
    TileManager.shown_tile shows laid index (floor_on_map laid _ (floor index member))
  simp only [found, run_ok, run_pure, TileNode.position, row, column]

/-- From a point of a corridor to the path's first tile is a leg as well. -/
theorem path_on_course (laid : WellLaid MAX_COLUMNS MAX_ROWS data) (frame : SceneFrame K)
    (difficulty : Difficulty) {origin : CGPoint K} {other source goal : GridPosition}
    (corridor : Corridor data other source)
    (on : OnSegment (frame.tilePosition other) (frame.tilePosition source) origin)
    {path : List GridPosition} (nodes : NodePath (Maze.graphOf data) source goal path) :
    (⟨origin, path.map frame.tilePosition, 0⟩ : Walker (CGPoint K) K).OnCourse
      difficulty.tileTime (CorridorLeg frame data) (frame.tilePosition goal) := by
  refine ⟨le_rfl, fun _ => difficulty_tile_time_pos difficulty, ?_, ?_⟩
  · have legs := path_legs laid frame path nodes.linked
    cases path with
    | nil => exact List.isChain_singleton _
    | cons first rest =>
        obtain rfl := Option.some.inj nodes.first
        exact List.isChain_cons_cons.mpr ⟨⟨other, first, corridor, on, rfl⟩, legs⟩
  · simp only [List.getLast?_cons, List.getLast?_map, nodes.last, Option.map_some,
      Option.getD_some]

/-- From a corridor the stopped AI is sent on course. -/
theorem move_shortest_path_sent (shows : manager.Shows data)
    (laid : WellLaid MAX_COLUMNS MAX_ROWS data) (finder : PathFinder) (frame : SceneFrame K)
    (difficulty : Difficulty) (ai : AI K) (stopped : ai.actions = []) {other goal : GridPosition}
    (corridor : Corridor data other ai.gridPos)
    (on : OnSegment (frame.tilePosition other) (frame.tilePosition ai.gridPos) ai.position)
    (floor : IsSpace data goal) :
    ∃ sent, ai.moveShortestPath finder manager frame goal = .ok sent ∧
      sent.gridPos = ai.gridPos ∧
      (⟨sent, frame.tilePosition goal⟩ : Pursuit K).Sent finder frame data difficulty goal := by
  have here : IsSpace data ai.gridPos := corridor.2.1
  have nodes := find_path_returns laid finder ai.gridPos goal here floor
  have targets := path_targets shows laid frame _ (path_floor laid here nodes)
  -- A path has its first node at least, so there is a move to run.
  have filled : (finder.findPath (Maze.graphOf data) ai.gridPos goal).map frame.tilePosition ≠
      [] := by
    intro none
    have first := nodes.first
    rw [List.map_eq_nil_iff.mp none] at first
    cases first
  refine ⟨ai.run ((finder.findPath (Maze.graphOf data) ai.gridPos goal).map frame.tilePosition),
    ?_, rfl, here, floor, rfl, _, ai.run_follows difficulty stopped _ filled,
    path_on_course laid frame difficulty corridor on nodes, rfl, rfl⟩
  rw [AI.moveShortestPath, shortest_path_eq shows laid finder ai here floor, run_ok, targets,
    run_ok, run_pure]

theorem on_course_in_corridor (frame : SceneFrame K) (difficulty : Difficulty) {ai : AI K}
    {walker : Walker (CGPoint K) K} (follows : ai.Follows difficulty walker) {goal : GridPosition}
    (floor : IsSpace data goal)
    (course : walker.OnCourse difficulty.tileTime (CorridorLeg frame data)
      (frame.tilePosition goal)) : InCorridor frame data ai.position := by
  rw [follows.position]
  rcases on_course_position walker course CGPoint.toward with ⟨-, arrived⟩ |
      ⟨target, share, ⟨first, second, corridor, on, rfl⟩, low, high, position⟩
  · exact ⟨goal, goal, ⟨floor, floor, Or.inr rfl⟩, arrived ▸ on_segment_start _ _⟩
  · refine ⟨first, second, corridor, ?_⟩
    rw [position]
    exact toward_end_on_segment on share low high

/-- In a corridor the AI is stopped and sent on from one of the corridor's two tiles. -/
theorem respond_sent [FloorRing K] (shows : manager.Shows data)
    (laid : WellLaid MAX_COLUMNS MAX_ROWS data) (finder : PathFinder) (frame : SceneFrame K)
    (difficulty : Difficulty) (pursuit : Pursuit K)
    (inside : InCorridor frame data pursuit.ai.position) {tile : GridPosition}
    (floor : IsSpace data tile) :
    ∃ after, pursuit.respond finder manager frame tile = .ok after ∧
      after.ai.gridPos = frame.indexFrom pursuit.ai.position ∧
      after.Sent finder frame data difficulty tile := by
  obtain ⟨first, second, corridor, on⟩ := inside
  have found := index_in_corridor laid frame corridor on
  -- Whichever of the two is found, the corridor leads from the other one to it.
  have rounded : ∃ other, Corridor data other (frame.indexFrom pursuit.ai.position) ∧
      OnSegment (frame.tilePosition other)
        (frame.tilePosition (frame.indexFrom pursuit.ai.position)) pursuit.ai.position := by
    rcases found with found | found
    · rw [found]
      exact ⟨second, corridor_swap laid corridor, on_segment_swap on⟩
    · rw [found]
      exact ⟨first, corridor, on⟩
  obtain ⟨other, corridor, on⟩ := rounded
  obtain ⟨sent, ran, place, way⟩ := move_shortest_path_sent shows laid finder frame
    difficulty ⟨pursuit.ai.position, frame.indexFrom pursuit.ai.position, []⟩ rfl corridor on floor
  have goal : frame.indexFrom (frame.tilePosition tile) = tile :=
    index_from_tile frame tile (floor_on_map laid tile floor)
  refine ⟨⟨sent, frame.tilePosition tile⟩, ?_, place, way⟩
  simp only [Pursuit.respond, AI.stop, goal, ran, run_ok, run_pure]

theorem setup_sent [FloorRing K] (shows : manager.Shows data)
    (scanned : Maze.Scanned data) (finder : PathFinder) (frame : SceneFrame K)
    (difficulty : Difficulty) {tile : GridPosition} (floor : IsSpace data tile) :
    ∃ start, Pursuit.setup finder manager frame tile = .ok start ∧
      start.ai.gridPos = Maze.opponentSpawn ∧
      start.Sent finder frame data difficulty tile := by
  have spawned : IsSpace data Maze.opponentSpawn := scanned.2 _ Maze.opponent_spawn_room
  obtain ⟨corner, found, row, column, -⟩ := TileManager.shown_tile shows scanned.1
    Maze.opponentSpawn (floor_on_map scanned.1 _ spawned)
  obtain ⟨sent, ran, place, way⟩ := move_shortest_path_sent shows scanned.1 finder
    frame difficulty ⟨frame.tilePosition Maze.opponentSpawn, Maze.opponentSpawn, []⟩ rfl
    ⟨spawned, spawned, Or.inr rfl⟩ (on_segment_start _ _) floor
  have goal : frame.indexFrom (frame.tilePosition tile) = tile :=
    index_from_tile frame tile (floor_on_map scanned.1 tile floor)
  refine ⟨⟨sent, frame.tilePosition tile⟩, ?_, place, way⟩
  simp only [Pursuit.setup, AI.spawn, found, TileNode.position, row, column, goal, ran, run_ok,
    run_pure]

theorem step_on_track [FloorRing K] (shows : manager.Shows data)
    (laid : WellLaid MAX_COLUMNS MAX_ROWS data) (blend : Blend K) (finder : PathFinder)
    (frame : SceneFrame K) (difficulty : Difficulty) (pursuit : Pursuit K) {tile : GridPosition}
    (track : pursuit.OnTrack frame data difficulty tile) (event : PursuitStep K data) :
    ∃ after, pursuit.step blend finder manager frame difficulty event = .ok after ∧
      after.OnTrack frame data difficulty ((event.tile?.map Subtype.val).getD tile) := by
  obtain ⟨walker, follows, course⟩ := track.course
  cases event with
  | pass time =>
      exact ⟨_, rfl, track.floor, track.trophy, _, follows.advance blend time.1,
        advance_on_course walker course time.1 time.2⟩
  | collect tile' =>
      obtain ⟨after, ran, -, sent⟩ := respond_sent shows laid finder frame difficulty pursuit
        (on_course_in_corridor frame difficulty follows track.floor course) tile'.2
      exact ⟨after, ran, sent.on_track⟩

/-- However time and collections alternate, the AI is on track to the tile of the
    last collection. -/
theorem run_on_track [FloorRing K] (shows : manager.Shows data)
    (laid : WellLaid MAX_COLUMNS MAX_ROWS data) (blend : Blend K) (finder : PathFinder)
    (frame : SceneFrame K) (difficulty : Difficulty) (events : List (PursuitStep K data))
    (tile : { place : GridPosition // IsSpace data place }) (start : Pursuit K)
    (track : start.OnTrack frame data difficulty tile.1) :
    ∃ pursuit, events.foldlM (Pursuit.step blend finder manager frame difficulty) start =
        .ok pursuit ∧
      pursuit.OnTrack frame data difficulty
        ((events.filterMap PursuitStep.tile?).getLastD tile).1 := by
  -- The tile changes with every collection on the way.
  induction events generalizing start tile with
  | nil => exact ⟨start, rfl, track⟩
  | cons event rest ih =>
      obtain ⟨middle, went, track⟩ :=
        step_on_track shows laid blend finder frame difficulty start track event
      cases collected : event.tile? with
      | none =>
          rw [collected] at track
          obtain ⟨pursuit, ran, track⟩ := ih tile middle track
          rw [List.filterMap_cons_none collected]
          exact ⟨pursuit, by rw [List.foldlM_cons, went, run_ok, ran], track⟩
      | some tile' =>
          rw [collected] at track
          obtain ⟨pursuit, ran, track⟩ := ih tile' middle track
          rw [List.filterMap_cons_some collected, List.getLastD_cons]
          exact ⟨pursuit, by rw [List.foldlM_cons, went, run_ok, ran], track⟩

/-- In every generated maze, wherever the trophy is first and however time and
    collections alternate, the AI is in a corridor and heads for the trophy, which
    is on the tile of the last collection. -/
theorem ai_stays_in_corridors [FloorRing K] (blend : Blend K) (finder : PathFinder)
    (frame : SceneFrame K) (difficulty : Difficulty) (extra : Nat) (draws : Nat → Nat) :
    ∃ maze manager,
      Maze.generate MAX_COLUMNS MAX_ROWS (Maze.roundBound MAX_COLUMNS MAX_ROWS + extra) draws =
        .ok maze ∧ TileManager.make maze.graph = .ok manager ∧
      ∀ (tile : { place : GridPosition // IsSpace maze.data place })
        (events : List (PursuitStep K maze.data)), ∃ start pursuit,
        Pursuit.setup finder manager frame tile.1 = .ok start ∧
        events.foldlM (Pursuit.step blend finder manager frame difficulty) start = .ok pursuit ∧
        InCorridor frame maze.data pursuit.ai.position ∧ pursuit.HeadsForTrophy ∧
        pursuit.trophyPosition =
          frame.tilePosition ((events.filterMap PursuitStep.tile?).getLastD tile).1 := by
  obtain ⟨maze, manager, generated, made, scanned, shows, -⟩ :=
    Maze.generate_with_tiles extra draws
  refine ⟨maze, manager, generated, made, fun tile events => ?_⟩
  obtain ⟨start, began, -, sent⟩ := setup_sent shows scanned finder frame difficulty tile.2
  obtain ⟨pursuit, ran, track⟩ :=
    run_on_track shows scanned.1 blend finder frame difficulty events tile start sent.on_track
  obtain ⟨walker, follows, course⟩ := track.course
  exact ⟨start, pursuit, began, ran,
    on_course_in_corridor frame difficulty follows track.floor course,
    on_course_heads follows (track.trophy ▸ course), track.trophy⟩

end OnTrack
end Pursuit

theorem ai_stays_in_unit_corridors : ∃ maze manager,
    Maze.generate MAX_COLUMNS MAX_ROWS (Maze.roundBound MAX_COLUMNS MAX_ROWS + 0) (fun _ => 0) =
      .ok maze ∧ TileManager.make maze.graph = .ok manager ∧
    ∀ (tile : { place : GridPosition // IsSpace maze.data place })
      (events : List (PursuitStep ℚ maze.data)), ∃ start pursuit,
      Pursuit.setup .choosing manager .unit tile.1 = .ok start ∧
      events.foldlM (Pursuit.step (fun place _ => place) .choosing manager .unit .Hard) start =
        .ok pursuit ∧
      InCorridor .unit maze.data pursuit.ai.position ∧ pursuit.HeadsForTrophy ∧
      pursuit.trophyPosition = SceneFrame.unit.tilePosition
        ((events.filterMap PursuitStep.tile?).getLastD tile).1 :=
  ai_stays_in_corridors (fun place _ => place) .choosing .unit .Hard 0 fun _ => 0

end RelicRace
