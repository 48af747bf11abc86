import RelicRace.Game.Pursuit
import RelicRace.Trophy.FirstPlacement

/-!
When the AI reaches the trophy. From the moment it is sent off it is on a
timetable: one tile for each `TILE_TIME`, the tile it stands on included, along a
path as long as the distance that `distances` counts for the placement.
-/

namespace RelicRace
open Library Waypoints

/-! ### Shortest paths by their lengths -/

/-- A shortest path of nodes has one node more than the distance. -/
theorem find_path_length (finder : PathFinder) (graph : GKGridGraph)
    (source target : GridPosition) (count : Nat)
    (steps : BreadthFirst.Steps graph.Linked source count target)
    (least : ∀ fewer, BreadthFirst.Steps graph.Linked source fewer target → count ≤ fewer) :
    (finder.findPath graph source target).length = count + 1 := by
  obtain ⟨rest, chain, length, last⟩ :=
    BreadthFirst.chain_of_steps graph.Linked source count target steps
  obtain ⟨nodes, short⟩ := finder.shortest graph source target (source :: rest) ⟨rfl, last, chain⟩
  generalize finder.findPath graph source target = path at nodes short
  cases path with
  | nil => cases nodes.first
  | cons first others =>
      obtain rfl := Option.some.inj nodes.first
      have walked := BreadthFirst.steps_of_chain graph.Linked first others nodes.linked
      have ends := nodes.last
      rw [List.getLast?_eq_some_getLast (List.cons_ne_nil first others), Option.some.injEq] at ends
      have enough := least others.length (ends ▸ walked)
      simp only [List.length_cons] at short ⊢
      omega

/-- The entry of the distance table for a floor tile. -/
theorem distance_entry {data : Grid MazeTile} (laid : WellLaid MAX_COLUMNS MAX_ROWS data)
    (source target : GridPosition) (here : IsSpace data source) (there : IsSpace data target) :
    ∃ dist, ∃ count : Nat,
      Trophy.distances (source.row * MAX_COLUMNS + source.column) (Maze.graphOf data) = .ok dist ∧
      Trophy.readAt dist target = .ok (count : Int) ∧
      BreadthFirst.Steps (Maze.graphOf data).Linked source count target ∧
      ∀ fewer, BreadthFirst.Steps (Maze.graphOf data).Linked source fewer target →
        count ≤ fewer := by
  have mapGraph := Trophy.laid_map_graph laid
  obtain ⟨dist, label, ran, table⟩ :=
    Trophy.distances_return mapGraph source (floor_on_map laid source here)
  have least := (BreadthFirst.is_distance_congr _ _ (Trophy.linked_iff _ mapGraph) source target
    (label target)).mpr (table.least target)
  have walk : Relation.ReflTransGen (Maze.graphOf data).Linked source target :=
    Relation.ReflTransGen.mono (fun first second => (graph_linked laid first second).mpr) _ _
      (floor_connected laid source target here there)
  have cell := table.cells target (floor_on_map laid target there)
  cases found : label target with
  | none =>
      rw [found] at least
      exact absurd walk ((BreadthFirst.distance_none_iff _ _ _ _ least).mp rfl)
  | some count =>
      rw [found] at least cell
      obtain ⟨steps, fewest⟩ := (BreadthFirst.distance_some_iff _ _ _ _ least count).mp rfl
      refine ⟨dist, count, ran, ?_, steps, fewest⟩
      rw [Trophy.readAt, cell]
      rfl

/-! ### The timetable -/

section Arrival
variable {K : Type} [Field K] [LinearOrder K] {manager : TileManager} {data : Grid MazeTile}

/-- Some times, one after another. -/
def passes (data : Grid MazeTile) (times : List { time : K // 0 ≤ time }) :
    List (PursuitStep K data) := times.map .pass

variable [FloorRing K]

/-- Sent off to a tile, the AI needs `TILE_TIME` for each tile of the distance and once
    more; how the time passes does not matter. -/
def Pursuit.OnTimetable (blend : Blend K) (finder : PathFinder) (manager : TileManager)
    (frame : SceneFrame K) (difficulty : Difficulty) (data : Grid MazeTile) (tile : GridPosition)
    (sent : Pursuit K) : Prop :=
  ∃ dist, ∃ count : Nat,
    Trophy.distances (sent.ai.gridPos.row * MAX_COLUMNS + sent.ai.gridPos.column)
        manager.graph = .ok dist ∧
      Trophy.readAt dist tile = .ok (count : Int) ∧
      ∀ times : List { time : K // 0 ≤ time }, ∃ after : Pursuit K,
        (passes data times).foldlM
            (Pursuit.step blend finder manager frame difficulty) sent = .ok after ∧
        after.ai.waypoints.length =
          count + 1 - ⌊(times.map Subtype.val).sum / difficulty.tileTime⌋₊ ∧
        (after.ai.waypoints = [] ↔
          ((count + 1 : Nat) : K) * difficulty.tileTime ≤ (times.map Subtype.val).sum) ∧
        (after.ai.waypoints = [] → after.ai.position = frame.tilePosition tile)

/-- The times that pass lead the followed walker on. -/
theorem passes_follow (blend : Blend K) (finder : PathFinder) (manager : TileManager)
    (frame : SceneFrame K) (difficulty : Difficulty) (sent : Pursuit K)
    (walker : Walker (CGPoint K) K) (follows : sent.ai.Follows difficulty walker)
    (times : List { time : K // 0 ≤ time }) :
    ∃ after, (passes data times).foldlM
        (Pursuit.step blend finder manager frame difficulty) sent = .ok after ∧
      after.ai.Follows difficulty ((times.map Subtype.val).foldl
        (fun walker time => walker.advance difficulty.tileTime time) walker) := by
  induction times generalizing sent walker with
  | nil => exact ⟨sent, rfl, follows⟩
  | cons time rest ih =>
      obtain ⟨after, ran, follows'⟩ :=
        ih { sent with ai := sent.ai.advance blend difficulty time.1 } _
          (follows.advance blend time.1)
      exact ⟨after, by rw [passes, List.map_cons, List.foldlM_cons]; exact ran, follows'⟩

theorem sent_on_timetable [IsStrictOrderedRing K] (shows : manager.Shows data)
    (laid : WellLaid MAX_COLUMNS MAX_ROWS data) (blend : Blend K) (finder : PathFinder)
    (frame : SceneFrame K) (difficulty : Difficulty) {sent : Pursuit K} {tile : GridPosition}
    (way : sent.Sent finder frame data difficulty tile) :
    sent.OnTimetable blend finder manager frame difficulty data tile := by
  obtain ⟨walker, follows, course, fresh, ahead⟩ := way.course
  obtain ⟨dist, count, ran, cell, steps, least⟩ :=
    distance_entry laid sent.ai.gridPos tile way.here way.floor
  have positive : (0 : K) < difficulty.tileTime := difficulty_tile_time_pos difficulty
  have length : walker.waypoints.length = count + 1 := by
    rw [ahead, List.length_map, find_path_length finder _ _ _ count steps least]
  refine ⟨dist, count, by rw [shows.graph, ran], cell, fun times => ?_⟩
  have forward : ∀ time ∈ times.map Subtype.val, (0 : K) ≤ time := by
    simp only [List.mem_map]
    rintro _ ⟨time, -, rfl⟩
    exact time.2
  have started := List.sum_nonneg forward
  obtain ⟨after, passed, follows⟩ :=
    passes_follow blend finder manager frame difficulty sent walker follows times
  rw [advance_all positive walker fresh _ forward] at follows
  have course : (settle difficulty.tileTime walker.origin walker.waypoints
      (times.map Subtype.val).sum).OnCourse difficulty.tileTime (CorridorLeg frame data)
      (frame.tilePosition tile) := settle_on_course _ _ _ started course.legs course.heads
  refine ⟨after, passed, ?_, ?_, fun done => ?_⟩
  · rw [follows.waypoints, settle_waypoints positive _ _ _ started, List.length_drop, length]
  · rw [follows.waypoints, walk_over_iff positive _ _ _ started, length]
  · rw [follows.waypoints] at done
    have heads := course.heads
    rw [done, List.getLast?_singleton, Option.some.injEq] at heads
    rw [follows.position, Walker.position, done]
    exact heads

/-- In every generated maze the AI is on its timetable from the setup on, and again from
    every collection on, wherever the moves before have left it. -/
theorem ai_arrival [IsStrictOrderedRing K] (blend : Blend K) (finder : PathFinder)
    (frame : SceneFrame K) (difficulty : Difficulty) (extra : Nat) (draws : Nat → Nat) :
    ∃ maze manager,
      Maze.generate MAX_COLUMNS MAX_ROWS (Maze.roundBound MAX_COLUMNS MAX_ROWS + extra) draws =
        .ok maze ∧ TileManager.make maze.graph = .ok manager ∧
      ∀ first : { place : GridPosition // IsSpace maze.data place }, ∃ start,
        Pursuit.setup finder manager frame first.1 = .ok start ∧
        start.ai.gridPos = Maze.opponentSpawn ∧
        start.OnTimetable blend finder manager frame difficulty maze.data first.1 ∧
        ∀ (events : List (PursuitStep K maze.data))
          (tile : { place : GridPosition // IsSpace maze.data place }), ∃ pursuit sent,
          events.foldlM (Pursuit.step blend finder manager frame difficulty) start =
            .ok pursuit ∧
          pursuit.step blend finder manager frame difficulty (.collect tile) = .ok sent ∧
          sent.ai.gridPos = frame.indexFrom pursuit.ai.position ∧
          sent.OnTimetable blend finder manager frame difficulty maze.data tile.1 := by
  obtain ⟨maze, manager, generated, made, scanned, shows, -⟩ :=
    Maze.generate_with_tiles extra draws
  refine ⟨maze, manager, generated, made, fun first => ?_⟩
  obtain ⟨start, began, spawned, way⟩ :=
    setup_sent shows scanned finder frame difficulty first.2
  refine ⟨start, began, spawned,
    sent_on_timetable shows scanned.1 blend finder frame difficulty way, fun events tile => ?_⟩
  obtain ⟨pursuit, ran, track⟩ := run_on_track shows scanned.1 blend finder frame difficulty
    events first start way.on_track
  obtain ⟨walker, follows, course⟩ := track.course
  obtain ⟨sent, sends, place, way⟩ := respond_sent shows scanned.1 finder frame difficulty
    pursuit (on_course_in_corridor frame difficulty follows track.floor course) tile.2
  exact ⟨pursuit, sent, ran, sends, place,
    sent_on_timetable shows scanned.1 blend finder frame difficulty way⟩

end Arrival

theorem ai_unit_arrival : ∃ maze manager,
    Maze.generate MAX_COLUMNS MAX_ROWS (Maze.roundBound MAX_COLUMNS MAX_ROWS + 0) (fun _ => 0) =
      .ok maze ∧ TileManager.make maze.graph = .ok manager ∧
    ∀ first : { place : GridPosition // IsSpace maze.data place }, ∃ start : Pursuit ℚ,
      Pursuit.setup .choosing manager .unit first.1 = .ok start ∧
      start.OnTimetable (fun place _ => place) .choosing manager .unit .Easy maze.data
        first.1 := by
  obtain ⟨maze, manager, generated, made, timed⟩ :=
    ai_arrival (fun place _ => place) .choosing SceneFrame.unit .Easy 0 fun _ => 0
  refine ⟨maze, manager, generated, made, fun first => ?_⟩
  obtain ⟨start, began, -, timetable, -⟩ := timed first
  exact ⟨start, began, timetable⟩

end RelicRace
