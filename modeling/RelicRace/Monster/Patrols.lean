import RelicRace.Library.BreadthFirst
import RelicRace.Library.Waypoints
import RelicRace.Monster.ClosedWalks
import RelicRace.Monster.Starts

/-!
Where a monster is while it repeats its route. Each move of the action takes the same
time; the arms of the route are five steps long at most, so a monster stays near the
tile it has started on and comes back to it.
-/

namespace RelicRace
open Library Patrol Waypoints

/-! ### The length of the arms -/

section Lengths
variable (connected : GridPosition → List GridPosition)

theorem first_path_length (counters : List Nat) (path1 : List GridPosition)
    (firstDirection : Option GridPosition) (draws : Draws) (path : List GridPosition)
    (direction : Option GridPosition) (draws' : Draws)
    (ran : firstPath connected counters path1 firstDirection draws =
      .ok (path, direction, draws')) : path.length ≤ path1.length + counters.length := by
  induction counters generalizing path1 firstDirection draws with
  | nil =>
      obtain ⟨rfl, -⟩ := Prod.mk.inj (Except.ok.inj ran)
      exact Nat.le_refl _
  | cons counter rest ih =>
      rw [firstPath, run_bind_iff] at ran
      obtain ⟨node, -, ran⟩ := ran
      simp only at ran
      split at ran
      · obtain ⟨rfl, -⟩ := Prod.mk.inj (Except.ok.inj ran)
        exact Nat.le_add_right _ _
      · have later := ih _ _ _ ran
        simp only [List.length_append, List.length_cons, List.length_nil] at later ⊢
        omega

theorem second_path_length (firstDirection : GridPosition) (counters : List Nat)
    (path2 : List GridPosition) (draws : Draws) (path : List GridPosition) (draws' : Draws)
    (ran : secondPath connected firstDirection counters path2 draws = .ok (path, draws')) :
    path.length ≤ path2.length + counters.length := by
  induction counters generalizing path2 draws with
  | nil =>
      obtain ⟨rfl, -⟩ := Prod.mk.inj (Except.ok.inj ran)
      exact Nat.le_refl _
  | cons counter rest ih =>
      rw [secondPath, run_bind_iff] at ran
      obtain ⟨node, -, ran⟩ := ran
      simp only at ran
      split at ran
      · obtain ⟨rfl, -⟩ := Prod.mk.inj (Except.ok.inj ran)
        exact Nat.le_add_right _ _
      · have later := ih _ _ ran
        simp only [List.length_append, List.length_cons, List.length_nil] at later ⊢
        omega

end Lengths

/-! ### A patrol around its start -/

/-- Floor at five connections from the start at most. -/
def Nearby (data : Grid MazeTile) (start place : GridPosition) : Prop :=
  IsSpace data place ∧ ∃ count, count ≤ 5 ∧ BreadthFirst.Steps (Joined data) start count place

section Arms
variable {data : Grid MazeTile} {start : GridPosition} {path : List GridPosition}

theorem arm_nearby (laid : WellLaid MAX_COLUMNS MAX_ROWS data) (arm : Arm (links data) start path)
    (short : path.length ≤ 6) (floor : IsSpace data start) :
    ∀ place ∈ path, Nearby data start place := by
  intro place member
  have spaces := arm_members (IsSpace data)
    (fun here _ next edge => ((laid.joined here next).mp edge).2.1) arm floor place member
  refine ⟨spaces, ?_⟩
  obtain ⟨before, after, rfl⟩ := List.append_of_mem member
  have linked : (before ++ ([place] ++ after)).IsChain (Joined data) := arm.linked
  rw [← List.append_assoc] at linked
  replace linked := linked.left_of_append
  cases before with
  | nil =>
      have head := arm.head
      rw [List.nil_append, List.head?_cons, Option.some.injEq] at head
      exact ⟨0, Nat.zero_le 5, head⟩
  | cons first rest =>
      have head := arm.head
      rw [List.cons_append, List.head?_cons, Option.some.injEq] at head
      subst head
      have steps := BreadthFirst.steps_of_chain (Joined data) first (rest ++ [place]) linked
      refine ⟨(rest ++ [place]).length, ?_, by simpa using steps⟩
      simp only [List.length_append, List.length_cons, List.length_nil] at short ⊢
      omega

end Arms

section Patrols
variable {K : Type} [Field K] [LinearOrder K]
variable (frame : SceneFrame K) {data : Grid MazeTile} {manager : TileManager}

namespace Monster

/-- `TILE_TRAVEL_TIME`. -/
def tileTravelTime : K := ((6 : Nat) : K) / ((10 : Nat) : K)

/-- The monster stands on its start tile and repeats one route over two short arms. -/
def Patrols (data : Grid MazeTile) (monster : Monster K) : Prop :=
  IsSpace data monster.gridPos ∧ monster.position = frame.tilePosition monster.gridPos ∧
    ∃ path1 path2, Arm (links data) monster.gridPos path1 ∧
      Arm (links data) monster.gridPos path2 ∧ path1.length ≤ 6 ∧ path2.length ≤ 6 ∧
      monster.actions = [(roundTrip path1 path2).map frame.tilePosition]

theorem random_tile_placed (shows : manager.Shows data)
    (laid : WellLaid MAX_COLUMNS MAX_ROWS data) (condition : TileNode → Bool) (draw : Nat)
    (tile : TileNode) (drawn : manager.getRandomTile condition draw = .ok tile) :
    tile.position frame = frame.tilePosition tile.node.gridPosition := by
  simp only [TileManager.getRandomTile] at drawn
  split at drawn
  · rename_i found listed
    obtain rfl := Except.ok.inj drawn
    obtain ⟨inside, -⟩ := List.mem_filter.mp (List.mem_of_getElem? listed)
    obtain ⟨row, column, hit⟩ := (Grid.mem_flatten_iff manager.tiles _).mp inside
    rw [shows.tiles] at hit
    obtain ⟨mazeTile, -, rfl⟩ := Option.map_eq_some_iff.mp hit
    rfl
  · obtain ⟨corner, found, rows, columns, placed, -⟩ :=
      TileManager.shown_tile shows laid ⟨1, 1⟩ (by decide)
    obtain rfl := Except.ok.inj (found.symm.trans drawn)
    rw [TileNode.position, rows, columns, placed]

/-- `generatePath` puts the monster on a floor tile and returns a route over arms of
    five steps at most. -/
theorem generate_path_patrols (shows : manager.Shows data) (scanned : Maze.Scanned data)
    (monster : Monster K) (draws : Draws) (idle : monster.actions = []) :
    ∃ monster' action draws', monster.generatePath manager frame draws =
      .ok (monster', action, draws') ∧ (monster'.run action).Patrols frame data := by
  obtain ⟨placed, start, rest, path1, path2, monster', places, draws', chosen, arms, ran, listed,
    standing, -, actions⟩ := generate_path_arms shows scanned.1 frame monster draws
  refine ⟨monster', _, draws', ran, ?_⟩
  obtain ⟨tile, drawn, same⟩ := (run_bind_iff _ _ _).mp chosen
  simp only [run_pure, Except.ok.injEq, Prod.mk.injEq] at same
  obtain ⟨rfl, rfl, -⟩ := same
  have position : monster'.position = tile.position frame := by
    rw [generatePath, chosen, run_ok, run_bind_iff] at ran
    obtain ⟨⟨path, left⟩, -, ran⟩ := ran
    obtain ⟨⟨stored, moves⟩, -, ran⟩ := (run_bind_iff _ _ _).mp ran
    obtain rfl := (Prod.mk.inj (Except.ok.inj ran)).1
    rfl
  obtain ⟨direction, middle, first, second⟩ := arms.ran
  have short1 := first_path_length _ _ _ _ _ _ _ _ first
  have short2 := second_path_length _ _ _ _ _ _ _ second
  refine ⟨?_, ?_, path1, path2, ?_, ?_, short1, short2, ?_⟩
  · rw [run, standing]
    exact random_tile_floor shows scanned _ _ tile drawn
  · rw [run, standing, position]
    exact random_tile_placed frame shows scanned.1 _ _ tile drawn
  · rw [run, standing]
    exact arms.one
  · rw [run, standing]
    exact arms.two
  · rw [run, actions, idle, List.nil_append, route_of_places, listed]

/-! ### The monster in the course of time -/

variable [IsStrictOrderedRing K] [FloorRing K]

/-- The monster some seconds after it has started its route. -/
def walker (monster : Monster K) (elapsed : K) : Walker (CGPoint K) K :=
  patrol tileTravelTime monster.position (monster.actions.head?.getD []) elapsed

def positionAt (monster : Monster K) (elapsed : K) : CGPoint K :=
  (monster.walker elapsed).position tileTravelTime CGPoint.toward

/-- A move leads along a corridor between two tiles near the start. -/
def PatrolLeg (data : Grid MazeTile) (start : GridPosition) (source target : CGPoint K) : Prop :=
  ∃ first second, Corridor data first second ∧ Nearby data start first ∧
    Nearby data start second ∧ source = frame.tilePosition first ∧
    target = frame.tilePosition second

omit [IsStrictOrderedRing K] [FloorRing K] in
theorem travel_time_positive [IsStrictOrderedRing K] : 0 < (tileTravelTime : K) :=
  div_pos (Nat.cast_pos.mpr (by decide)) (Nat.cast_pos.mpr (by decide))

omit [IsStrictOrderedRing K] [FloorRing K] in
/-- The route of a patrol ends where the monster stands, and its moves are legs of it. -/
theorem patrol_route (laid : WellLaid MAX_COLUMNS MAX_ROWS data) {monster : Monster K}
    (patrols : monster.Patrols frame data) :
    ∃ route, monster.actions = [route] ∧ route.length ≤ 24 ∧
      route.getLast? = some (frame.tilePosition monster.gridPos) ∧
      route.IsChain (PatrolLeg frame data monster.gridPos) ∧
      ∀ first ∈ route.head?,
        PatrolLeg frame data monster.gridPos (frame.tilePosition monster.gridPos) first := by
  obtain ⟨floor, -, path1, path2, one, two, short1, short2, actions⟩ := patrols
  have near : ∀ place ∈ roundTrip path1 path2, Nearby data monster.gridPos place := by
    intro place member
    rcases (mem_round_trip path1 path2 place).mp member with first | second
    · exact arm_nearby laid one short1 floor place first
    · exact arm_nearby laid two short2 floor place second
  obtain ⟨chain, head, last⟩ := round_trip_closed
    (fun here next edge => (joined_symm laid here next).mp edge) one two
  have home : Nearby data monster.gridPos monster.gridPos := ⟨floor, 0, Nat.zero_le 5, rfl⟩
  refine ⟨_, actions, ?_, ?_, ?_, ?_⟩
  · simp only [roundTrip, List.length_map, List.length_append, List.length_reverse]
    omega
  · rw [List.getLast?_map, last, Option.map_some]
  · rw [List.isChain_map]
    refine chain.imp_of_mem_imp fun here next member member' move => ?_
    exact ⟨here, next, ⟨(near here member).1, (near next member').1, move.symm⟩, near here member,
      near next member', rfl, rfl⟩
  · intro first isFirst
    rw [List.head?_map, head, Option.map_some, Option.mem_some_iff] at isFirst
    exact ⟨monster.gridPos, monster.gridPos, ⟨floor, floor, Or.inr rfl⟩, home, home, rfl,
      isFirst.symm⟩

/-- Whatever the time, the monster is near the tile it has started on. -/
theorem patrols_nearby (laid : WellLaid MAX_COLUMNS MAX_ROWS data) {monster : Monster K}
    (patrols : monster.Patrols frame data) (elapsed : K) (started : 0 ≤ elapsed) :
    Nearby data monster.gridPos (frame.indexFrom (monster.positionAt elapsed)) := by
  obtain ⟨route, actions, -, home, legs, leaves⟩ := patrol_route frame laid patrols
  have course : (monster.walker elapsed).OnCourse tileTravelTime
      (PatrolLeg frame data monster.gridPos) (frame.tilePosition monster.gridPos) := by
    rw [walker, actions, patrols.2.1]
    exact patrol_on_course _ route home legs leaves elapsed started
  rcases on_course_position _ course CGPoint.toward with ⟨-, arrived⟩ |
      ⟨target, share, ⟨first, second, corridor, near, near', source, rfl⟩, low, high, position⟩
  · rw [positionAt, arrived, index_from_tile frame _ (floor_on_map laid _ patrols.1)]
    exact ⟨patrols.1, 0, Nat.zero_le 5, rfl⟩
  · have on : OnSegment (frame.tilePosition first) (frame.tilePosition second)
        (monster.positionAt elapsed) := by
      rw [positionAt, position, source]
      exact ⟨share, low, high, rfl⟩
    rcases index_in_corridor laid frame corridor on with here | there
    · exact here ▸ near
    · exact there ▸ near'

omit [LinearOrder K] [IsStrictOrderedRing K] [FloorRing K] in
/-- A walker that has not left its origin yet stands there. -/
theorem walker_at_rest (origin : CGPoint K) (waypoints : List (CGPoint K)) :
    (⟨origin, waypoints, 0⟩ : Walker (CGPoint K) K).position tileTravelTime CGPoint.toward =
      origin := by
  cases waypoints with
  | nil => rfl
  | cons target rest =>
      rw [Walker.position, zero_div]
      exact toward_start origin target

/-- The monster is back on its start tile within the time of 24 moves. -/
theorem patrols_return (laid : WellLaid MAX_COLUMNS MAX_ROWS data) {monster : Monster K}
    (patrols : monster.Patrols frame data) (elapsed : K) (started : 0 ≤ elapsed) :
    ∃ later, elapsed ≤ later ∧ later ≤ elapsed + 24 * tileTravelTime ∧
      monster.positionAt later = frame.tilePosition monster.gridPos := by
  obtain ⟨route, actions, short, home, -, -⟩ := patrol_route frame laid patrols
  have positive := travel_time_positive (K := K)
  have filled : 1 ≤ route.length := by
    cases route with
    | nil => cases home
    | cons first rest => simp
  have period : 0 < (route.length : K) * tileTravelTime :=
    mul_pos (Nat.cast_pos.mpr filled) positive
  have within : (route.length : K) * tileTravelTime ≤ 24 * tileTravelTime :=
    mul_le_mul_of_nonneg_right (by exact_mod_cast short) positive.le
  have rounds := Nat.le_ceil (elapsed / (route.length * tileTravelTime))
  have least := Nat.ceil_lt_add_one (div_nonneg started period.le)
  refine ⟨⌈elapsed / (route.length * tileTravelTime)⌉₊ * (route.length * tileTravelTime), ?_, ?_,
    ?_⟩
  · exact (div_le_iff₀ period).mp rounds
  · have later := mul_lt_mul_of_pos_right least period
    rw [add_mul, one_mul, div_mul_cancel₀ _ period.ne'] at later
    linarith
  · have stands := patrol_home positive (frame.tilePosition monster.gridPos) route home
      ⌈elapsed / (route.length * tileTravelTime)⌉₊
    rw [positionAt, walker, actions, List.head?_cons, Option.getD_some, patrols.2.1, stands,
      settle_zero _ positive]
    exact walker_at_rest _ _

end Monster
end Patrols

/-! ### The monsters of a game -/

namespace MonsterScene
open Monster
section Rounds
variable {K : Type} [Field K] [LinearOrder K] {manager : TileManager} {data : Grid MazeTile}
variable (frame : SceneFrame K)

/-- The game goes on with so many monsters, all on patrol. -/
def OnPatrol (data : Grid MazeTile) (count : Nat) (state : Except Fault (MonsterScene K)) : Prop :=
  ∃ scene, state = .ok scene ∧ scene.monsters.length = count ∧
    ∀ monster ∈ scene.monsters, monster.Patrols frame data

theorem spawns_on_patrol (shows : manager.Shows data) (scanned : Maze.Scanned data)
    (counters : List Nat) (count : Nat) (state : Except Fault (MonsterScene K))
    (patrol : OnPatrol frame data count state) :
    OnPatrol frame data (count + counters.length)
      (Runs.run (step manager frame) state (spawnEvents counters)) := by
  induction counters generalizing count state with
  | nil => exact patrol
  | cons counter rest ih =>
      obtain ⟨scene, rfl, length, all⟩ := patrol
      obtain ⟨monster, action, draws', ran, patrols⟩ := generate_path_patrols frame shows scanned
        ⟨counter, "", ⟨0, 0⟩, ⟨0, 0⟩, [], []⟩ scene.draws rfl
      rw [spawnEvents, List.map_cons, Runs.run_cons, List.length_cons, Nat.add_comm rest.length,
        ← Nat.add_assoc]
      refine ih (count + 1) _ ⟨⟨scene.monsters ++
        [{ monster.run action with name := "monster" ++ toString counter }], draws'⟩, ?_, ?_, ?_⟩
      · simp only [step, run_ok, apply, spawn, Monster.spawn, ran, run_pure]
      · rw [List.length_append, length, List.length_singleton]
      · exact List.forall_mem_append.mpr ⟨all, List.forall_mem_singleton.mpr patrols⟩

theorem run_again_on_patrol (shows : manager.Shows data) (scanned : Maze.Scanned data)
    (monsters : List (Monster K)) (idle : ∀ monster ∈ monsters, monster.actions = [])
    (draws : Draws) :
    ∃ monsters' draws', runAgain manager frame monsters draws = .ok (monsters', draws') ∧
      monsters'.length = monsters.length ∧
      ∀ monster ∈ monsters', monster.Patrols frame data := by
  induction monsters generalizing draws with
  | nil => exact ⟨[], draws, rfl, rfl, by simp⟩
  | cons monster rest ih =>
      obtain ⟨again, action, draws1, ran, patrols⟩ := generate_path_patrols frame shows scanned
        monster draws (idle monster List.mem_cons_self)
      obtain ⟨others, draws2, ran', length, all⟩ :=
        ih (fun other member => idle other (List.mem_cons_of_mem monster member)) draws1
      refine ⟨again.run action :: others, draws2, ?_, by simp [length], ?_⟩
      · simp only [runAgain, ran, run_ok, ran', run_pure]
      · exact List.forall_mem_cons.mpr ⟨patrols, all⟩

/-- The end of a round stops the monsters; Try Again sends each on a new patrol. -/
theorem rounds_on_patrol (shows : manager.Shows data) (scanned : Maze.Scanned data)
    (rounds count : Nat) (state : Except Fault (MonsterScene K))
    (patrol : OnPatrol frame data count state) :
    OnPatrol frame data count (Runs.run (step manager frame) state
      (List.replicate rounds [MonsterEvent.endGame, .tryAgain]).flatten) := by
  induction rounds generalizing state with
  | zero => exact patrol
  | succ rounds ih =>
      obtain ⟨scene, rfl, length, -⟩ := patrol
      have idle : ∀ monster ∈ scene.endGame.monsters, monster.actions = [] := by
        intro monster member
        obtain ⟨old, -, rfl⟩ := List.mem_map.mp member
        rfl
      obtain ⟨monsters', draws', ran, same, all⟩ :=
        run_again_on_patrol frame shows scanned scene.endGame.monsters idle scene.draws
      refine ih _ ⟨⟨monsters', draws'⟩, ?_, ?_, all⟩
      · simp only [step, run_ok, apply, tryAgain]
        rw [show scene.endGame.draws = scene.draws from rfl, ran]
        rfl
      · exact same.trans ((List.length_map _).trans length)

end Rounds
end MonsterScene

/-- In every generated maze, after any number of rounds and at every time of the current
    one, each of the four monsters is on floor at five connections at most from the tile
    on which it has started the round, and it is back there within 14.4 seconds. -/
theorem monsters_patrol {K : Type} [Field K] [LinearOrder K] [IsStrictOrderedRing K] [FloorRing K]
    (frame : SceneFrame K) (extra : Nat) (mazeDraws : Draws) :
    ∃ maze manager, Maze.generate MAX_COLUMNS MAX_ROWS
        (Maze.roundBound MAX_COLUMNS MAX_ROWS + extra) mazeDraws = .ok maze ∧
      TileManager.make maze.graph = .ok manager ∧
      ∀ (draws : Draws) (rounds : Nat), ∃ scene,
        Runs.run (MonsterScene.step manager frame) (.ok ⟨[], draws⟩)
            (MonsterScene.spawnEvents (List.range' 1 Monster.MAX_MONSTERS) ++
              (List.replicate rounds [MonsterEvent.endGame, .tryAgain]).flatten) =
          .ok scene ∧ scene.monsters.length = Monster.MAX_MONSTERS ∧
        ∀ monster ∈ scene.monsters, ∀ elapsed : K, 0 ≤ elapsed →
          Nearby maze.data monster.gridPos (frame.indexFrom (monster.positionAt elapsed)) ∧
          ∃ later, elapsed ≤ later ∧ later ≤ elapsed + 24 * Monster.tileTravelTime ∧
            monster.positionAt later = frame.tilePosition monster.gridPos := by
  obtain ⟨maze, manager, generated, made, scanned, shows, -⟩ :=
    Maze.generate_with_tiles extra mazeDraws
  refine ⟨maze, manager, generated, made, fun draws rounds => ?_⟩
  have spawned := MonsterScene.spawns_on_patrol frame shows scanned
    (List.range' 1 Monster.MAX_MONSTERS) 0 (.ok ⟨[], draws⟩) ⟨⟨[], draws⟩, rfl, rfl, by simp⟩
  obtain ⟨scene, ran, length, all⟩ :=
    MonsterScene.rounds_on_patrol frame shows scanned rounds _ _ spawned
  refine ⟨scene, by rw [Runs.run, List.foldl_append]; exact ran, length, ?_⟩
  intro monster member elapsed started
  exact ⟨Monster.patrols_nearby frame scanned.1 (all monster member) elapsed started,
    Monster.patrols_return frame scanned.1 (all monster member) elapsed started⟩

theorem first_monsters_patrol : ∃ maze manager, Maze.generate MAX_COLUMNS MAX_ROWS
      (Maze.roundBound MAX_COLUMNS MAX_ROWS + 0) (fun _ => 0) = .ok maze ∧
    TileManager.make maze.graph = .ok manager ∧
    ∀ (draws : Draws) (rounds : Nat), ∃ scene,
      Runs.run (MonsterScene.step manager SceneFrame.unit) (.ok ⟨[], draws⟩)
          (MonsterScene.spawnEvents (List.range' 1 Monster.MAX_MONSTERS) ++
            (List.replicate rounds [MonsterEvent.endGame, .tryAgain]).flatten) =
        .ok scene ∧ scene.monsters.length = Monster.MAX_MONSTERS ∧
      ∀ monster ∈ scene.monsters, ∀ elapsed : ℚ, 0 ≤ elapsed →
        Nearby maze.data monster.gridPos
          (SceneFrame.unit.indexFrom (monster.positionAt elapsed)) ∧
        ∃ later, elapsed ≤ later ∧ later ≤ elapsed + 24 * Monster.tileTravelTime ∧
          monster.positionAt later = SceneFrame.unit.tilePosition monster.gridPos :=
  monsters_patrol SceneFrame.unit 0 fun _ => 0

end RelicRace
