import RelicRace.Maze.WellFormed
import RelicRace.Monster.Routes
import RelicRace.Transfer.StoredPaths

/-!
Where the monsters of a game start, at the setup and at every further try: on a
crossing of their own quadrant, or on (1, 1) where the quadrant has no crossing.
-/

namespace RelicRace
open Library

namespace Monster

/-- The tile of `getRandomTile` when no tile meets the condition. -/
def fallbackStart : GridPosition := ⟨1, 1⟩

section Starts
variable {K : Type} [Field K] [LinearOrder K]

/-- The bounds of `setRandomPosition(num:)` on the position of a tile. -/
def InQuadrant (frame : SceneFrame K) (num : Int) (position : CGPoint K) : Prop :=
  let right := position.x > frame.midX + frame.tileWidth * 2
  let left := position.x < frame.midX - frame.tileWidth * 2
  let top := position.y > frame.midY + frame.tileHeight * 2
  let bottom := position.y < frame.midY - frame.tileHeight * 2
  if num % 4 = 0 then right ∧ bottom
  else if num % 3 = 0 then left ∧ bottom
  else if num % 2 = 0 then left ∧ top
  else right ∧ top

/-- A crossing of the quadrant. -/
def StartTile (frame : SceneFrame K) (data : Grid MazeTile) (num : Int)
    (place : GridPosition) : Prop :=
  2 < (links data place).length ∧ InQuadrant frame num (frame.tilePosition place)

theorem start_condition_iff (frame : SceneFrame K) (num : Int) (tile : TileNode) :
    startCondition frame num tile = true ↔
      2 < tile.node.connectedNodes.length ∧ InQuadrant frame num (tile.position frame) := by
  simp only [startCondition, InQuadrant, Bool.and_eq_true, decide_eq_true_eq, gt_iff_lt]
  split_ifs <;> simp_all

section Placed
variable {manager : TileManager} {data : Grid MazeTile}

/-- The tile that is drawn meets the condition, or it is the fallback. -/
theorem random_start (shows : manager.Shows data) (laid : WellLaid MAX_COLUMNS MAX_ROWS data)
    (frame : SceneFrame K) (num : Int) (draw : Nat) (tile : TileNode)
    (drawn : manager.getRandomTile (startCondition frame num) draw = .ok tile) :
    StartTile frame data num tile.node.gridPosition ∨ tile.node.gridPosition = fallbackStart := by
  simp only [TileManager.getRandomTile] at drawn
  split at drawn
  · rename_i found listed
    obtain rfl := Except.ok.inj drawn
    obtain ⟨inside, kind⟩ := List.mem_filter.mp (List.mem_of_getElem? listed)
    obtain ⟨row, column, hit⟩ := (Grid.mem_flatten_iff manager.tiles _).mp inside
    rw [shows.tiles] at hit
    obtain ⟨mazeTile, present, rfl⟩ := Option.map_eq_some_iff.mp hit
    have placed := laid.placed ⟨column, row⟩ mazeTile present
    obtain ⟨-, meets⟩ := Bool.and_eq_true_iff.mp kind
    obtain ⟨crossing, quadrant⟩ := (start_condition_iff frame num _).mp meets
    refine .inl ⟨?_, ?_⟩
    · rw [TileNode.make, placed, links,
        show tileAt? data ⟨column, row⟩ = some mazeTile from present]
      exact crossing
    · simpa [TileNode.make, TileNode.position, placed] using quadrant
  · obtain ⟨corner, found, -, -, placed, -⟩ :=
      TileManager.shown_tile shows laid ⟨1, 1⟩ (by decide)
    obtain rfl := Except.ok.inj (found.symm.trans drawn)
    exact .inr placed

/-- `generatePath` puts the monster on a start tile and leaves its number alone. -/
theorem generate_path_starts (shows : manager.Shows data)
    (laid : WellLaid MAX_COLUMNS MAX_ROWS data) (frame : SceneFrame K) (monster : Monster K)
    (draws : Draws) :
    ∃ monster' action draws', monster.generatePath manager frame draws =
        .ok (monster', action, draws') ∧ monster'.number = monster.number ∧
      (StartTile frame data monster.number monster'.gridPos ∨
        monster'.gridPos = fallbackStart) := by
  obtain ⟨-, -, -, -, -, monster', places, draws', -, -, ran, -⟩ :=
    generate_path_arms shows laid frame monster draws
  refine ⟨monster', _, draws', ran, ?_⟩
  obtain ⟨⟨placed, oNode, rest⟩, chosen, ran⟩ := (run_bind_iff _ _ _).mp ran
  obtain ⟨tile, drawn, same⟩ := (run_bind_iff _ _ _).mp chosen
  obtain ⟨⟨path, left⟩, -, ran⟩ := (run_bind_iff _ _ _).mp ran
  obtain ⟨⟨stored, actions⟩, -, ran⟩ := (run_bind_iff _ _ _).mp ran
  obtain rfl := (Prod.mk.inj (Except.ok.inj same)).1
  obtain rfl := (Prod.mk.inj (Except.ok.inj ran)).1
  exact ⟨rfl, random_start shows laid frame monster.number (draws 0) tile drawn⟩

/-- A room in a corner of the map has two neighbours, so it is no crossing. -/
theorem corner_no_crossing (laid : WellLaid MAX_COLUMNS MAX_ROWS data) (place : GridPosition)
    (corner : place = Maze.playerSpawn ∨ place = Maze.opponentSpawn) :
    (links data place).length ≤ 2 := by
  have between : ∃ first second, links data place ⊆ [first, second] := by
    rcases corner with rfl | rfl
    · refine ⟨⟨2, 19⟩, ⟨1, 18⟩, fun next linked => ?_⟩
      obtain ⟨-, floor, near⟩ := (laid.joined _ _).mp linked
      have inside := laid.interior next floor
      rcases next with ⟨column, row⟩
      simp only [Interior, EdgeAdjacent, Maze.playerSpawn, MAX_ROWS, MAX_COLUMNS] at inside near
      simp only [List.mem_cons, GridPosition.mk.injEq, List.not_mem_nil, or_false]
      omega
    · refine ⟨⟨34, 1⟩, ⟨35, 2⟩, fun next linked => ?_⟩
      obtain ⟨-, floor, near⟩ := (laid.joined _ _).mp linked
      have inside := laid.interior next floor
      rcases next with ⟨column, row⟩
      simp only [Interior, EdgeAdjacent, Maze.opponentSpawn, MAX_ROWS, MAX_COLUMNS] at inside near
      simp only [List.mem_cons, GridPosition.mk.injEq, List.not_mem_nil, or_false]
      omega
  obtain ⟨first, second, within⟩ := between
  exact ((laid.nodup place).subperm within).length_le

end Placed

/-- No position is in the quadrants of two of the four monsters. -/
theorem quadrants_disjoint [IsStrictOrderedRing K] (frame : SceneFrame K) (first second : Int)
    (position : CGPoint K) (low : 1 ≤ first) (apart : first < second) (high : second ≤ 4)
    (one : InQuadrant frame first position) : ¬ InQuadrant frame second position := by
  have width : 0 < frame.tileWidth := div_pos frame.wide (by simp [MAX_COLUMNS])
  have height : 0 < frame.tileHeight := div_pos frame.tall (by simp [MAX_ROWS])
  have pairs : (first = 1 ∨ first = 2 ∨ first = 3) ∧ (second = 2 ∨ second = 3 ∨ second = 4) := by
    omega
  intro two
  rcases pairs with ⟨rfl | rfl | rfl, rfl | rfl | rfl⟩ <;>
    first
    | omega
    | (simp [InQuadrant] at one two; linarith)

end Starts
end Monster

/-! ### The monsters of a game -/

namespace MonsterScene
open Monster
variable {K : Type} [Field K] [LinearOrder K] {manager : TileManager} {data : Grid MazeTile}
variable (frame : SceneFrame K)

/-- The game goes on with monsters of these numbers, each where it may start. -/
def Started (data : Grid MazeTile) (numbers : List Int)
    (state : Except Fault (MonsterScene K)) : Prop :=
  ∃ scene, state = .ok scene ∧ scene.monsters.map Monster.number = numbers ∧
    ∀ monster ∈ scene.monsters,
      StartTile frame data monster.number monster.gridPos ∨ monster.gridPos = fallbackStart

theorem spawn_started (shows : manager.Shows data) (laid : WellLaid MAX_COLUMNS MAX_ROWS data)
    (numbers : List Int) (state : Except Fault (MonsterScene K))
    (started : Started frame data numbers state) (number : Int) (name : String) :
    Started frame data (numbers ++ [number]) (step manager frame state (.spawn number name)) := by
  obtain ⟨scene, rfl, rfl, starts⟩ := started
  obtain ⟨monster, action, draws', ran, same, start⟩ := generate_path_starts shows laid frame
    ⟨number, "", ⟨0, 0⟩, ⟨0, 0⟩, [], []⟩ scene.draws
  refine ⟨⟨scene.monsters ++ [{ monster.run action with name }], draws'⟩, ?_, ?_, ?_⟩
  · simp only [step, run_ok, apply, spawn, Monster.spawn, ran, run_pure]
  · simp [Monster.run, same]
  · refine List.forall_mem_append.mpr ⟨starts, List.forall_mem_singleton.mpr ?_⟩
    simpa only [Monster.run, same] using start

theorem end_game_started (numbers : List Int) (state : Except Fault (MonsterScene K))
    (started : Started frame data numbers state) :
    Started frame data numbers (step manager frame state .endGame) := by
  obtain ⟨scene, rfl, rfl, starts⟩ := started
  refine ⟨scene.endGame, rfl, by simp [endGame, Monster.stop, Function.comp_def], ?_⟩
  intro monster member
  obtain ⟨old, listed, rfl⟩ := List.mem_map.mp member
  exact starts old listed

theorem run_again_started (shows : manager.Shows data)
    (laid : WellLaid MAX_COLUMNS MAX_ROWS data) (monsters : List (Monster K)) (draws : Draws) :
    ∃ again draws', runAgain manager frame monsters draws = .ok (again, draws') ∧
      again.map Monster.number = monsters.map Monster.number ∧
      ∀ monster ∈ again,
        StartTile frame data monster.number monster.gridPos ∨ monster.gridPos = fallbackStart := by
  induction monsters generalizing draws with
  | nil => exact ⟨[], draws, rfl, rfl, by simp⟩
  | cons monster rest ih =>
      obtain ⟨placed, action, draws1, ran, same, start⟩ :=
        generate_path_starts shows laid frame monster draws
      obtain ⟨others, draws2, ran', numbers, starts⟩ := ih draws1
      refine ⟨placed.run action :: others, draws2, ?_, ?_, ?_⟩
      · simp only [runAgain, ran, run_ok, ran', run_pure]
      · simp [Monster.run, same, numbers]
      · refine List.forall_mem_cons.mpr ⟨?_, starts⟩
        simpa only [Monster.run, same] using start

theorem try_again_started (shows : manager.Shows data)
    (laid : WellLaid MAX_COLUMNS MAX_ROWS data) (numbers : List Int)
    (state : Except Fault (MonsterScene K)) (started : Started frame data numbers state) :
    Started frame data numbers (step manager frame state .tryAgain) := by
  obtain ⟨scene, rfl, rfl, -⟩ := started
  obtain ⟨again, draws', ran, numbers, starts⟩ :=
    run_again_started frame shows laid scene.monsters scene.draws
  refine ⟨⟨again, draws'⟩, ?_, numbers, starts⟩
  simp only [step, run_ok, apply, tryAgain, ran, run_pure]

theorem spawns_started (shows : manager.Shows data) (laid : WellLaid MAX_COLUMNS MAX_ROWS data)
    (counters : List Nat) (numbers : List Int) (state : Except Fault (MonsterScene K))
    (started : Started frame data numbers state) :
    Started frame data (numbers ++ counters.map Nat.cast)
      (Runs.run (step manager frame) state (spawnEvents counters)) := by
  induction counters generalizing numbers state with
  | nil => simpa [spawnEvents] using started
  | cons counter rest ih =>
      have next := ih _ _ (spawn_started frame shows laid numbers state started counter
        ("monster" ++ toString counter))
      rw [List.append_assoc] at next
      exact next

theorem further_started (shows : manager.Shows data) (laid : WellLaid MAX_COLUMNS MAX_ROWS data)
    (numbers : List Int) (state : Except Fault (MonsterScene K))
    (started : Started frame data numbers state) (events : List MonsterEvent)
    (rounds : ∀ event ∈ events, event = .endGame ∨ event = .tryAgain) :
    Started frame data numbers (Runs.run (step manager frame) state events) := by
  induction events generalizing state with
  | nil => exact started
  | cons event rest ih =>
      rw [Runs.run_cons]
      refine ih _ ?_ (fun other member => rounds other (List.mem_cons_of_mem event member))
      rcases rounds event List.mem_cons_self with rfl | rfl
      · exact end_game_started frame numbers state started
      · exact try_again_started frame shows laid numbers state started

/-- Monsters with different numbers share a start tile only where both fell back. -/
theorem started_apart [IsStrictOrderedRing K] (monsters : List (Monster K))
    (numbers : monsters.map Monster.number = [1, 2, 3, 4])
    (starts : ∀ monster ∈ monsters,
      StartTile frame data monster.number monster.gridPos ∨ monster.gridPos = fallbackStart) :
    monsters.Pairwise fun first second =>
      first.gridPos = second.gridPos → first.gridPos = fallbackStart := by
  have ascending : (monsters.map Monster.number).Pairwise (· < ·) := by
    rw [numbers]
    decide
  have within : ∀ monster ∈ monsters, 1 ≤ monster.number ∧ monster.number ≤ 4 := by
    intro monster member
    have listed := List.mem_map_of_mem (f := Monster.number) member
    rw [numbers] at listed
    simp only [List.mem_cons, List.not_mem_nil, or_false] at listed
    omega
  refine (List.pairwise_map.mp ascending).imp_of_mem ?_
  intro first second one two less same
  rcases starts first one with ⟨-, quadrant⟩ | fell
  · rcases starts second two with ⟨-, quadrant'⟩ | fell'
    · rw [← same] at quadrant'
      exact absurd quadrant' (quadrants_disjoint frame _ _ _ (within first one).1 less
        (within second two).2 quadrant)
    · exact same.trans fell'
  · exact fell

end MonsterScene

/-- In every generated maze, after any number of ends of a round and further tries, the
    four monsters have started on floor tiles, none of them on a spawn tile of the actors,
    each on a crossing of its own quadrant or on (1, 1); no two have started on one tile
    unless it is (1, 1). -/
theorem monsters_start_apart {K : Type} [Field K] [LinearOrder K] [IsStrictOrderedRing K]
    (frame : SceneFrame K) (extra : Nat) (mazeDraws : Draws) :
    ∃ maze manager, Maze.generate MAX_COLUMNS MAX_ROWS
        (Maze.roundBound MAX_COLUMNS MAX_ROWS + extra) mazeDraws = .ok maze ∧
      TileManager.make maze.graph = .ok manager ∧
      ∀ (draws : Draws) (events : List MonsterEvent),
        (∀ event ∈ events, event = .endGame ∨ event = .tryAgain) → ∃ scene,
        Runs.run (MonsterScene.step manager frame) (.ok ⟨[], draws⟩)
            (MonsterScene.spawnEvents (List.range' 1 Monster.MAX_MONSTERS) ++ events) =
          .ok scene ∧
        scene.monsters.map Monster.number = [1, 2, 3, 4] ∧
        (∀ monster ∈ scene.monsters, IsSpace maze.data monster.gridPos ∧
          monster.gridPos ≠ Maze.playerSpawn ∧ monster.gridPos ≠ Maze.opponentSpawn ∧
          (Monster.StartTile frame maze.data monster.number monster.gridPos ∨
            monster.gridPos = Monster.fallbackStart)) ∧
        scene.monsters.Pairwise fun first second =>
          first.gridPos = second.gridPos → first.gridPos = Monster.fallbackStart := by
  obtain ⟨maze, manager, generated, made, scanned, shows, -⟩ :=
    Maze.generate_with_tiles extra mazeDraws
  refine ⟨maze, manager, generated, made, fun draws events rounds => ?_⟩
  have spawned := MonsterScene.spawns_started frame shows scanned.1
    (List.range' 1 Monster.MAX_MONSTERS) [] (.ok ⟨[], draws⟩) ⟨⟨[], draws⟩, rfl, rfl, by simp⟩
  obtain ⟨scene, ran, numbers, starts⟩ :=
    MonsterScene.further_started frame shows scanned.1 _ _ spawned events rounds
  refine ⟨scene, by rw [Runs.run, List.foldl_append]; exact ran, numbers, fun monster member => ?_,
    MonsterScene.started_apart frame _ numbers starts⟩
  have start := starts monster member
  refine ⟨?_, ?_, ?_, start⟩
  · rcases start with ⟨crossing, -⟩ | fell
    · rw [Maze.scanned_linked maze.data scanned]
      exact List.ne_nil_of_length_pos (by omega)
    · exact fell ▸ Maze.first_room_floor scanned
  · rintro same
    rcases start with ⟨crossing, -⟩ | fell
    · have corner := Monster.corner_no_crossing scanned.1 _ (.inl same)
      omega
    · exact absurd (fell.symm.trans same) (by decide)
  · rintro same
    rcases start with ⟨crossing, -⟩ | fell
    · have corner := Monster.corner_no_crossing scanned.1 _ (.inr same)
      omega
    · exact absurd (fell.symm.trans same) (by decide)

theorem first_monsters_start_apart : ∃ maze manager, Maze.generate MAX_COLUMNS MAX_ROWS
      (Maze.roundBound MAX_COLUMNS MAX_ROWS + 0) (fun _ => 0) = .ok maze ∧
    TileManager.make maze.graph = .ok manager ∧
    ∃ scene, Runs.run (MonsterScene.step manager SceneFrame.unit) (.ok ⟨[], fun _ => 0⟩)
        (MonsterScene.spawnEvents (List.range' 1 Monster.MAX_MONSTERS) ++
          [.endGame, .tryAgain]) = .ok scene ∧
      scene.monsters.Pairwise fun first second =>
        first.gridPos = second.gridPos → first.gridPos = Monster.fallbackStart := by
  obtain ⟨maze, manager, generated, made, started⟩ :=
    monsters_start_apart SceneFrame.unit 0 fun _ => 0
  obtain ⟨scene, ran, -, -, apart⟩ :=
    started (fun _ => 0) [.endGame, .tryAgain] (by simp)
  exact ⟨maze, manager, generated, made, scene, ran, apart⟩

end RelicRace
