import RelicRace.Library.Runs
import RelicRace.Transfer.MapTransfer

/-!
What the monsters store against what they repeat, over a whole game: the spawns
of `generateMonsters`, the rounds of `getMonsters` on the receiver, the end of
a round and Try Again. The encoder reads the stored paths only.
-/

namespace RelicRace
open Library

/-- Whose map a game is played on: a single player and the generator of a match
    make it, a receiver decodes it from what was sent. -/
inductive Role (K : Type) where
  | generator
  | receiver (sent : List (Monster K))

/-- The monsters of a scene, the newest one last, and the draws that are left. -/
structure MonsterScene (K : Type) where
  monsters : List (Monster K)
  draws : Draws

/-- `follow` is what a round of `getMonsters` does after the initializer. -/
inductive MonsterEvent where
  | spawn (number : Int) (name : String)
  | follow (path : List MapPlace)
  | endGame
  | tryAgain

section Game
variable {K : Type} [Field K] [LinearOrder K]

/-- The tile manager of a game on its map. -/
def Role.tileSetup (role : Role K) (limit : Nat) (mazeDraws : Draws) :
    Except Fault TileManager := do
  let maze ← Maze.generate MAX_COLUMNS MAX_ROWS limit mazeDraws
  match role with
  | .generator => TileManager.make maze.graph
  | .receiver sent =>
      let decoded ← Maze.fromBuffer (GameEncodingBuffer.make maze sent)
      TileManager.make decoded.graph

namespace MonsterScene
variable (manager : TileManager) (frame : SceneFrame K)

def spawn (number : Int) (name : String) (scene : MonsterScene K) :
    Except Fault (MonsterScene K) := do
  let (monster, draws) ← Monster.spawn manager frame number scene.draws
  return ⟨scene.monsters ++ [{ monster with name }], draws⟩

def follow (path : List GridPosition) (scene : MonsterScene K) : Except Fault (MonsterScene K) :=
  match scene.monsters.getLast? with
  | none => .ok scene
  | some curMonster => do
      let curMonster := curMonster.stop
      let tiles ← path.mapM fun point => manager.getTile point.row point.column
      let actions := tiles.map (TileNode.position frame)
      let curMonster := { curMonster with position := actions.head?.getD curMonster.position }
      return { scene with monsters := scene.monsters.dropLast ++ [curMonster.run actions] }

/-- The part of `info.endGame()` for the monsters. -/
def endGame (scene : MonsterScene K) : MonsterScene K :=
  { scene with monsters := scene.monsters.map Monster.stop }

/-- The loop of `resetGameAfterPlayerDied`. -/
def runAgain : List (Monster K) → Draws → Except Fault (List (Monster K) × Draws)
  | [], draws => .ok ([], draws)
  | monster :: rest, draws => do
      let (monster, action, draws) ← monster.generatePath manager frame draws
      let (others, draws) ← runAgain rest draws
      return (monster.run action :: others, draws)

def tryAgain (scene : MonsterScene K) : Except Fault (MonsterScene K) := do
  let (monsters, draws) ← runAgain manager frame scene.monsters scene.draws
  return ⟨monsters, draws⟩

def apply (scene : MonsterScene K) : MonsterEvent → Except Fault (MonsterScene K)
  | .spawn number name => scene.spawn manager frame number name
  | .follow path => scene.follow manager frame (path.map (·.1))
  | .endGame => .ok scene.endGame
  | .tryAgain => scene.tryAgain manager frame

/-- A trap ends the game: nothing happens after it. -/
def step (state : Except Fault (MonsterScene K)) (event : MonsterEvent) :
    Except Fault (MonsterScene K) := state >>= fun scene => scene.apply manager frame event

end MonsterScene

/-! ### The functions of the source as runs of these events -/

section Rounds
variable (manager : TileManager) (frame : SceneFrame K)

namespace MonsterScene

def spawnEvents (counters : List Nat) : List MonsterEvent :=
  counters.map fun counter : Nat => .spawn counter ("monster" ++ toString counter)

def decodeEvents : Nat → List (List MapPlace) → List MonsterEvent
  | _, [] => []
  | i, path :: rest =>
      [.spawn 0 ("monster" ++ toString i), .follow path] ++ decodeEvents (i + 1) rest

theorem run_error (fault : Fault) (events : List MonsterEvent) :
    Runs.run (step manager frame) (.error fault) events = .error fault := by
  induction events with
  | nil => rfl
  | cons event rest ih => exact ih

theorem generate_monsters_run (counters : List Nat) (scene : MonsterScene K) :
    Runs.run (step manager frame) (.ok scene) (spawnEvents counters) =
      (Monster.generateMonsters manager frame counters scene.draws).map
        fun made => ⟨scene.monsters ++ made.1, made.2⟩ := by
  induction counters generalizing scene with
  | nil => simp [spawnEvents, Monster.generateMonsters, Except.map]
  | cons counter rest ih =>
      rw [spawnEvents, List.map_cons, Runs.run_cons, Monster.generateMonsters, step, run_ok, apply,
        spawn]
      cases Monster.spawn manager frame counter scene.draws with
      | error fault => exact run_error manager frame fault _
      | ok spawned =>
          simp only [run_ok, run_pure]
          refine (ih _).trans ?_
          cases Monster.generateMonsters manager frame rest spawned.2 with
          | error fault => rfl
          | ok others => simp [Except.map]

/-- One round of `getMonsters` is a spawn and what follows it. -/
theorem get_monster_run (i : Nat) (path : List MapPlace) (scene : MonsterScene K) :
    Runs.run (step manager frame) (.ok scene)
        [.spawn 0 ("monster" ++ toString i), .follow path] =
      (GameEncodingBuffer.getMonster manager frame i (path.map (·.1)) scene.draws).map
        fun round => ⟨scene.monsters ++ [round.1], round.2⟩ := by
  simp only [Runs.run, List.foldl_cons, List.foldl_nil, step, apply, spawn, run_ok,
    GameEncodingBuffer.getMonster]
  cases Monster.spawn manager frame 0 scene.draws with
  | error fault => rfl
  | ok spawned =>
      simp only [run_ok, run_pure, follow, List.getLast?_append, List.getLast?_singleton,
        Option.some_or, List.dropLast_concat]
      cases (path.map (·.1)).mapM fun point => manager.getTile point.row point.column <;> rfl

theorem get_monsters_run (paths : List (List MapPlace)) (i : Nat) (scene : MonsterScene K) :
    Runs.run (step manager frame) (.ok scene) (decodeEvents i paths) =
      (GameEncodingBuffer.getMonstersFrom manager frame i (paths.map (·.map (·.1)))
        scene.draws).map fun made => ⟨scene.monsters ++ made.1, made.2⟩ := by
  induction paths generalizing i scene with
  | nil => simp [decodeEvents, GameEncodingBuffer.getMonstersFrom, Except.map]
  | cons path rest ih =>
      rw [decodeEvents, Runs.run, List.foldl_append]
      have first := get_monster_run manager frame i path scene
      rw [Runs.run] at first
      rw [first, List.map_cons, GameEncodingBuffer.getMonstersFrom]
      cases GameEncodingBuffer.getMonster manager frame i (path.map (·.1)) scene.draws with
      | error fault => exact run_error manager frame fault _
      | ok round =>
          simp only [Except.map, run_ok]
          refine (ih (i + 1) _).trans ?_
          cases GameEncodingBuffer.getMonstersFrom manager frame (i + 1)
            (rest.map (·.map (·.1))) round.2 with
          | error fault => rfl
          | ok others => simp [Except.map]

end MonsterScene
end Rounds

/-! ### The stored paths -/

namespace Monster

/-- Everything the monster repeats moves it through the places it stores. -/
def Mirrors (frame : SceneFrame K) (monster : Monster K) : Prop :=
  ∀ action ∈ monster.actions, action = routeOf frame monster.path

end Monster

namespace MonsterScene
variable (frame : SceneFrame K)

/-- The game goes on, and what the monsters store is what they repeat. -/
def Mirrored (state : Except Fault (MonsterScene K)) : Prop :=
  ∃ scene, state = .ok scene ∧ ∀ monster ∈ scene.monsters, monster.Mirrors frame

/-- The condition on the state before an event: the newest monster stores the
    decoded path already, and no monster is there to start again. -/
def StoresBefore (state : Except Fault (MonsterScene K)) : MonsterEvent → Prop
  | .spawn _ _ => True
  | .follow path => ∀ scene, state = .ok scene → ∀ newest ∈ scene.monsters.getLast?,
      newest.path = path
  | .endGame => True
  | .tryAgain => ∀ scene, state = .ok scene → scene.monsters = []

/-- What holds of the monsters as long as every event meets its condition. -/
def Stores (state : Except Fault (MonsterScene K)) : Prop :=
  ∃ scene, state = .ok scene ∧ ∀ monster ∈ scene.monsters, monster.Mirrors frame ∧
    monster.path ≠ []

theorem stores_mirrored (state : Except Fault (MonsterScene K)) (stores : Stores frame state) :
    Mirrored frame state := by
  obtain ⟨scene, rfl, all⟩ := stores
  exact ⟨scene, rfl, fun monster member => (all monster member).1⟩

/-- The encoder describes the screen: the places of its path `i` are the moves
    of everything that monster `i` repeats. -/
theorem mirrors_iff_encoded (maze : Maze) (monsters : List (Monster K)) :
    (∀ monster ∈ monsters, monster.Mirrors frame) ↔
      List.Forall₂ (fun path monster => ∀ action ∈ monster.actions,
        action = path.map frame.tilePosition) (GameEncodingBuffer.make maze monsters).paths
          monsters := by
  rw [GameEncodingBuffer.make, List.forall₂_map_left_iff, List.forall₂_same]
  simp only [Monster.Mirrors, route_of_places]

section Steps
variable {manager : TileManager} {data : Grid MazeTile}

theorem spawn_stores (shows : manager.Shows data) (laid : WellLaid MAX_COLUMNS MAX_ROWS data)
    (scene : MonsterScene K)
    (stores : ∀ monster ∈ scene.monsters, monster.Mirrors frame ∧ monster.path ≠ [])
    (number : Int) (name : String) : Stores frame (scene.spawn manager frame number name) := by
  obtain ⟨monster, draws', ran, walks, filled⟩ :=
    Monster.spawn_walks_path shows laid frame number scene.draws
  refine ⟨⟨scene.monsters ++ [{ monster with name }], draws'⟩,
    by simp only [spawn, ran, run_ok, run_pure], ?_⟩
  refine List.forall_mem_append.mpr ⟨stores, List.forall_mem_singleton.mpr ⟨?_, filled⟩⟩
  simp [Monster.Mirrors, walks]

theorem end_game_stores (scene : MonsterScene K)
    (stores : ∀ monster ∈ scene.monsters, monster.Mirrors frame ∧ monster.path ≠ []) :
    Stores frame (.ok scene.endGame) := by
  refine ⟨scene.endGame, rfl, ?_⟩
  intro monster member
  obtain ⟨old, listed, rfl⟩ := List.mem_map.mp member
  exact ⟨by simp [Monster.Mirrors, Monster.stop], (stores old listed).2⟩

/-- The newest monster goes over to the decoded route and keeps what it stores. -/
theorem follow_replaces (shows : manager.Shows data) (laid : WellLaid MAX_COLUMNS MAX_ROWS data)
    (scene : MonsterScene K) (newest : Monster K) (last : scene.monsters.getLast? = some newest)
    (path : List MapPlace) :
    ∃ curMonster : Monster K, scene.follow manager frame (path.map (·.1)) =
        .ok { scene with monsters := scene.monsters.dropLast ++ [curMonster] } ∧
      curMonster.path = newest.path ∧ curMonster.actions = [routeOf frame path] := by
  obtain ⟨tiles, got, route⟩ := GameEncodingBuffer.path_tiles shows laid frame path
  simp only [follow, last, got, run_ok, run_pure]
  exact ⟨_, rfl, rfl, by simp [Monster.run, Monster.stop, route]⟩

/-- A second path is stored behind the first one, but it alone is repeated. -/
theorem run_again_adds (shows : manager.Shows data) (laid : WellLaid MAX_COLUMNS MAX_ROWS data)
    (monsters : List (Monster K)) (draws : Draws) :
    ∃ monsters' draws', runAgain manager frame monsters draws = .ok (monsters', draws') ∧
      List.Forall₂ (fun monster monster' => ∃ places, places ≠ [] ∧
        monster'.path = monster.path ++ places ∧
        monster'.actions = monster.actions ++ [routeOf frame places]) monsters monsters' := by
  induction monsters generalizing draws with
  | nil => exact ⟨[], draws, rfl, .nil⟩
  | cons monster rest ih =>
      obtain ⟨again, places, draws1, ran, filled, path, actions⟩ :=
        Monster.generate_path_stores shows laid frame monster draws
      obtain ⟨others, draws2, ran', added⟩ := ih draws1
      refine ⟨again.run (routeOf frame places) :: others, draws2, ?_, .cons ?_ added⟩
      · simp only [runAgain, ran, run_ok, ran', run_pure]
      · exact ⟨places, filled, path, by rw [Monster.run, actions]⟩

/-- After the spawns of a game a death and a tap on Try Again break the condition. -/
theorem try_again_breaks (shows : manager.Shows data) (laid : WellLaid MAX_COLUMNS MAX_ROWS data)
    (counter : Nat) (rest : List Nat) (draws : Draws) :
    ¬ Runs.Meets (step manager frame) StoresBefore (.ok ⟨[], draws⟩)
      (spawnEvents (counter :: rest) ++ [.endGame, .tryAgain]) := by
  obtain ⟨monsters, draws', ran, count, -⟩ :=
    Monster.generate_monsters_walk shows laid frame (counter :: rest) draws
  rw [Runs.meets_append, generate_monsters_run, ran]
  rintro ⟨-, -, again, -⟩
  have none := again _ rfl
  simp only [endGame, List.nil_append, List.map_eq_nil_iff] at none
  simp [none] at count

variable [IsStrictOrderedRing K] [FloorRing K]

/-- A decoded route is the stored path only where it was stored before. -/
theorem follow_decides (shows : manager.Shows data) (laid : WellLaid MAX_COLUMNS MAX_ROWS data)
    (scene : MonsterScene K)
    (stores : ∀ monster ∈ scene.monsters, monster.Mirrors frame ∧ monster.path ≠ [])
    (path : List MapPlace) :
    (Mirrored frame (scene.follow manager frame (path.map (·.1))) ↔
      ∀ newest ∈ scene.monsters.getLast?, newest.path = path) ∧
    ((∀ newest ∈ scene.monsters.getLast?, newest.path = path) →
      Stores frame (scene.follow manager frame (path.map (·.1)))) := by
  cases last : scene.monsters.getLast? with
  | none =>
      have kept : scene.follow manager frame (path.map (·.1)) = .ok scene := by
        rw [follow, last]
      rw [kept]
      have still : Stores frame (.ok scene) := ⟨scene, rfl, stores⟩
      exact ⟨iff_of_true (stores_mirrored frame _ still) (by simp), fun _ => still⟩
  | some newest =>
      obtain ⟨curMonster, ran, path', actions⟩ :=
        follow_replaces frame shows laid scene newest last path
      have filled := (stores newest (List.mem_of_getLast? last)).2
      have mirrors : curMonster.Mirrors frame ↔ newest.path = path := by
        simp [Monster.Mirrors, actions, path', route_of_inj, eq_comm]
      have others : ∀ monster ∈ scene.monsters.dropLast,
          monster.Mirrors frame ∧ monster.path ≠ [] :=
        fun monster member => stores monster (List.mem_of_mem_dropLast member)
      simp only [Option.mem_some_iff, forall_eq', ran, ← mirrors]
      have goes_on (same : curMonster.Mirrors frame) : Stores frame (.ok { scene with
          monsters := scene.monsters.dropLast ++ [curMonster] }) := by
        refine ⟨_, rfl, List.forall_mem_append.mpr ⟨others, List.forall_mem_singleton.mpr ?_⟩⟩
        exact ⟨same, path' ▸ filled⟩
      constructor
      · constructor
        · rintro ⟨after, same, all⟩
          obtain rfl := Except.ok.inj same
          exact all curMonster (by simp)
        · exact fun same => stores_mirrored frame _ (goes_on same)
      · exact goes_on

/-- A monster that starts again does not repeat all that it stores. -/
theorem try_again_decides (shows : manager.Shows data) (laid : WellLaid MAX_COLUMNS MAX_ROWS data)
    (scene : MonsterScene K)
    (stores : ∀ monster ∈ scene.monsters, monster.Mirrors frame ∧ monster.path ≠ []) :
    (Mirrored frame (scene.tryAgain manager frame) ↔ scene.monsters = []) ∧
      (scene.monsters = [] → Stores frame (scene.tryAgain manager frame)) := by
  obtain ⟨monsters', draws', ran, added⟩ :=
    run_again_adds frame shows laid scene.monsters scene.draws
  simp only [tryAgain, ran, run_ok, run_pure]
  cases listed : scene.monsters with
  | nil =>
      rw [listed, List.forall₂_nil_left_iff] at added
      subst added
      exact ⟨iff_of_true ⟨_, rfl, by simp⟩ rfl, fun _ => ⟨_, rfl, by simp⟩⟩
  | cons monster rest =>
      rw [listed, List.forall₂_cons_left_iff] at added
      obtain ⟨again, others, ⟨places, -, path, actions⟩, -, rfl⟩ := added
      refine ⟨iff_of_false ?_ (by simp), by simp⟩
      rintro ⟨after, same, mirrored⟩
      obtain rfl := Except.ok.inj same
      have repeated := mirrored again List.mem_cons_self (routeOf frame places)
        (by simp [actions])
      rw [route_of_inj, path, List.self_eq_append_left] at repeated
      exact (stores monster (by simp [listed])).2 repeated

/-- An event keeps what is repeated in what is stored exactly on its condition. -/
theorem step_decides (shows : manager.Shows data) (laid : WellLaid MAX_COLUMNS MAX_ROWS data)
    (state : Except Fault (MonsterScene K)) (event : MonsterEvent) (stores : Stores frame state) :
    (Mirrored frame (step manager frame state event) ↔ StoresBefore state event) ∧
      (StoresBefore state event → Stores frame (step manager frame state event)) := by
  obtain ⟨scene, rfl, kept⟩ := stores
  rw [step, run_ok]
  cases event with
  | spawn number name =>
      have spawned := spawn_stores frame shows laid scene kept number name
      exact ⟨iff_of_true (stores_mirrored frame _ spawned) trivial, fun _ => spawned⟩
  | follow path =>
      simpa [StoresBefore, apply] using follow_decides frame shows laid scene kept path
  | endGame =>
      have ended := end_game_stores frame scene kept
      exact ⟨iff_of_true (stores_mirrored frame _ ended) trivial, fun _ => ended⟩
  | tryAgain =>
      simpa [StoresBefore, apply] using try_again_decides frame shows laid scene kept

/-- From the first spawn on the stored paths mirror the running routes in every
    state exactly when no event breaks its condition. -/
theorem mirrored_always_iff (shows : manager.Shows data)
    (laid : WellLaid MAX_COLUMNS MAX_ROWS data) (draws : Draws) (events : List MonsterEvent) :
    Runs.Always (step manager frame) (Mirrored frame) (.ok ⟨[], draws⟩) events ↔
      Runs.Meets (step manager frame) StoresBefore (.ok ⟨[], draws⟩) events := by
  exact Runs.always_iff_meets (step manager frame) StoresBefore (Mirrored frame) (Stores frame)
    (stores_mirrored frame) (step_decides frame shows laid) events _ ⟨⟨[], draws⟩, rfl, by simp⟩

end Steps

omit [Field K] [LinearOrder K] in
/-- Either map of a game is laid well and shown by its tile manager. -/
theorem tile_setup_shows (role : Role K) (extra : Nat) (mazeDraws : Draws) :
    ∃ manager data, role.tileSetup (Maze.roundBound MAX_COLUMNS MAX_ROWS + extra) mazeDraws =
      .ok manager ∧ WellLaid MAX_COLUMNS MAX_ROWS data ∧ manager.Shows data := by
  obtain ⟨maze, generated, scanned, graph⟩ := Maze.generate_returns extra mazeDraws
  cases role with
  | generator =>
      obtain ⟨manager, made, shows⟩ := TileManager.make_shows maze.data scanned.1.shape
      exact ⟨manager, maze.data, by rw [Role.tileSetup, generated, run_ok, graph, made], scanned.1,
        shows⟩
  | receiver sent =>
      have laid := Maze.rebuilt_well_laid scanned.1
      obtain ⟨decoded, ran, decodedGraph⟩ :=
        Maze.from_buffer_returns scanned.1 (GameEncodingBuffer.make maze sent) rfl
      obtain ⟨manager, made, shows⟩ := TileManager.make_shows _ laid.shape
      refine ⟨manager, Maze.rebuilt maze.data, ?_, laid, shows⟩
      simp only [Role.tileSetup, generated, run_ok, ran, decodedGraph, made]

end MonsterScene

/-- The stored paths mirror the running routes throughout a game exactly when Try
    Again is tapped without monsters only and a monster that is created for a
    decoded route has drawn that route for itself. -/
theorem stored_paths_mirror_iff [IsStrictOrderedRing K] [FloorRing K] (frame : SceneFrame K)
    (role : Role K) (extra : Nat) (mazeDraws : Draws) :
    ∃ manager, role.tileSetup (Maze.roundBound MAX_COLUMNS MAX_ROWS + extra) mazeDraws =
      .ok manager ∧ ∀ (draws : Draws) (events : List MonsterEvent),
        Runs.Always (MonsterScene.step manager frame) (MonsterScene.Mirrored frame)
            (.ok ⟨[], draws⟩) events ↔
          Runs.Meets (MonsterScene.step manager frame) MonsterScene.StoresBefore
            (.ok ⟨[], draws⟩) events := by
  obtain ⟨manager, data, made, laid, shows⟩ := MonsterScene.tile_setup_shows role extra mazeDraws
  exact ⟨manager, made, MonsterScene.mirrored_always_iff frame shows laid⟩

end Game

theorem stored_paths_mirror_unit : ∃ manager,
    (Role.generator : Role ℚ).tileSetup (Maze.roundBound MAX_COLUMNS MAX_ROWS + 0) (fun _ => 0) =
      .ok manager ∧ ∀ (draws : Draws) (events : List MonsterEvent),
        Runs.Always (MonsterScene.step manager SceneFrame.unit)
            (MonsterScene.Mirrored SceneFrame.unit) (.ok ⟨[], draws⟩) events ↔
          Runs.Meets (MonsterScene.step manager SceneFrame.unit) MonsterScene.StoresBefore
            (.ok ⟨[], draws⟩) events :=
  stored_paths_mirror_iff SceneFrame.unit .generator 0 fun _ => 0

/-- Four monsters, a death and a tap on Try Again. -/
def deathAndTryAgain : List MonsterEvent :=
  MonsterScene.spawnEvents (List.range' 1 Monster.MAX_MONSTERS) ++ [.endGame, .tryAgain]

theorem stored_path_keeps_old_route : ¬ ∀ (frame : SceneFrame ℚ) (role : Role ℚ)
    (mazeDraws draws : Draws) (manager : TileManager) (events : List MonsterEvent),
    role.tileSetup (Maze.roundBound MAX_COLUMNS MAX_ROWS) mazeDraws = .ok manager →
    Runs.Always (MonsterScene.step manager frame) (MonsterScene.Mirrored frame)
      (.ok ⟨[], draws⟩) events := by
  intro always
  obtain ⟨manager, data, made, laid, shows⟩ :=
    MonsterScene.tile_setup_shows (.generator : Role ℚ) 0 fun _ => 0
  have mirrored := always SceneFrame.unit .generator (fun _ => 0) (fun _ => 0) manager
    deathAndTryAgain made
  exact MonsterScene.try_again_breaks SceneFrame.unit shows laid 1 [2, 3, 4] _
    ((MonsterScene.mirrored_always_iff SceneFrame.unit shows laid _ _).mp mirrored)

end RelicRace
