import RelicRace.PvP.Setup
import RelicRace.Trophy.FairPlacement

/-!
What the two devices share after the setup. The graph and the routes are those
of the generator; the trophy is drawn twice from one list of candidates, so the
worlds agree exactly when both draws fall on one element of it.
-/

namespace RelicRace
open Library

section Shared
variable {K : Type} [Field K] [LinearOrder K]

/-- Two draws select one element of a list, or there is nothing to select. -/
def SameDraw (tiles : List GridPosition) (first second : TrophyDraw K) : Prop :=
  tiles = [] ∨ first.element % tiles.length = second.element % tiles.length

namespace MatchScene
variable {data : Grid MazeTile} {manager : TileManager}

theorem trophy_scene_at_spawn (shows : manager.Shows data)
    (laid : WellLaid MAX_COLUMNS MAX_ROWS data) (frame : SceneFrame K) (scene : MatchScene K)
    (managed : scene.tileManager = some manager)
    (graph : scene.mazeGraph = some (Maze.graphOf data)) :
    scene.trophyScene frame = .ok (TrophyScene.atSpawn manager (Maze.graphOf data) frame) := by
  obtain ⟨playerTile, found, position⟩ :=
    get_tile_position shows laid frame Maze.playerSpawn (by decide)
  obtain ⟨opponentTile, found', position'⟩ :=
    get_tile_position shows laid frame Maze.opponentSpawn (by decide)
  simp only [Maze.playerSpawn] at found
  simp only [Maze.opponentSpawn] at found'
  simp only [trophyScene, managed, graph, unwrapped, run_ok, found, found', position, position',
    run_pure]
  rfl

/-- What an intact stream is decoded to: the rebuilt maze and the walks that were sent. -/
theorem decode_map_returns (platform : Platform K) (maze : Maze)
    (laid : WellLaid MAX_COLUMNS MAX_ROWS maze.data) (monsters : List (Monster K))
    (reads : Reads (platform.coder.encodeAs GameEncodingBuffer.codec
      (GameEncodingBuffer.make maze monsters))) (checksum : String) (draws : Draws) :
    ∃ (manager' : TileManager) (routes : List (Monster K)),
      manager'.Shows (Maze.rebuilt maze.data) ∧
      routes.map (·.actions) =
        monsters.map (fun monster => [routeOf platform.frame monster.path]) ∧
      (arrived checksum reads : MatchScene K).decodeMap platform draws =
        .ok ((arrived checksum reads).withMaze (Maze.graphOf (Maze.rebuilt maze.data)) manager'
          routes) := by
  have laid' := Maze.rebuilt_well_laid laid
  obtain ⟨received, decoded, receivedGraph⟩ :=
    Maze.from_buffer_returns laid (GameEncodingBuffer.make maze monsters) rfl
  obtain ⟨manager', made, shows'⟩ := TileManager.make_shows _ laid'.shape
  obtain ⟨routes, rest, got, walk⟩ := GameEncodingBuffer.get_monsters_walk shows' laid'
    platform.frame (monsters.map (·.path)) 0 draws
  have paths : (GameEncodingBuffer.make maze monsters).getMonsters manager' platform.frame draws =
      .ok (routes, rest) := by
    rw [GameEncodingBuffer.getMonsters, ← got]
    simp [GameEncodingBuffer.make, Function.comp_def]
  refine ⟨manager', routes, shows', by simpa [Function.comp_def] using walk, ?_⟩
  simp only [decodeMap, arrived, streamed_map_whole, Json.decode_encode_as, decoded, run_ok,
    receivedGraph, made, paths, run_pure]

variable [FloorRing K] [SquareRoot K] [IsStrictOrderedRing K]

/-- `setupGame` on the map of a maze: the trophy stands on the drawn candidate. -/
theorem setup_game_returns (shows : manager.Shows data)
    (laid : WellLaid MAX_COLUMNS MAX_ROWS data) (frame : SceneFrame K) (scene : MatchScene K)
    (managed : scene.tileManager = some manager)
    (graph : scene.mazeGraph = some (Maze.graphOf data)) (tiles : List GridPosition)
    (candidates : (TrophyScene.atSpawn manager (Maze.graphOf data) frame).candidates = .ok tiles)
    (draw : TrophyDraw K) :
    ∃ final, scene.setupGame frame draw = .ok final ∧ final.startUpdateFlag = true ∧
      final.mazeGraph = scene.mazeGraph ∧ final.tileManager = scene.tileManager ∧
      final.monsters = scene.sharedMonsters ∧
      final.trophy.map frame.indexFrom = some (drawnTile tiles draw.element) := by
  obtain ⟨tiles', candidates', nodup, onMap, placed⟩ :=
    TrophyScene.first_placement shows laid frame
  obtain rfl : tiles = tiles' := Except.ok.inj (candidates.symm.trans candidates')
  have drawnOn : OnMap (drawnTile tiles draw.element) := by
    rcases drawn_tile_mem tiles draw.element with listed | corner
    · exact onMap _ listed
    · rw [corner]
      decide
  have scened := trophy_scene_at_spawn shows laid frame scene managed graph
  refine ⟨scene.populated (TrophyScene.atSpawn manager (Maze.graphOf data) frame)
    (frame.tilePosition (drawnTile tiles draw.element)), ?_, rfl, rfl, rfl, rfl, ?_⟩
  · rw [setupGame, scened, run_ok, placed draw, run_ok, run_pure]
  · rw [populated, Option.map_some, index_from_tile frame _ drawnOn]

/-- The receiver's side of an intact transfer. -/
theorem receiver_sets_up (laid : WellLaid MAX_COLUMNS MAX_ROWS data) (shows : manager.Shows data)
    (platform : Platform K) (maze : Maze) (same : maze.data = data) (monsters : List (Monster K))
    (tiles : List GridPosition)
    (candidates : (TrophyScene.atSpawn manager (Maze.graphOf data) platform.frame).candidates =
      .ok tiles)
    (reads : Reads (platform.coder.encodeAs GameEncodingBuffer.codec
      (GameEncodingBuffer.make maze monsters))) (draws : SetupDraws K) :
    ∃ receiver, endEncountered platform draws (arrived (platform.md5
        (platform.coder.encodeAs GameEncodingBuffer.codec (GameEncodingBuffer.make maze monsters)))
        reads) = .ok receiver ∧ receiver.startUpdateFlag = true ∧
      receiver.mazeGraph = some (Maze.graphOf (Maze.rebuilt data)) ∧
      receiver.monsters.map (·.actions) =
        monsters.map (fun monster => [routeOf platform.frame monster.path]) ∧
      receiver.trophy.map platform.frame.indexFrom =
        some (drawnTile tiles draws.trophy.element) := by
  subst same
  have laid' := Maze.rebuilt_well_laid laid
  obtain ⟨manager', routes, shows', walk, opened⟩ := decode_map_returns platform maze laid monsters
    reads (platform.md5 (platform.coder.encodeAs GameEncodingBuffer.codec
      (GameEncodingBuffer.make maze monsters))) draws.monsters
  have candidates' := TrophyScene.candidates_same shows laid shows' laid'
    (fun source target => (Maze.rebuilt_joined laid source target).symm) platform.frame
  rw [candidates] at candidates'
  obtain ⟨receiver, ran, started, graph, -, walks, trophy⟩ := setup_game_returns shows' laid'
    platform.frame ((arrived (platform.md5 (platform.coder.encodeAs GameEncodingBuffer.codec
      (GameEncodingBuffer.make maze monsters))) reads).withMaze
        (Maze.graphOf (Maze.rebuilt maze.data)) manager' routes) rfl rfl tiles candidates'.symm
    draws.trophy
  refine ⟨receiver, ?_, started, graph, walks ▸ walk, trophy⟩
  rw [endEncountered, if_neg (by simp [arrived]), opened, run_ok]
  exact ran

/-- The generator's side: the map and the checksum go out, the game is set up. -/
theorem generator_sets_up (laid : WellLaid MAX_COLUMNS MAX_ROWS data) (shows : manager.Shows data)
    (platform : Platform K) (limit : Nat) (mazeDraws : Draws) (maze : Maze)
    (generated : Maze.generate MAX_COLUMNS MAX_ROWS limit mazeDraws = .ok maze)
    (graph : maze.graph = Maze.graphOf data) (made : TileManager.make maze.graph = .ok manager)
    (tiles : List GridPosition)
    (candidates : (TrophyScene.atSpawn manager (Maze.graphOf data) platform.frame).candidates =
      .ok tiles) (draws : SetupDraws K) :
    ∃ (monsters : List (Monster K)) (generator : MatchScene K),
      tapNext platform .intact limit mazeDraws draws {} =
        .ok (⟨some (platform.md5 (platform.coder.encodeAs GameEncodingBuffer.codec
            (GameEncodingBuffer.make maze monsters))),
          platform.coder.encodeAs GameEncodingBuffer.codec
            (GameEncodingBuffer.make maze monsters)⟩, generator) ∧
      generator.startUpdateFlag = true ∧
      generator.trophyScene platform.frame =
        .ok (TrophyScene.atSpawn manager (Maze.graphOf data) platform.frame) ∧
      generator.mazeGraph = some (Maze.graphOf data) ∧
      generator.monsters.map (·.actions) =
        monsters.map (fun monster => [routeOf platform.frame monster.path]) ∧
      generator.trophy.map platform.frame.indexFrom =
        some (drawnTile tiles draws.trophy.element) := by
  obtain ⟨monsters, rest, spawned, -, walk⟩ := Monster.generate_monsters_walk shows laid
    platform.frame (List.range' 1 Monster.MAX_MONSTERS) draws.monsters
  obtain ⟨generator, ran, started, graph', managed, walks, trophy⟩ := setup_game_returns shows laid
    platform.frame ((({} : MatchScene K)).withMaze (Maze.graphOf data) manager monsters) rfl rfl
    tiles candidates draws.trophy
  rw [graph] at made
  refine ⟨monsters, generator, ?_, started, ?_, graph', ?_, trophy⟩
  · simp only [tapNext, makeGameData, generated, run_ok, made, spawned, run_pure, graph, ran,
      Link.intact, if_true, Int.toNat_natCast, List.take_length]
  · exact trophy_scene_at_spawn shows laid platform.frame generator managed graph'
  · rw [walks]
    exact List.map_congr_left walk

/-- On one generated maze: both devices set up, and their worlds agree exactly
    when their draws do. -/
theorem worlds_agree_iff (platform : Platform K) (limit : Nat) (mazeDraws : Draws) (maze : Maze)
    (generated : Maze.generate MAX_COLUMNS MAX_ROWS limit mazeDraws = .ok maze)
    (scanned : Maze.Scanned maze.data) (graph : maze.graph = Maze.graphOf maze.data)
    (draws : SetupDraws K) :
    ∃ departure checksum generator placed tiles,
      tapNext platform .intact limit mazeDraws draws {} = .ok (departure, generator) ∧
      departure.checksum = some checksum ∧ generator.startUpdateFlag = true ∧
      generator.trophyScene platform.frame = .ok placed ∧ placed.candidates = .ok tiles ∧
      (∃ manager, placed = TrophyScene.atSpawn manager maze.graph platform.frame) ∧
      ∀ (reads : Reads departure.bytes) (draws' : SetupDraws K), ∃ receiver,
        endEncountered platform draws' (arrived checksum reads) = .ok receiver ∧
        receiver.startUpdateFlag = true ∧
        (SameWorld platform.frame generator receiver ↔
          SameDraw tiles draws.trophy draws'.trophy) := by
  obtain ⟨manager, made, shows⟩ := TileManager.make_shows maze.data scanned.1.shape
  rw [← graph] at made
  obtain ⟨tiles, candidates, nodup, -⟩ :=
    TrophyScene.first_placement shows scanned.1 platform.frame
  obtain ⟨monsters, generator, tapped, started, scened, graph', walks, trophy⟩ := generator_sets_up
    scanned.1 shows platform limit mazeDraws maze generated graph made tiles candidates draws
  refine ⟨_, _, generator, _, tiles, tapped, rfl, started, scened, candidates,
    ⟨manager, by rw [graph]⟩, ?_⟩
  intro reads draws'
  obtain ⟨receiver, ran, started', graph'', walks', trophy'⟩ := receiver_sets_up scanned.1 shows
    platform maze rfl monsters tiles candidates reads draws'
  refine ⟨receiver, ran, started', ?_⟩
  have tile := drawn_tile_same tiles nodup draws.trophy.element draws'.trophy.element
  constructor
  · intro agreed
    have same := agreed.trophy
    rw [trophy, trophy'] at same
    exact tile.mp (Option.some.inj same)
  · intro drawn
    refine ⟨⟨_, _, graph', graph'', rebuilt_same_graph maze.data scanned.1⟩, ?_, ?_⟩
    · rw [walks, walks']
    · rw [trophy, trophy', tile.mpr drawn]

end MatchScene

/-- After an intact transfer both devices have set up their game, and they share
    the whole world exactly when the two independent draws fall on one candidate. -/
theorem set_up_worlds_agree [FloorRing K] [SquareRoot K] [IsStrictOrderedRing K]
    (platform : Platform K) (extra : Nat) (mazeDraws : Draws) (draws : SetupDraws K) :
    ∃ departure checksum generator placed tiles,
      MatchScene.tapNext platform .intact (Maze.roundBound MAX_COLUMNS MAX_ROWS + extra) mazeDraws
        draws {} = .ok (departure, generator) ∧
      departure.checksum = some checksum ∧ generator.startUpdateFlag = true ∧
      generator.trophyScene platform.frame = .ok placed ∧ placed.candidates = .ok tiles ∧
      ∀ (reads : Reads departure.bytes) (draws' : SetupDraws K), ∃ receiver,
        MatchScene.endEncountered platform draws' (MatchScene.arrived checksum reads) =
          .ok receiver ∧
        receiver.startUpdateFlag = true ∧
        (SameWorld platform.frame generator receiver ↔
          SameDraw tiles draws.trophy draws'.trophy) := by
  obtain ⟨maze, generated, scanned, graph⟩ := Maze.generate_returns extra mazeDraws
  obtain ⟨departure, checksum, generator, placed, tiles, tapped, sent, started, scened, candidates,
    -, received⟩ :=
      MatchScene.worlds_agree_iff platform _ mazeDraws maze generated scanned graph draws
  exact ⟨departure, checksum, generator, placed, tiles, tapped, sent, started, scened, candidates,
    received⟩

end Shared

/-- Every draw takes the first choice. -/
def firstChoices : Draws := fun _ => 0

noncomputable def realPlatform : Platform ℝ :=
  ⟨Json.utf8, fun _ => "", ⟨0, 0, 37, 21, by norm_num, by norm_num⟩⟩

noncomputable def elementDraw (element : Nat) : SetupDraws ℝ :=
  ⟨firstChoices, ⟨element, 0, le_rfl, zero_lt_one⟩⟩

theorem set_up_worlds_agree_real : ∃ departure checksum generator placed tiles,
    MatchScene.tapNext realPlatform .intact (Maze.roundBound MAX_COLUMNS MAX_ROWS + 0) firstChoices
      (elementDraw 0) {} = .ok (departure, generator) ∧
    departure.checksum = some checksum ∧ generator.startUpdateFlag = true ∧
    generator.trophyScene realPlatform.frame = .ok placed ∧ placed.candidates = .ok tiles ∧
    ∀ (reads : Reads departure.bytes) (draws' : SetupDraws ℝ), ∃ receiver,
      MatchScene.endEncountered realPlatform draws' (MatchScene.arrived checksum reads) =
        .ok receiver ∧
      receiver.startUpdateFlag = true ∧
      (SameWorld realPlatform.frame generator receiver ↔
        SameDraw tiles (elementDraw 0).trophy draws'.trophy) :=
  set_up_worlds_agree realPlatform 0 firstChoices (elementDraw 0)

def firstChoiceMaze : Except Fault Maze :=
  Maze.generate MAX_COLUMNS MAX_ROWS (Maze.roundBound MAX_COLUMNS MAX_ROWS) firstChoices

/-! The floor of that maze is one closed walk of 360 cells: the bottom row, the
last column and a serpentine back through all the others. -/

/-- The place of a cell on the walk, counted from the tile of the player. -/
def walkIndex (place : GridPosition) : Nat :=
  let column := place.column.toNat
  let row := place.row.toNat
  let lane := (36 - column) / 2
  if row = 19 then column - 1
  else if column = 35 then 53 - row
  else if column % 2 = 0 then 35 + 18 * lane
  else if lane % 2 = 1 then 35 + 18 * lane + row
  else 53 + 18 * lane - row

/-- The length of the shorter way round. -/
def walkLevel (source place : GridPosition) : Nat :=
  let gap := walkIndex place - walkIndex source + (walkIndex source - walkIndex place)
  min gap (360 - gap)

/-- At every floor tile the levels are those of a walk from the source. -/
def walkLevels (data : Grid MazeTile) (source : GridPosition) : Bool :=
  data.flatten.all fun tile =>
    tile.cellType = .Wall ||
      tile.node.connectedNodes.all (fun next =>
          walkLevel source next ≤ walkLevel source tile.node.gridPosition + 1) &&
        (tile.node.gridPosition = source || tile.node.connectedNodes.any fun before =>
          walkLevel source tile.node.gridPosition = walkLevel source before + 1)

theorem walk_levels_certify {data : Grid MazeTile} (laid : WellLaid MAX_COLUMNS MAX_ROWS data)
    (source : GridPosition) (checked : walkLevels data source = true) :
    BreadthFirst.Levelled (Joined data) source (IsSpace data) (walkLevel source) := by
  have atFloor (place : GridPosition) (floor : IsSpace data place) :
      (∀ next ∈ links data place, walkLevel source next ≤ walkLevel source place + 1) ∧
        (place = source ∨
          ∃ before ∈ links data place, walkLevel source place = walkLevel source before + 1) := by
    obtain ⟨tile, hit, space⟩ := floor
    have listed : tile ∈ data.flatten :=
      (Grid.mem_flatten_iff data tile).mpr ⟨place.row, place.column, hit⟩
    have here := List.all_eq_true.mp checked tile listed
    have wires : links data place = tile.node.connectedNodes := by rw [links, hit]
    simpa [space, laid.placed place tile hit, wires] using here
  refine ⟨by simp [walkLevel], fun here next edge => ?_, fun vertex floor => ?_⟩
  · exact (atFloor here ((laid.joined here next).mp edge).1).1 next edge
  · refine (atFloor vertex floor).2.imp_right ?_
    rintro ⟨before, wired, above⟩
    have edge := (joined_symm laid vertex before).mp wired
    exact ⟨before, ((laid.joined before vertex).mp edge).1, edge, above⟩

theorem first_choice_walk :
    (firstChoiceMaze.toOption.any fun maze =>
      walkLevels maze.data Maze.playerSpawn && walkLevels maze.data Maze.opponentSpawn &&
        Maze.isSpace maze.data ⟨17, 9⟩ && Maze.isSpace maze.data ⟨17, 10⟩) = true := by
  decide +kernel

/-- The two tiles half way round between the spawn tiles are fair. -/
theorem half_way_fair {maze : Maze} (generated : firstChoiceMaze = .ok maze)
    (laid : WellLaid MAX_COLUMNS MAX_ROWS maze.data) :
    FairPlace maze.data Maze.playerSpawn Maze.opponentSpawn ⟨17, 9⟩ ∧
      FairPlace maze.data Maze.playerSpawn Maze.opponentSpawn ⟨17, 10⟩ := by
  have walk := first_choice_walk
  rw [generated] at walk
  simp only [Except.toOption, Option.any_some, Bool.and_eq_true, Maze.is_space_iff] at walk
  obtain ⟨⟨⟨player, opponent⟩, upper⟩, lower⟩ := walk
  have far (source place : GridPosition) (checked : walkLevels maze.data source = true)
      (floor : IsSpace maze.data place) :=
    BreadthFirst.levelled_distance (walk_levels_certify laid source checked) place floor
  exact ⟨⟨upper, _, _, far _ _ player upper, far _ _ opponent upper, by decide⟩,
    ⟨lower, _, _, far _ _ player lower, far _ _ opponent lower, by decide⟩⟩

/-- Two fair places are two candidates at least. -/
theorem two_candidates {K : Type} [Field K] [LinearOrder K] [FloorRing K] {data : Grid MazeTile}
    (laid : WellLaid MAX_COLUMNS MAX_ROWS data) (scene : TrophyScene K)
    (graph : scene.mazeGraph = Maze.graphOf data) (tiles : List GridPosition)
    (candidates : scene.candidates = .ok tiles) (first second : GridPosition)
    (apart : first ≠ second)
    (fair : FairPlace data (scene.frame.indexFrom scene.player1)
      (scene.frame.indexFrom scene.opponent) first)
    (fair' : FairPlace data (scene.frame.indexFrom scene.player1)
      (scene.frame.indexFrom scene.opponent) second) : 2 ≤ tiles.length := by
  obtain ⟨viable, found, fairOnes⟩ := TrophyScene.viable_tile_fair laid scene graph
  have one := (fairOnes first).mpr fair
  have other := (fairOnes second).mpr fair'
  have filled : viable.isEmpty = false := by
    rw [List.isEmpty_eq_false_iff]
    exact List.ne_nil_of_mem one
  rw [TrophyScene.candidates, found, run_ok, run_pure, filled] at candidates
  obtain rfl := Except.ok.inj candidates
  rcases viable with _ | ⟨head, _ | ⟨next, rest⟩⟩
  · cases one
  · exact absurd ((List.mem_singleton.mp one).trans (List.mem_singleton.mp other).symm) apart
  · simp

/-- A read for every byte. -/
def Reads.single (bytes : Json.Bytes) : Reads bytes where
  chunks := bytes.map fun byte => [byte]
  sizes := by
    intro chunk member
    obtain ⟨byte, -, rfl⟩ := List.mem_map.mp member
    exact ⟨Nat.le_refl 1, show 1 ≤ MAX_DATA_SIZE by decide⟩
  whole := by simp [← List.flatMap_def]

/-- In the maze of the first choices two devices that draw the elements 0 and 1
    show the trophy on different tiles. -/
theorem set_up_worlds_differ : ¬ ∀ (platform : Platform ℝ) (mazeDraws : Draws)
    (draws draws' : SetupDraws ℝ) (departure : Departure) (checksum : String)
    (generator receiver : MatchScene ℝ) (reads : Reads departure.bytes),
    MatchScene.tapNext platform .intact (Maze.roundBound MAX_COLUMNS MAX_ROWS) mazeDraws draws {} =
      .ok (departure, generator) → departure.checksum = some checksum →
    MatchScene.endEncountered platform draws' (MatchScene.arrived checksum reads) = .ok receiver →
    SameWorld platform.frame generator receiver := by
  intro always
  obtain ⟨maze, generated, scanned, graph⟩ := Maze.generate_returns 0 firstChoices
  rw [Nat.add_zero] at generated
  obtain ⟨departure, checksum, generator, placed, tiles, tapped, sent, -, -, candidates,
    ⟨manager, rfl⟩, received⟩ := MatchScene.worlds_agree_iff realPlatform _ firstChoices maze
      generated scanned graph (elementDraw 0)
  obtain ⟨receiver, ran, -, agree⟩ := received (Reads.single departure.bytes) (elementDraw 1)
  have drawn := agree.mp (always realPlatform firstChoices (elementDraw 0) (elementDraw 1)
    departure checksum generator receiver _ tapped sent ran)
  have many : 2 ≤ tiles.length := by
    obtain ⟨upper, lower⟩ := half_way_fair generated scanned.1
    have player := index_from_tile realPlatform.frame Maze.playerSpawn (by decide)
    have opponent := index_from_tile realPlatform.frame Maze.opponentSpawn (by decide)
    rw [← player, ← opponent] at upper lower
    exact two_candidates scanned.1 (TrophyScene.atSpawn manager maze.graph realPlatform.frame)
      graph tiles candidates ⟨17, 9⟩ ⟨17, 10⟩ (by decide) upper lower
  rcases drawn with empty | same
  · simp [empty] at many
  · simp only [elementDraw] at same
    rw [Nat.mod_eq_of_lt (by omega), Nat.mod_eq_of_lt (by omega)] at same
    cases same

end RelicRace
