import RelicRace.Monster.FirstSteps
import RelicRace.Transfer.Decoding

/-!
The buffers a receiver can play on. `Maze(from:)` compares letters, `TileManager`
takes the first 777 nodes as the map, and every monster of `getMonsters` is sent
off at random before it is stopped and put on its path. Each of these can leave
the map, with rows of other lengths or with a path of other places.
-/

namespace RelicRace
open Library Patrol

namespace GameEncodingBuffer
variable {K : Type} [Field K] [LinearOrder K]

/-- The tile of the node that the decoder leaves at a place. -/
def tileOf (tiles : Grid String) (place : GridPosition) : TileNode :=
  TileNode.make ⟨place, Maze.outgoing tiles place⟩

/-- The places whose nodes become the tiles of the map. -/
def mapPlaces (tiles : Grid String) : List GridPosition :=
  (Maze.letterPlaces tiles).flatten.take (MAX_ROWS * MAX_COLUMNS)

/-- The places that meet the condition of a monster of the number 0. -/
def starts (frame : SceneFrame K) (tiles : Grid String) : List GridPosition :=
  (mapPlaces tiles).filter fun place => Monster.startCondition frame 0 (tileOf tiles place)

/-- Where the monster may be sent off: without a start on the node of `tiles[1][1]`. -/
def MayStart (frame : SceneFrame K) (tiles : Grid String) (place : GridPosition) : Prop :=
  place ∈ starts frame tiles ∨
    starts frame tiles = [] ∧ (mapPlaces tiles)[MAX_COLUMNS + 1]? = some place

/-- Wherever the monster may be sent off, its arms of five steps stay on the map. -/
def MonsterStays (frame : SceneFrame K) (tiles : Grid String) : Prop :=
  ∀ start, MayStart frame tiles start → ∀ arm, Arm (Maze.outgoing tiles) start arm →
    arm.length ≤ 6 → ∀ place ∈ arm, OnMap place

/-- What the letters and the paths of a buffer have to meet. -/
structure Playable (frame : SceneFrame K) (buffer : GameEncodingBuffer) : Prop where
  readable : Maze.Readable buffer.tiles
  enough : buffer.tiles.flatten = [] ∨ MAX_ROWS * MAX_COLUMNS ≤ buffer.tiles.flatten.length
  paths : ∀ path ∈ buffer.paths, ∀ point ∈ path, OnMap point
  monsters : buffer.paths ≠ [] →
    buffer.tiles.flatten ≠ [] ∧ MonsterStays frame buffer.tiles

/-! ### The tiles of a decoded map -/

theorem letter_places_length (tiles : Grid String) :
    (Maze.letterPlaces tiles).flatten.length = tiles.flatten.length := by
  rw [List.length_flatten, List.length_flatten]
  congr 1
  apply List.ext_getElem
  · simp [Maze.letterPlaces]
  · intro row within within'
    rw [List.length_map] at within'
    simp [Maze.letterPlaces, within']

theorem decoded_nodes_flatten (tiles : Grid String) : (Maze.decodedNodes tiles).flatten =
    (Maze.letterPlaces tiles).flatten.map fun place => ⟨place, Maze.outgoing tiles place⟩ := by
  rw [Maze.decodedNodes, List.map_flatten]

theorem decoded_length (tiles : Grid String) :
    (Maze.decodedNodes tiles).flatten.length = tiles.flatten.length := by
  rw [decoded_nodes_flatten, List.length_map, letter_places_length]

/-- A manager whose tiles are those of the decoded nodes. -/
structure Decoded (manager : TileManager) (tiles : Grid String) : Prop where
  graph : manager.graph = ⟨(Maze.decodedNodes tiles).flatten⟩
  shape : manager.tiles.Shape MAX_ROWS MAX_COLUMNS
  tiles : manager.tiles.flatten = (mapPlaces tiles).map (tileOf tiles)

section Decoded
variable {manager : TileManager} {tiles : Grid String}

theorem map_places_length (enough : MAX_ROWS * MAX_COLUMNS ≤ tiles.flatten.length) :
    (mapPlaces tiles).length = MAX_ROWS * MAX_COLUMNS := by
  rw [mapPlaces, List.length_take, letter_places_length]
  omega

/-- With enough letters the manager makes its tiles of the decoded nodes. -/
theorem decoded_made (enough : MAX_ROWS * MAX_COLUMNS ≤ tiles.flatten.length) :
    ∃ manager, TileManager.make ⟨(Maze.decodedNodes tiles).flatten⟩ = .ok manager ∧
      Decoded manager tiles := by
  obtain ⟨manager, made, graph, shape, cells⟩ := TileManager.make_tiles
    ⟨(Maze.decodedNodes tiles).flatten⟩ (by rw [decoded_length]; exact enough)
  refine ⟨manager, made, graph, shape, ?_⟩
  -- The tile of an index against the node of the same index.
  apply List.ext_getElem?
  intro index
  by_cases within : index < MAX_ROWS * MAX_COLUMNS
  · have reach : index % MAX_COLUMNS < MAX_COLUMNS := Nat.mod_lt _ (by decide)
    have split : index / MAX_COLUMNS * MAX_COLUMNS + index % MAX_COLUMNS = index :=
      Nat.div_add_mod' _ _
    have cell := Grid.flatten_at manager.tiles _ _ shape (index / MAX_COLUMNS) _ reach
    rw [cells _ _ ((Nat.div_lt_iff_lt_mul (by decide)).mpr within) reach, split] at cell
    rw [cell, decoded_nodes_flatten, mapPlaces, List.getElem?_map, List.getElem?_map,
      List.getElem?_take_of_lt within, Option.map_map]
    rfl
  · rw [List.getElem?_eq_none, List.getElem?_eq_none]
    · rw [List.length_map, map_places_length enough]
      omega
    · rw [Grid.flatten_length _ _ _ shape]
      omega

/-- A node is connected as its letter tells. -/
theorem decoded_links (decoded : Decoded manager tiles) :
    manager.linksAt = Maze.outgoing tiles := by
  funext place
  apply TileManager.links_at_eq
  · intro node member
    rw [decoded.graph] at member
    exact ((Maze.mem_decoded_iff node).mp member).2
  · intro some
    rw [decoded.graph]
    obtain ⟨other, member⟩ := List.exists_mem_of_ne_nil _ some
    obtain ⟨node, listed, same, -⟩ := (Maze.decoded_linked_iff place other).mpr member
    exact ⟨node, listed, same⟩

theorem decoded_get_tile_iff (decoded : Decoded manager tiles) (place : GridPosition) :
    (∃ tile, manager.getTile place.row place.column = .ok tile) ↔ OnMap place := by
  simp only [TileManager.getTile, indexed_ok_iff]
  exact Grid.at_some_iff _ _ _ decoded.shape _ _

/-! ### Where the monster is sent off -/

theorem decoded_spaces (decoded : Decoded manager tiles) (frame : SceneFrame K) :
    manager.spaces (Monster.startCondition frame 0) = (starts frame tiles).map (tileOf tiles) := by
  rw [TileManager.spaces, decoded.tiles, List.filter_map, starts]
  congr 1
  refine List.filter_congr fun place _ => ?_
  -- More than two connections make a floor tile.
  simp only [Function.comp_apply, Bool.and_eq_right_iff_imp]
  intro meets
  rw [Monster.startCondition, Bool.and_eq_true, decide_eq_true_eq] at meets
  have many : 2 < (Maze.outgoing tiles place).length := meets.1
  have space : (tileOf tiles place).typeName = "space" := if_pos (Nat.zero_lt_of_lt many)
  exact decide_eq_true space

/-- Without a start the tile is `tiles[1][1]`. -/
theorem random_tile_corner (decoded : Decoded manager tiles) (frame : SceneFrame K)
    (none : starts frame tiles = []) {place : GridPosition}
    (corner : (mapPlaces tiles)[MAX_COLUMNS + 1]? = some place) (draw : Nat) :
    manager.getRandomTile (Monster.startCondition frame 0) draw = .ok (tileOf tiles place) := by
  have cell := Grid.flatten_at manager.tiles _ _ decoded.shape 1 1 (by decide)
  rw [Nat.one_mul, decoded.tiles, List.getElem?_map, corner, Option.map_some] at cell
  rw [TileManager.getRandomTile, decoded_spaces decoded frame, none, List.map_nil,
    List.getElem?_nil, TileManager.getTile]
  exact congrArg indexed cell.symm

/-- A draw chooses a tile where the monster may start. -/
theorem random_start (decoded : Decoded manager tiles) (frame : SceneFrame K)
    (enough : MAX_ROWS * MAX_COLUMNS ≤ tiles.flatten.length) (draw : Nat) :
    ∃ place, MayStart frame tiles place ∧
      manager.getRandomTile (Monster.startCondition frame 0) draw = .ok (tileOf tiles place) := by
  by_cases none : starts frame tiles = []
  · have within : MAX_COLUMNS + 1 < (mapPlaces tiles).length := by
      rw [map_places_length enough]
      decide
    exact ⟨_, Or.inr ⟨none, List.getElem?_eq_getElem within⟩,
      random_tile_corner decoded frame none (List.getElem?_eq_getElem within) draw⟩
  · have index := Nat.mod_lt draw (List.length_pos_iff.mpr none)
    refine ⟨_, Or.inl (List.getElem_mem index), ?_⟩
    rw [TileManager.getRandomTile, decoded_spaces decoded frame, List.length_map,
      List.getElem?_map, List.getElem?_eq_getElem index, Option.map_some]

/-- For every place where the monster may start there is a draw. -/
theorem start_drawn (decoded : Decoded manager tiles) (frame : SceneFrame K) {place : GridPosition}
    (may : MayStart frame tiles place) :
    ∃ draw, manager.getRandomTile (Monster.startCondition frame 0) draw =
      .ok (tileOf tiles place) := by
  rcases may with listed | ⟨none, corner⟩
  · obtain ⟨index, within, rfl⟩ := List.getElem_of_mem listed
    refine ⟨index, ?_⟩
    rw [TileManager.getRandomTile, decoded_spaces decoded frame, List.length_map,
      Nat.mod_eq_of_lt within, List.getElem?_map, List.getElem?_eq_getElem within, Option.map_some]
  · exact ⟨0, random_tile_corner decoded frame none corner 0⟩

/-! ### Sending it off -/

theorem store_step_iff (decoded : Decoded manager tiles) (frame : SceneFrame K)
    (state : List MapPlace × List (CGPoint K)) (node : GridPosition) :
    (∃ next, Monster.storeStep manager frame state node = .ok next) ↔ OnMap node := by
  simp only [Monster.storeStep, run_bind_iff]
  constructor
  · rintro ⟨next, tile, found, -⟩
    exact (decoded_get_tile_iff decoded node).mp ⟨tile, found⟩
  · intro onMap
    obtain ⟨tile, found⟩ := (decoded_get_tile_iff decoded node).mpr onMap
    exact ⟨_, tile, found, by rw [dif_pos onMap, run_pure]⟩

/-- The monster that is sent off from a tile walks the whole path on the map. -/
theorem spawn_along (decoded : Decoded manager tiles) (frame : SceneFrame K) (draws : Draws)
    {start : GridPosition} {path : List GridPosition} {draws' : Draws}
    (drawn : manager.getRandomTile (Monster.startCondition frame 0) (draws 0) =
      .ok (tileOf tiles start))
    (along : fullPath (Maze.outgoing tiles) start draws.rest = .ok (path, draws')) :
    (∃ result, Monster.spawn manager frame 0 draws = .ok result) ↔ ∀ place ∈ path, OnMap place := by
  have stores := Loops.listed_returns_iff (Monster.storeStep manager frame) (fun _ => True) OnMap
    path (fun _ _ _ _ _ _ => trivial)
    (fun node _ state _ => store_step_iff decoded frame state node) ([], []) trivial
  rw [← decoded_links decoded] at along
  simp only [Monster.spawn, Monster.generatePath, Monster.setRandomPosition, drawn, run_ok,
    run_pure, tileOf, TileNode.make, along, run_bind_iff, ← stores]
  constructor
  · rintro ⟨result, generated, ⟨state, stored, -⟩, -⟩
    exact ⟨state, stored⟩
  · rintro ⟨state, stored⟩
    exact ⟨_, _, ⟨state, stored, rfl⟩, rfl⟩

/-- The monster is sent off whatever is drawn exactly when its arms stay on the map. -/
theorem monster_stays_iff (decoded : Decoded manager tiles) (frame : SceneFrame K)
    (enough : MAX_ROWS * MAX_COLUMNS ≤ tiles.flatten.length) :
    (∀ draws, ∃ result, Monster.spawn manager frame 0 draws = .ok result) ↔
      MonsterStays frame tiles := by
  constructor
  · intro spawns start may arm isArm short place member
    obtain ⟨draw, drawn⟩ := start_drawn decoded frame may
    obtain ⟨choose, draws⟩ := roam_draws (Maze.outgoing tiles) start isArm
    obtain ⟨path1, path2, draws', arms, along⟩ :=
      full_path_arms (Maze.outgoing tiles) start choose
    have stays := (spawn_along decoded frame (Nat.rec draw fun index _ => choose index) drawn
      along).mp (spawns _)
    -- The first path goes along the arm, at least to its end.
    obtain ⟨last, rfl, ends⟩ := (drawn_arms_short arms).1
    have along : arm <+: roam (Maze.outgoing tiles) start choose last := by
      rcases ends with rfl | cornered
      · exact draws 5 short
      · exact cornered_prefix _ _ _ cornered draws
    exact stays place ((mem_round_trip _ _ place).mpr (Or.inl (along.subset member)))
  · intro stays draws
    obtain ⟨start, may, drawn⟩ := random_start decoded frame enough (draws 0)
    obtain ⟨path1, path2, draws', arms, along⟩ :=
      full_path_arms (Maze.outgoing tiles) start draws.rest
    obtain ⟨-, short1, short2⟩ := drawn_arms_short arms
    refine (spawn_along decoded frame draws drawn along).mpr fun place member => ?_
    rcases (mem_round_trip path1 path2 place).mp member with one | two
    · exact stays start may path1 arms.one short1 place one
    · exact stays start may path2 arms.two short2 place two

/-! ### All monsters -/

theorem get_monster_iff (decoded : Decoded manager tiles) (frame : SceneFrame K)
    (i : Nat) (path : List GridPosition) (draws : Draws) :
    (∃ result, getMonster manager frame i path draws = .ok result) ↔
      (∃ result, Monster.spawn manager frame 0 draws = .ok result) ∧
        ∀ point ∈ path, OnMap point := by
  have walks := Loops.map_returns_iff (fun point : GridPosition =>
    manager.getTile point.row point.column) path
  simp only [decoded_get_tile_iff decoded] at walks
  simp only [getMonster, run_bind_iff, ← walks]
  constructor
  · rintro ⟨result, ⟨monster, rest⟩, spawned, places, read, -⟩
    exact ⟨⟨_, spawned⟩, places, read⟩
  · rintro ⟨⟨⟨monster, rest⟩, spawned⟩, places, read⟩
    exact ⟨_, _, spawned, places, read, rfl⟩

/-- Where every monster can be sent off, all of them are there exactly when their
    paths stay on the map. -/
theorem get_monsters_iff (decoded : Decoded manager tiles) (frame : SceneFrame K)
    (spawns : ∀ draws, ∃ result, Monster.spawn manager frame 0 draws = .ok result)
    (i : Nat) (paths : List (List GridPosition)) (draws : Draws) :
    (∃ result, getMonstersFrom manager frame i paths draws = .ok result) ↔
      ∀ path ∈ paths, ∀ point ∈ path, OnMap point := by
  induction paths generalizing i draws with
  | nil => exact iff_of_true ⟨_, rfl⟩ (by simp)
  | cons path rest ih =>
      have first := get_monster_iff decoded frame i path draws
      simp only [getMonstersFrom, run_bind_iff, List.forall_mem_cons]
      constructor
      · rintro ⟨result, ⟨monster, draws'⟩, got, others, ran, -⟩
        exact ⟨(first.mp ⟨_, got⟩).2, (ih (i + 1) draws').mp ⟨others, ran⟩⟩
      · rintro ⟨here, there⟩
        obtain ⟨⟨monster, draws'⟩, got⟩ := first.mpr ⟨spawns draws, here⟩
        obtain ⟨others, ran⟩ := (ih (i + 1) draws').mpr there
        exact ⟨_, _, got, others, ran, rfl⟩

/-- The monsters of a buffer are there whatever is drawn. -/
theorem all_monsters_iff (decoded : Decoded manager tiles) (frame : SceneFrame K)
    (enough : MAX_ROWS * MAX_COLUMNS ≤ tiles.flatten.length) (paths : List (List GridPosition)) :
    (∀ draws, ∃ result, getMonstersFrom manager frame 0 paths draws = .ok result) ↔
      (∀ path ∈ paths, ∀ point ∈ path, OnMap point) ∧ (paths ≠ [] → MonsterStays frame tiles) := by
  rw [← monster_stays_iff decoded frame enough]
  constructor
  · intro got
    have spawns (some : paths ≠ []) (draws : Draws) :
        ∃ result, Monster.spawn manager frame 0 draws = .ok result := by
      obtain ⟨path, rest, rfl⟩ := List.exists_cons_of_ne_nil some
      obtain ⟨result, ran⟩ := got draws
      obtain ⟨first, ran, -⟩ := (run_bind_iff _ _ _).mp ran
      exact ((get_monster_iff decoded frame 0 path draws).mp ⟨first, ran⟩).1
    refine ⟨?_, spawns⟩
    by_cases none : paths = []
    · simp [none]
    · exact (get_monsters_iff decoded frame (spawns none) 0 paths fun _ => 0).mp (got _)
  · rintro ⟨walks, spawns⟩ draws
    by_cases none : paths = []
    · exact ⟨_, by rw [none, getMonstersFrom]⟩
    · exact (get_monsters_iff decoded frame (spawns none) 0 paths draws).mpr walks

end Decoded

/-- The receiver builds its game from a buffer. -/
def Builds (frame : SceneFrame K) (buffer : GameEncodingBuffer) (draws : Draws) : Prop :=
  ∃ maze manager result, Maze.fromBuffer buffer = .ok maze ∧
    TileManager.make maze.graph = .ok manager ∧
    buffer.getMonsters manager frame draws = .ok result

/-- Without letters there are no tiles, and the first monster reads `tiles[1][1]`. -/
theorem no_letters_builds_iff (frame : SceneFrame K) (buffer : GameEncodingBuffer) (draws : Draws)
    (none : buffer.tiles.flatten = []) : Builds frame buffer draws ↔ buffer.paths = [] := by
  have bare (place : GridPosition) :
      ¬ ∃ letter, buffer.tiles.at? place.row place.column = some letter := by
    rintro ⟨letter, hit⟩
    have member := (Grid.mem_flatten_iff buffer.tiles letter).mpr ⟨_, _, hit⟩
    simp [none] at member
  obtain ⟨maze, read, graph⟩ := Maze.from_buffer_nodes buffer fun place floor =>
    absurd ⟨_, floor⟩ (bare place)
  have empty : maze.graph.nodes = [] := by
    rw [graph]
    refine List.eq_nil_iff_forall_not_mem.mpr fun node member => ?_
    exact bare _ ((Maze.mem_decoded_iff node).mp member).1
  have made : TileManager.make maze.graph = .ok ⟨maze.graph, []⟩ := by
    rw [TileManager.make, if_pos (by simpa using empty)]
  rw [Builds]
  constructor
  · rintro ⟨maze', manager, result, read', made', got⟩
    obtain rfl := Except.ok.inj (read.symm.trans read')
    obtain rfl := Except.ok.inj (made.symm.trans made')
    cases paths : buffer.paths with
    | nil => rfl
    | cons path rest =>
        rw [getMonsters, paths, getMonstersFrom, run_bind_iff] at got
        obtain ⟨_, got, -⟩ := got
        rw [getMonster, run_bind_iff] at got
        obtain ⟨_, got, -⟩ := got
        cases got
  · intro paths
    exact ⟨maze, _, _, read, made, by rw [getMonsters, paths, getMonstersFrom]⟩

/-- With letters the game is built exactly when all three steps return. -/
theorem letters_build_iff (frame : SceneFrame K) (buffer : GameEncodingBuffer)
    (some : buffer.tiles.flatten ≠ []) :
    (∀ draws, Builds frame buffer draws) ↔ Maze.Readable buffer.tiles ∧
      MAX_ROWS * MAX_COLUMNS ≤ buffer.tiles.flatten.length ∧
      (∀ path ∈ buffer.paths, ∀ point ∈ path, OnMap point) ∧
      (buffer.paths ≠ [] → MonsterStays frame buffer.tiles) := by
  have length := decoded_length buffer.tiles
  constructor
  · intro builds
    obtain ⟨maze, manager, -, read, made, -⟩ := builds fun _ => 0
    have readable := (Maze.from_buffer_returns_iff buffer).mp ⟨maze, read⟩
    obtain ⟨maze', read', graph⟩ := Maze.from_buffer_nodes buffer readable
    obtain rfl := Except.ok.inj (read.symm.trans read')
    -- The nodes are as many as the letters, and there are some.
    have enough : MAX_ROWS * MAX_COLUMNS ≤ buffer.tiles.flatten.length := by
      rcases (TileManager.make_returns_iff maze.graph).mp ⟨manager, made⟩ with none | enough
      · rw [graph] at none
        rw [List.length_eq_zero_iff.mpr none, eq_comm, List.length_eq_zero_iff] at length
        exact absurd length some
      · rwa [graph, length] at enough
    obtain ⟨manager', made', decoded⟩ := decoded_made enough
    refine ⟨readable, enough, (all_monsters_iff decoded frame enough _).mp fun draws => ?_⟩
    obtain ⟨maze', manager, result, read', made, got⟩ := builds draws
    obtain rfl := Except.ok.inj (read.symm.trans read')
    rw [graph] at made
    obtain rfl := Except.ok.inj (made.symm.trans made')
    exact ⟨result, got⟩
  · rintro ⟨readable, enough, monsters⟩ draws
    obtain ⟨maze, read, graph⟩ := Maze.from_buffer_nodes buffer readable
    obtain ⟨manager, made, decoded⟩ := decoded_made enough
    obtain ⟨result, got⟩ := (all_monsters_iff decoded frame enough _).mpr monsters draws
    exact ⟨maze, manager, result, read, by rw [graph, made], got⟩

/-- A game is built whatever is drawn exactly when the letters and the paths allow it. -/
theorem builds_iff (frame : SceneFrame K) (buffer : GameEncodingBuffer) :
    (∀ draws, Builds frame buffer draws) ↔ Playable frame buffer := by
  by_cases none : buffer.tiles.flatten = []
  · simp only [no_letters_builds_iff frame buffer _ none, forall_const]
    constructor
    · intro paths
      refine ⟨fun place floor => ?_, Or.inl none, by simp [paths], fun some => absurd paths some⟩
      have member := (Grid.mem_flatten_iff buffer.tiles "s").mpr ⟨_, _, floor⟩
      simp [none] at member
    · intro playable
      by_contra some
      exact (playable.monsters some).1 none
  · rw [letters_build_iff frame buffer none]
    constructor
    · rintro ⟨readable, enough, paths, monsters⟩
      exact ⟨readable, Or.inr enough, paths, fun some => ⟨none, monsters some⟩⟩
    · rintro ⟨readable, enough, paths, monsters⟩
      exact ⟨readable, enough.resolve_left none, paths, fun some => (monsters some).2⟩

/-- A buffer with the letters of a map can be played on exactly when its floor is
    shielded and its paths stay on the map. -/
theorem map_playable_iff (frame : SceneFrame K) (buffer : GameEncodingBuffer)
    (shape : buffer.tiles.Shape MAX_ROWS MAX_COLUMNS) :
    Playable frame buffer ↔ Maze.Shielded buffer.tiles ∧
      ∀ path ∈ buffer.paths, ∀ point ∈ path, OnMap point := by
  have length := Grid.flatten_length buffer.tiles _ _ shape
  have filled : buffer.tiles.flatten ≠ [] := by
    intro none
    rw [none, List.length_nil] at length
    exact absurd length (by decide)
  have placed (place : GridPosition) (member : place ∈ (Maze.letterPlaces buffer.tiles).flatten) :
      OnMap place := by
    obtain ⟨letter, hit⟩ := (Maze.mem_letter_places_iff place).mp member
    exact Grid.inside_of_at _ _ _ shape _ _ _ hit
  have closed (place next : GridPosition) (near : next ∈ Maze.outgoing buffer.tiles place) :
      OnMap next := by
    rw [Maze.outgoing] at near
    split at near
    · have floor := of_decide_eq_true (List.mem_filter.mp near).2
      exact Grid.inside_of_at _ _ _ shape _ _ _ floor
    · simp at near
  -- No connection leaves the map, so no walk does, however long it is.
  have stays : MonsterStays frame buffer.tiles := by
    intro start may arm isArm _
    refine arm_members OnMap (fun place _ next => closed place next) isArm (placed start ?_)
    rcases may with listed | ⟨-, corner⟩
    · exact List.mem_of_mem_take (List.mem_filter.mp listed).1
    · exact List.mem_of_mem_take (List.mem_of_getElem? corner)
  rw [Maze.shielded_iff_readable shape]
  constructor
  · intro playable
    exact ⟨playable.readable, playable.paths⟩
  · rintro ⟨readable, paths⟩
    exact ⟨readable, Or.inr length.ge, paths, fun _ => ⟨filled, stays⟩⟩

end GameEncodingBuffer
end RelicRace
