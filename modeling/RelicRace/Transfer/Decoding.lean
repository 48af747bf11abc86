import RelicRace.Transfer.GameEncodingBuffer

/-!
`Maze(from:)` on any letters a peer may send, in rows of any lengths. The guard of
its loops compares with `MAX_COLUMNS` and `MAX_ROWS`, which no index of a map
reaches, so floor in the last row or column is not left out and a neighbour behind
the border is read. The first row and column are left out, so floor there has no
connections of its own.
-/

namespace RelicRace
open Library

namespace Maze

/-- A letter that stands for floor. -/
def Floor (tiles : Grid String) (place : GridPosition) : Prop :=
  tiles.at? place.row place.column = some "s"

instance (tiles : Grid String) (place : GridPosition) : Decidable (Floor tiles place) :=
  inferInstanceAs (Decidable (_ = _))

/-- The guard of the loops leaves the place out. -/
def Skipped (place : GridPosition) : Prop :=
  place.column = 0 ∨ place.column = MAX_COLUMNS ∨ place.row = 0 ∨ place.row = MAX_ROWS

instance (place : GridPosition) : Decidable (Skipped place) :=
  inferInstanceAs (Decidable (_ ∨ _))

/-- The connections the decoder gives the node at a place. -/
def outgoing (tiles : Grid String) (place : GridPosition) : List GridPosition :=
  if ¬ Skipped place ∧ Floor tiles place then (beside place).filter (Floor tiles ·) else []

/-- Floor that is not left out has letters on all four sides. -/
def Readable (tiles : Grid String) : Prop :=
  ∀ place, Floor tiles place → ¬ Skipped place → ∀ other ∈ beside place,
    ∃ letter, tiles.at? other.row other.column = some letter

/-- Behind the first row and column there is floor before the last ones only. -/
def Shielded (tiles : Grid String) : Prop :=
  ∀ place, Floor tiles place → 1 ≤ place.row → 1 ≤ place.column →
    place.row + 1 < MAX_ROWS ∧ place.column + 1 < MAX_COLUMNS

/-- Floor in the first row or column stands alone. -/
def EdgeApart (tiles : Grid String) : Prop :=
  ∀ source target, Floor tiles source → Floor tiles target → EdgeAdjacent source target →
    1 ≤ source.row ∧ 1 ≤ source.column

theorem beside_iff (place other : GridPosition) :
    other ∈ beside place ↔ EdgeAdjacent place other := by
  simp only [beside, EdgeAdjacent, List.mem_cons, GridPosition.ext_iff, List.not_mem_nil, or_false]
  omega

theorem beside_nodup (place : GridPosition) : (beside place).Nodup := by
  simp only [beside, List.nodup_cons, List.mem_cons, GridPosition.ext_iff, List.not_mem_nil,
    List.nodup_nil, not_false_eq_true, and_true, or_false]
  omega

section Node
variable {tiles : Grid String}

theorem link_space_returns_iff (node : GKGridGraphNode) (target : GridPosition) :
    (∃ next, linkSpace tiles node target = .ok next) ↔
      ∃ letter, tiles.at? target.row target.column = some letter := by
  simp only [linkSpace, letterAt, run_bind_iff, indexed_ok_iff, run_pure, Except.ok.injEq]
  exact ⟨fun ⟨_, letter, found, _⟩ => ⟨letter, found⟩, fun ⟨letter, found⟩ =>
    ⟨_, letter, found, rfl⟩⟩

/-- The comparisons add the floor cells among the places, each once. -/
theorem link_floors (places : List GridPosition)
    (present : ∀ place ∈ places, ∃ letter, tiles.at? place.row place.column = some letter)
    (node : GKGridGraphNode) (unique : (node.connectedNodes ++ places).Nodup) :
    places.foldlM (linkSpace tiles) node =
      .ok { node with connectedNodes := node.connectedNodes ++ places.filter (Floor tiles ·) } := by
  induction places generalizing node with
  | nil => simp
  | cons place rest ih =>
      obtain ⟨letter, hit⟩ := present place List.mem_cons_self
      have others := fun other member => present other (List.mem_cons_of_mem place member)
      have fresh : place ∉ node.connectedNodes := by
        intro known
        exact (List.nodup_append.mp unique).2.2 place known place List.mem_cons_self rfl
      have counts : Floor tiles place ↔ letter = "s" := by simp [Floor, hit]
      simp only [List.foldlM_cons, linkSpace, letterAt, hit, indexed, run_ok, run_pure]
      by_cases floor : letter = "s"
      · rw [if_pos floor, GKGridGraphNode.connect, if_neg fresh, ih others]
        · simp [counts.mpr floor]
        · simpa using unique
      · rw [if_neg floor, ih others]
        · simp [counts, floor]
        · exact unique.sublist (by simp)

theorem decode_node_returns_iff (y x : Nat) (letter : String)
    (hit : tiles.at? (y : Int) (x : Int) = some letter) :
    (∃ node, decodeNode tiles y x = .ok node) ↔
      (Floor tiles ⟨x, y⟩ → ¬ Skipped ⟨x, y⟩ → ∀ other ∈ beside ⟨x, y⟩,
        ∃ letter, tiles.at? other.row other.column = some letter) := by
  have counts : Floor tiles ⟨x, y⟩ ↔ letter = "s" := by simp [Floor, hit]
  have guard : (x = 0 ∨ x = MAX_COLUMNS ∨ y = 0 ∨ y = MAX_ROWS) ↔ Skipped ⟨x, y⟩ := by
    simp only [Skipped]
    omega
  rw [decodeNode, if_congr guard rfl rfl]
  by_cases skipped : Skipped ⟨x, y⟩
  · rw [if_pos skipped]
    exact iff_of_true ⟨_, rfl⟩ fun _ some => absurd skipped some
  · rw [if_neg skipped, letterAt, hit]
    simp only [indexed, run_ok, counts, skipped, not_false_eq_true, forall_const]
    by_cases floor : letter = "s"
    · rw [if_pos floor]
      simp only [floor, forall_const]
      exact Loops.listed_returns_iff (linkSpace tiles) (fun _ => True) _ (beside ⟨x, y⟩)
        (fun _ _ _ _ _ _ => trivial) (fun target _ node _ => link_space_returns_iff node target)
        _ trivial
    · rw [if_neg floor]
      exact iff_of_true ⟨_, rfl⟩ fun some => absurd some floor

theorem decode_node_links (readable : Readable tiles) (y x : Nat) (letter : String)
    (hit : tiles.at? (y : Int) (x : Int) = some letter) :
    decodeNode tiles y x = .ok ⟨⟨x, y⟩, outgoing tiles ⟨x, y⟩⟩ := by
  have counts : Floor tiles ⟨x, y⟩ ↔ letter = "s" := by simp [Floor, hit]
  have guard : (x = 0 ∨ x = MAX_COLUMNS ∨ y = 0 ∨ y = MAX_ROWS) ↔ Skipped ⟨x, y⟩ := by
    simp only [Skipped]
    omega
  rw [decodeNode, if_congr guard rfl rfl, outgoing]
  by_cases skipped : Skipped ⟨x, y⟩
  · rw [if_pos skipped, if_neg fun all => all.1 skipped, run_pure]
  · rw [if_neg skipped, letterAt, hit]
    simp only [indexed, run_ok]
    by_cases floor : letter = "s"
    · rw [if_pos floor, if_pos ⟨skipped, counts.mpr floor⟩,
        link_floors _ (readable _ (counts.mpr floor) skipped) _ (by simpa using beside_nodup _)]
      rfl
    · rw [if_neg floor, if_neg fun all => floor (counts.mp all.2), run_pure]

end Node

section Buffer
variable {tiles : Grid String}

/-- The places of the letters, row by row. -/
def letterPlaces (tiles : Grid String) : Grid GridPosition :=
  (List.range tiles.length).map fun (y : Nat) =>
    (List.range (tiles[y]?.getD []).length).map fun (x : Nat) => ⟨x, y⟩

theorem letter_places_at (tiles : Grid String) (y x : Nat) :
    (letterPlaces tiles).at? (y : Int) (x : Int) =
      (tiles.at? (y : Int) (x : Int)).map fun _ => ⟨x, y⟩ := by
  rw [Grid.at_nat, Grid.at_nat, letterPlaces]
  by_cases within : y < tiles.length
  · by_cases reach : x < tiles[y].length <;> simp [within, reach]
  · simp [within]

theorem mem_letter_places_iff (place : GridPosition) :
    place ∈ (letterPlaces tiles).flatten ↔
      ∃ letter, tiles.at? place.row place.column = some letter := by
  rw [Grid.mem_flatten_iff]
  constructor
  · rintro ⟨row, column, hit⟩
    by_cases outside : row < 0 ∨ column < 0
    · simp [Grid.at_outside _ row column outside] at hit
    · obtain ⟨y, rfl⟩ := Int.eq_ofNat_of_zero_le (show 0 ≤ row by omega)
      obtain ⟨x, rfl⟩ := Int.eq_ofNat_of_zero_le (show 0 ≤ column by omega)
      rw [letter_places_at] at hit
      obtain ⟨letter, found, rfl⟩ := Option.map_eq_some_iff.mp hit
      exact ⟨letter, found⟩
  · rintro ⟨letter, found⟩
    obtain ⟨column, row⟩ := place
    by_cases outside : row < 0 ∨ column < 0
    · simp [Grid.at_outside _ row column outside] at found
    · obtain ⟨y, rfl⟩ := Int.eq_ofNat_of_zero_le (show 0 ≤ row by omega)
      obtain ⟨x, rfl⟩ := Int.eq_ofNat_of_zero_le (show 0 ≤ column by omega)
      exact ⟨y, x, by rw [letter_places_at, found, Option.map_some]⟩

/-- The nodes that the decoder leaves, row by row. -/
def decodedNodes (tiles : Grid String) : Grid GKGridGraphNode :=
  (letterPlaces tiles).map fun row => row.map fun place => ⟨place, outgoing tiles place⟩

theorem mem_decoded_iff (node : GKGridGraphNode) :
    node ∈ (decodedNodes tiles).flatten ↔
      (∃ letter, tiles.at? node.gridPosition.row node.gridPosition.column = some letter) ∧
        node.connectedNodes = outgoing tiles node.gridPosition := by
  rw [decodedNodes, ← List.map_flatten, List.mem_map]
  simp only [mem_letter_places_iff]
  constructor
  · rintro ⟨place, listed, rfl⟩
    exact ⟨listed, rfl⟩
  · rintro ⟨listed, wires⟩
    exact ⟨node.gridPosition, listed, by rw [← wires]⟩

theorem from_buffer_nodes (decoder : GameEncodingBuffer) (readable : Readable decoder.tiles) :
    ∃ maze, fromBuffer decoder = .ok maze ∧
      maze.graph = ⟨(decodedNodes decoder.tiles).flatten⟩ := by
  have rows : (List.range decoder.tiles.length).mapM (fun y =>
      (List.range (decoder.tiles[y]?.getD []).length).mapM fun x =>
        decodeNode decoder.tiles y x) = .ok (decodedNodes decoder.tiles) := by
    rw [decodedNodes, letterPlaces, List.map_map]
    apply map_all_ok
    intro y listed
    rw [Function.comp_apply, List.map_map]
    apply map_all_ok
    intro x listed'
    have within := List.mem_range.mp listed
    rw [List.mem_range, List.getElem?_eq_getElem within, Option.getD_some] at listed'
    exact decode_node_links readable y x decoder.tiles[y][x]
      (by simp [Grid.at_nat, within, listed'])
  exact ⟨_, by rw [fromBuffer, rows, run_ok, run_pure], rfl⟩

/-- `Maze(from:)` returns exactly when every letter that it compares is there. -/
theorem from_buffer_returns_iff (decoder : GameEncodingBuffer) :
    (∃ maze, fromBuffer decoder = .ok maze) ↔ Readable decoder.tiles := by
  constructor
  · rintro ⟨maze, ran⟩ place floor
    obtain ⟨nodes2D, decoded, -⟩ := (run_bind_iff _ _ _).mp ran
    obtain ⟨column, row⟩ := place
    by_cases outside : row < 0 ∨ column < 0
    · simp [Floor, Grid.at_outside _ row column outside] at floor
    · obtain ⟨y, rfl⟩ := Int.eq_ofNat_of_zero_le (show 0 ≤ row by omega)
      obtain ⟨x, rfl⟩ := Int.eq_ofNat_of_zero_le (show 0 ≤ column by omega)
      have hit := floor
      simp only [Floor, Grid.at_nat] at hit
      obtain ⟨cells, found, hit⟩ := Option.bind_eq_some_iff.mp hit
      obtain ⟨cells', read⟩ := (Loops.map_returns_iff _ _).mp ⟨nodes2D, decoded⟩ y
        (List.mem_range.mpr (List.getElem?_eq_some_iff.mp found).1)
      obtain ⟨node, read⟩ := (Loops.map_returns_iff _ _).mp ⟨cells', read⟩ x
        (List.mem_range.mpr (by
          rw [found, Option.getD_some]
          exact (List.getElem?_eq_some_iff.mp hit).1))
      exact (decode_node_returns_iff y x "s" floor).mp ⟨node, read⟩ floor
  · intro readable
    obtain ⟨maze, ran, -⟩ := from_buffer_nodes decoder readable
    exact ⟨maze, ran⟩

theorem decoded_linked_iff (source target : GridPosition) :
    GKGridGraph.Linked ⟨(decodedNodes tiles).flatten⟩ source target ↔
      target ∈ outgoing tiles source := by
  constructor
  · rintro ⟨node, listed, rfl, wired⟩
    exact ((mem_decoded_iff node).mp listed).2 ▸ wired
  · intro wired
    have floor : Floor tiles source := by
      rw [outgoing] at wired
      split at wired
      · rename_i all
        exact all.2
      · simp at wired
    exact ⟨⟨source, outgoing tiles source⟩, (mem_decoded_iff _).mpr ⟨⟨_, floor⟩, rfl⟩, rfl, wired⟩

theorem decoded_nodes_tabulate (shape : tiles.Shape MAX_ROWS MAX_COLUMNS) :
    decodedNodes tiles =
      Grid.tabulate MAX_ROWS MAX_COLUMNS fun y x => ⟨⟨x, y⟩, outgoing tiles ⟨x, y⟩⟩ := by
  rw [decodedNodes, letterPlaces, Grid.tabulate, shape.1, List.map_map]
  refine List.map_congr_left fun y listed => ?_
  rw [Function.comp_apply, Grid.row_length _ _ _ shape y (List.mem_range.mp listed), List.map_map]
  rfl

/-- On a map the guard leaves the first row and the first column out. -/
theorem not_skipped_iff (shape : tiles.Shape MAX_ROWS MAX_COLUMNS) {place : GridPosition}
    (floor : Floor tiles place) : ¬ Skipped place ↔ 1 ≤ place.row ∧ 1 ≤ place.column := by
  have inside := Grid.inside_of_at tiles MAX_ROWS MAX_COLUMNS shape _ _ _ floor
  simp only [Skipped, Grid.Inside] at inside ⊢
  omega

/-- Of 21 rows of 37 letters everything can be read that is shielded. -/
theorem shielded_iff_readable (shape : tiles.Shape MAX_ROWS MAX_COLUMNS) :
    Shielded tiles ↔ Readable tiles := by
  constructor
  · intro shielded place floor some other near
    obtain ⟨low, low'⟩ := (not_skipped_iff shape floor).mp some
    have bounds := shielded place floor low low'
    refine Grid.at_inside tiles MAX_ROWS MAX_COLUMNS shape _ _ ?_
    rw [beside_iff] at near
    simp only [EdgeAdjacent, Grid.Inside, MAX_ROWS, MAX_COLUMNS] at near bounds ⊢
    omega
  · intro readable place floor low low'
    have present := readable place floor ((not_skipped_iff shape floor).mpr ⟨low, low'⟩)
    -- The letters below and to the right are on the map.
    have below := (Grid.at_some_iff tiles MAX_ROWS MAX_COLUMNS shape _ _).mp
      (present ⟨place.column, place.row + 1⟩ (by simp [beside]))
    have right := (Grid.at_some_iff tiles MAX_ROWS MAX_COLUMNS shape _ _).mp
      (present ⟨place.column + 1, place.row⟩ (by simp [beside]))
    exact ⟨below.2.1, right.2.2.2⟩

end Buffer

/-- The decoder completes and its connections are symmetric and join exactly the
    pairs of floor cells that share an edge. -/
def DecodesRight (decoder : GameEncodingBuffer) : Prop :=
  ∃ maze, fromBuffer decoder = .ok maze ∧
    (∀ source target, maze.graph.Linked source target → maze.graph.Linked target source) ∧
    ∀ source target, maze.graph.Linked source target ↔
      EdgeAdjacent source target ∧ Floor decoder.tiles source ∧ Floor decoder.tiles target

/-- Any 21 rows of 37 letters are decoded right exactly when no floor lies in
    the last row or column behind the first ones, and none in the first row or
    column beside other floor. -/
theorem decodes_right_iff (decoder : GameEncodingBuffer)
    (shape : decoder.tiles.Shape MAX_ROWS MAX_COLUMNS) :
    DecodesRight decoder ↔ Shielded decoder.tiles ∧ EdgeApart decoder.tiles := by
  rw [shielded_iff_readable shape]
  constructor
  · rintro ⟨maze, ran, -, joins⟩
    have readable := (from_buffer_returns_iff decoder).mp ⟨maze, ran⟩
    refine ⟨readable, fun source target floor floor' near => ?_⟩
    obtain ⟨maze', ran', graph⟩ := from_buffer_nodes decoder readable
    obtain rfl := Except.ok.inj (ran.symm.trans ran')
    have linked := (joins source target).mpr ⟨near, floor, floor'⟩
    rw [graph, decoded_linked_iff, outgoing] at linked
    split at linked
    · rename_i all
      exact (not_skipped_iff shape floor).mp all.1
    · simp at linked
  · rintro ⟨readable, apart⟩
    obtain ⟨maze, ran, graph⟩ := from_buffer_nodes decoder readable
    have joins (source target : GridPosition) : maze.graph.Linked source target ↔
        EdgeAdjacent source target ∧ Floor decoder.tiles source ∧ Floor decoder.tiles target := by
      rw [graph, decoded_linked_iff, outgoing]
      split
      · rename_i all
        simp [beside_iff, all.2]
      · rename_i left
        refine iff_of_false (by simp) ?_
        rintro ⟨near, floor, floor'⟩
        have low := apart source target floor floor' near
        exact left ⟨(not_skipped_iff shape floor).mpr low, floor⟩
    refine ⟨maze, ran, fun source target linked => ?_, joins⟩
    obtain ⟨near, floor, floor'⟩ := (joins source target).mp linked
    exact (joins target source).mpr ⟨(edge_adjacent_symm source target).mp near, floor', floor⟩

/-- A corridor of seven cells in the sixth row. -/
def oneCorridor : GameEncodingBuffer where
  tiles := Grid.tabulate MAX_ROWS MAX_COLUMNS fun y x =>
    if y = 5 ∧ 3 ≤ x ∧ x ≤ 9 then "s" else "w"
  paths := []

theorem one_corridor_decodes_iff :
    DecodesRight oneCorridor ↔ Shielded oneCorridor.tiles ∧ EdgeApart oneCorridor.tiles :=
  decodes_right_iff oneCorridor (Grid.tabulate_shape _ _ _)

/-- Floor in the second row, at the end of the last column. -/
def lastColumnFloor : GameEncodingBuffer where
  tiles := Grid.tabulate MAX_ROWS MAX_COLUMNS fun y x => if y = 1 ∧ x = 36 then "s" else "w"
  paths := []

theorem last_column_traps : ¬ ∀ decoder : GameEncodingBuffer,
    decoder.tiles.Shape MAX_ROWS MAX_COLUMNS →
    (∀ row column letter, decoder.tiles.at? row column = some letter →
      letter = "s" ∨ letter = "w") → DecodesRight decoder := by
  intro decodes
  have letters : ∀ row column letter, lastColumnFloor.tiles.at? row column = some letter →
      letter = "s" ∨ letter = "w" := by
    have all := (Grid.all_cells_iff lastColumnFloor.tiles
      (fun letter => letter = "s" ∨ letter = "w")).mp (by decide +kernel)
    exact fun row column letter hit => of_decide_eq_true (all row column letter hit)
  obtain ⟨maze, ran, -⟩ := decodes lastColumnFloor (Grid.tabulate_shape _ _ _) letters
  have shape : lastColumnFloor.tiles.Shape MAX_ROWS MAX_COLUMNS := Grid.tabulate_shape _ _ _
  have shielded := (shielded_iff_readable shape).mpr
    ((from_buffer_returns_iff lastColumnFloor).mp ⟨maze, ran⟩)
  have bounds := shielded ⟨36, 1⟩ (by decide +kernel) (by decide) (by decide)
  simp [MAX_COLUMNS] at bounds

end Maze
end RelicRace
