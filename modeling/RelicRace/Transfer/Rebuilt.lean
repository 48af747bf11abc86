import RelicRace.Maze.Openings
import RelicRace.Monster.Routes
import RelicRace.Transfer.Decoding

/-!
What `Maze(from:)` makes of the letters of a well laid map: a map with the same
floor and the same connections, so that every law of the sender's map holds of
the receiver's.
-/

namespace RelicRace
open Library

namespace Maze

def lettersOf (data : Grid MazeTile) : Grid String :=
  data.map fun sub => sub.map fun tile => tile.cellType.letter

def isSpace (data : Grid MazeTile) (place : GridPosition) : Bool :=
  ((tileAt? data place).map (·.cellType)) = some .Space

/-- The connections `decodeNode` gives the node at a place. -/
def decodedLinks (data : Grid MazeTile) (place : GridPosition) : List GridPosition :=
  if isSpace data place then (beside place).filter (isSpace data) else []

theorem is_space_iff (data : Grid MazeTile) (place : GridPosition) :
    isSpace data place = true ↔ IsSpace data place := by
  simp only [isSpace, IsSpace, decide_eq_true_eq, Option.map_eq_some_iff]

theorem letter_space (cell : Cell) : cell.letter = "s" ↔ cell = .Space := by
  cases cell <;> decide

/-- The letters of a map mark its floor. -/
theorem letters_floor (data : Grid MazeTile) (place : GridPosition) :
    Floor (lettersOf data) place ↔ isSpace data place = true := by
  rw [Floor, lettersOf, Grid.at_map, isSpace, tileAt?, decide_eq_true_eq,
    Option.map_eq_some_iff, Option.map_eq_some_iff]
  simp only [letter_space]

/-- On the map of a sender the decoder leaves out no floor. -/
theorem letters_outgoing (data : Grid MazeTile) (laid : WellLaid MAX_COLUMNS MAX_ROWS data)
    (place : GridPosition) : outgoing (lettersOf data) place = decodedLinks data place := by
  simp only [outgoing, decodedLinks, letters_floor, Bool.decide_eq_true]
  by_cases floor : isSpace data place = true
  · have inner := laid.interior place ((is_space_iff data place).mp floor)
    simp only [Interior, MAX_COLUMNS, MAX_ROWS] at inner
    have kept : ¬ Skipped place := by
      simp only [Skipped, MAX_COLUMNS, MAX_ROWS]
      omega
    rw [if_pos ⟨kept, floor⟩, if_pos floor]
  · rw [if_neg (fun all => floor all.2), if_neg floor]

/-- A well laid map has walls in its last row and column. -/
theorem letters_shielded (data : Grid MazeTile) (laid : WellLaid MAX_COLUMNS MAX_ROWS data) :
    Shielded (lettersOf data) := by
  intro place floor _ _
  rw [letters_floor, is_space_iff] at floor
  have inner := laid.interior place floor
  simp only [Interior] at inner
  omega

/-- The receiver's map: the sender's cells with the decoded connections. -/
def rebuilt (data : Grid MazeTile) : Grid MazeTile :=
  data.map fun sub => sub.map fun tile =>
    { tile with node := ⟨tile.node.gridPosition, decodedLinks data tile.node.gridPosition⟩ }

section Rebuilt
variable {data : Grid MazeTile}

theorem rebuilt_at (data : Grid MazeTile) (place : GridPosition) :
    tileAt? (rebuilt data) place = (tileAt? data place).map fun tile =>
      { tile with node := ⟨tile.node.gridPosition, decodedLinks data tile.node.gridPosition⟩ } :=
  Grid.at_map data _ place.row place.column

theorem rebuilt_space (data : Grid MazeTile) (place : GridPosition) :
    IsSpace (rebuilt data) place ↔ IsSpace data place := by
  rw [← is_space_iff, ← is_space_iff, isSpace, isSpace, rebuilt_at]
  simp [Option.map_map, Function.comp_def]

theorem rebuilt_links (laid : WellLaid MAX_COLUMNS MAX_ROWS data) (place : GridPosition) :
    links (rebuilt data) place = decodedLinks data place := by
  rw [links, rebuilt_at]
  cases hit : tileAt? data place with
  | none => simp [decodedLinks, isSpace, hit]
  | some tile => simp [laid.placed place tile hit]

theorem rebuilt_joined (laid : WellLaid MAX_COLUMNS MAX_ROWS data) (source target : GridPosition) :
    Joined (rebuilt data) source target ↔ Joined data source target := by
  rw [Joined, rebuilt_links laid, laid.joined, decodedLinks]
  split
  · rename_i floor
    rw [List.mem_filter, beside_iff, is_space_iff]
    have here := (is_space_iff data source).mp floor
    tauto
  · rename_i wall
    rw [is_space_iff] at wall
    simp [wall]

theorem rebuilt_well_laid (laid : WellLaid MAX_COLUMNS MAX_ROWS data) :
    WellLaid MAX_COLUMNS MAX_ROWS (rebuilt data) where
  shape := Grid.map_shape data _ _ laid.shape _
  placed := by
    intro place tile hit
    rw [rebuilt_at] at hit
    obtain ⟨old, found, rfl⟩ := Option.map_eq_some_iff.mp hit
    exact laid.placed place old found
  interior place floor := laid.interior place ((rebuilt_space data place).mp floor)
  noPillar place floor := laid.noPillar place ((rebuilt_space data place).mp floor)
  upright place floor even := by
    rw [rebuilt_space] at floor ⊢
    rw [rebuilt_space]
    exact laid.upright place floor even
  sideways place floor even := by
    rw [rebuilt_space] at floor ⊢
    rw [rebuilt_space]
    exact laid.sideways place floor even
  joined source target := by
    rw [rebuilt_joined laid, rebuilt_space, rebuilt_space]
    exact laid.joined source target
  nodup place := by
    rw [rebuilt_links laid, decodedLinks]
    split
    · exact (beside_nodup place).filter _
    · exact List.nodup_nil
  reached place floor := by
    rw [rebuilt_space] at floor
    exact Relation.ReflTransGen.mono (fun _ _ edge => (rebuilt_joined laid _ _).mpr edge)
      _ _ (laid.reached place floor)

/-- `Maze(from:)` returns the graph of the rebuilt map. -/
theorem from_buffer_returns (laid : WellLaid MAX_COLUMNS MAX_ROWS data)
    (decoder : GameEncodingBuffer) (letters : decoder.tiles = lettersOf data) :
    ∃ maze, fromBuffer decoder = .ok maze ∧ maze.graph = graphOf (rebuilt data) := by
  have shape : decoder.tiles.Shape MAX_ROWS MAX_COLUMNS := by
    rw [letters]
    exact Grid.map_shape data _ _ laid.shape fun tile => tile.cellType.letter
  obtain ⟨maze, ran, graph⟩ := from_buffer_nodes decoder
    ((shielded_iff_readable shape).mp (letters ▸ letters_shielded data laid))
  -- The decoded nodes against those of the rebuilt map, cell by cell.
  have nodes : decodedNodes decoder.tiles = (rebuilt data).map fun sub => sub.map (·.node) := by
    rw [decoded_nodes_tabulate shape]
    apply Grid.tabulate_of_at _ _ _ (Grid.map_shape _ _ _ (rebuilt_well_laid laid).shape _)
    intro row column within reach
    have inside : Grid.Inside MAX_ROWS MAX_COLUMNS row column := by simp only [Grid.Inside]; omega
    obtain ⟨tile, hit⟩ := Grid.at_inside data MAX_ROWS MAX_COLUMNS laid.shape row column inside
    have found := rebuilt_at data ⟨column, row⟩
    simp only [tileAt?, hit, Option.map_some] at found
    rw [Grid.at_map, found, Option.map_some, laid.placed ⟨column, row⟩ tile hit, letters,
      letters_outgoing data laid]
  exact ⟨maze, ran, by rw [graph, nodes, graphOf, List.map_flatten]⟩

end Rebuilt
end Maze
end RelicRace
