import RelicRace.Maze.Openings
import RelicRace.Tiles.TileManager
import RelicRace.Transfer.GameEncodingBuffer

/-!
The finished maze as the rest of the program relies on it: the cell types, the
connections, the type names of the tiles and the letters of the encoder all
tell the same map, the map is closed and all of its floor is one component.
-/

namespace RelicRace
open Library

namespace Maze

def OnBorder (place : GridPosition) : Prop :=
  place.row = 0 ∨ place.row = (MAX_ROWS : Int) - 1 ∨
    place.column = 0 ∨ place.column = (MAX_COLUMNS : Int) - 1

/-- The tiles where the player and the opponent start. -/
def playerSpawn : GridPosition := ⟨1, (MAX_ROWS : Int) - 2⟩
def opponentSpawn : GridPosition := ⟨(MAX_COLUMNS : Int) - 2, 1⟩

structure WellFormed (data : Grid MazeTile) : Prop where
  shape : data.Shape MAX_ROWS MAX_COLUMNS
  symmetric : ∀ source target, Joined data source target → Joined data target source
  joined : ∀ source target, Joined data source target ↔
    EdgeAdjacent source target ∧ IsSpace data source ∧ IsSpace data target
  linked : ∀ place, IsSpace data place ↔ links data place ≠ []
  agree : ∀ place tile, tileAt? data place = some tile →
    ((TileNode.make tile.node).typeName = "space" ∧ tile.cellType.letter = "s") ∨
      ((TileNode.make tile.node).typeName = "wall" ∧ tile.cellType.letter = "w")
  border : ∀ place tile, tileAt? data place = some tile → OnBorder place → tile.cellType = .Wall
  spawns : IsSpace data playerSpawn ∧ IsSpace data opponentSpawn
  reachable : ∀ source target, IsSpace data source → IsSpace data target →
    Relation.ReflTransGen (Joined data) source target

theorem player_spawn_room : IsRoom MAX_COLUMNS MAX_ROWS playerSpawn := by
  simp only [IsRoom, Interior, playerSpawn, MAX_ROWS, MAX_COLUMNS]
  omega

theorem opponent_spawn_room : IsRoom MAX_COLUMNS MAX_ROWS opponentSpawn := by
  simp only [IsRoom, Interior, opponentSpawn, MAX_ROWS, MAX_COLUMNS]
  omega

theorem first_room_floor {data : Grid MazeTile} (scanned : Scanned data) :
    IsSpace data spawnRoom := by
  refine scanned.2 _ ?_
  simp only [IsRoom, Interior, spawnRoom, MAX_ROWS, MAX_COLUMNS]
  omega

/-- With the spawn tiles open, floor is what has a connection. -/
theorem scanned_linked (data : Grid MazeTile) (scanned : Scanned data) (place : GridPosition) :
    IsSpace data place ↔ links data place ≠ [] :=
  floor_iff_linked scanned.1 playerSpawn opponentSpawn (scanned.2 _ player_spawn_room)
    (scanned.2 _ opponent_spawn_room) (by decide) place

theorem scanned_well_formed (data : Grid MazeTile) (scanned : Scanned data) : WellFormed data where
  shape := scanned.1.shape
  symmetric source target := (joined_symm scanned.1 source target).mp
  joined source target := by
    rw [scanned.1.joined]
    tauto
  linked := scanned_linked data scanned
  agree place tile hit := by
    have floor := scanned_linked data scanned place
    rw [links, hit, IsSpace, hit] at floor
    cases cell : tile.cellType with
    | Space =>
        -- `typeName` reads the connections, the letter reads the cell type.
        have linked := floor.mp ⟨tile, rfl, cell⟩
        exact Or.inl ⟨by simp [TileNode.make, List.length_pos_iff, linked], rfl⟩
    | Wall =>
        have unlinked : tile.node.connectedNodes = [] := by
          by_contra linked
          obtain ⟨same, found, open'⟩ := floor.mpr linked
          obtain rfl := Option.some.inj found
          simp [cell] at open'
        exact Or.inr ⟨by simp [TileNode.make, unlinked], rfl⟩
  border place tile hit edge := by
    cases cell : tile.cellType with
    | Wall => rfl
    | Space =>
        have inner := scanned.1.interior place ⟨tile, hit, cell⟩
        simp only [Interior, OnBorder] at inner edge
        omega
  spawns := ⟨scanned.2 _ player_spawn_room, scanned.2 _ opponent_spawn_room⟩
  reachable source target here there := floor_connected scanned.1 source target here there

/-- A generated maze and the tiles that its graph gives. -/
theorem generate_with_tiles (extra : Nat) (draws : Nat → Nat) :
    ∃ maze manager, generate MAX_COLUMNS MAX_ROWS (roundBound MAX_COLUMNS MAX_ROWS + extra) draws =
        .ok maze ∧ TileManager.make maze.graph = .ok manager ∧ Scanned maze.data ∧
      manager.Shows maze.data ∧ maze.graph = graphOf maze.data := by
  obtain ⟨maze, generated, scanned, graph⟩ := generate_returns extra draws
  obtain ⟨manager, made, shows⟩ := TileManager.make_shows maze.data scanned.1.shape
  exact ⟨maze, manager, generated, graph ▸ made, scanned, shows, graph⟩

/-- For every sequence of draws `Maze(width: 37, height: 21)` returns, without
    a trap, a well formed maze whose graph lists its nodes row by row. -/
theorem generated_maze_well_formed (extra : Nat) (draws : Nat → Nat) :
    ∃ maze, generate MAX_COLUMNS MAX_ROWS (roundBound MAX_COLUMNS MAX_ROWS + extra) draws =
      .ok maze ∧ WellFormed maze.data ∧ maze.graph = graphOf maze.data := by
  obtain ⟨maze, generated, scanned, graph⟩ := generate_returns extra draws
  exact ⟨maze, generated, scanned_well_formed maze.data scanned, graph⟩

end Maze
end RelicRace
