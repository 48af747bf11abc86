import RelicRace.Transfer.Rebuilt

/-!
The transfer of the map: the bytes arrive in reads of the stream, are collected
in `streamedMap` and decoded at the end. The receiver then has the graph and
the monster routes of the sender.
-/

namespace RelicRace
open Library

def MAX_DATA_SIZE : Nat := 1024

/-- A way in which the stream cuts its bytes into reads. -/
structure Reads (bytes : Json.Bytes) where
  chunks : List Json.Bytes
  sizes : ∀ chunk ∈ chunks, 1 ≤ chunk.length ∧ chunk.length ≤ MAX_DATA_SIZE
  whole : chunks.flatten = bytes

/-- `hasBytesAvailable`: a read is appended to `streamedMap`. -/
def hasBytesAvailable (streamedMap data : Json.Bytes) : Json.Bytes := streamedMap ++ data

theorem reads_collect (chunks : List Json.Bytes) (streamedMap : Json.Bytes) :
    chunks.foldl hasBytesAvailable streamedMap = streamedMap ++ chunks.flatten := by
  induction chunks generalizing streamedMap with
  | nil => simp
  | cons chunk rest ih => simp [ih, hasBytesAvailable]

/-- What the receiver holds when the end of the stream is reached. -/
def Reads.streamedMap {bytes : Json.Bytes} (reads : Reads bytes) : Json.Bytes :=
  reads.chunks.foldl hasBytesAvailable []

@[simp] theorem streamed_map_whole {bytes : Json.Bytes} (reads : Reads bytes) :
    reads.streamedMap = bytes := by
  simp [Reads.streamedMap, reads_collect, reads.whole]

/-- The same nodes in the same order, each with the same connected positions. -/
def SameGraph (first second : GKGridGraph) : Prop :=
  List.Forall₂ (fun node node' => node.gridPosition = node'.gridPosition ∧
    ∀ place, place ∈ node.connectedNodes ↔ place ∈ node'.connectedNodes) first.nodes second.nodes

theorem rebuilt_same_graph (data : Grid MazeTile) (laid : WellLaid MAX_COLUMNS MAX_ROWS data) :
    SameGraph (Maze.graphOf data) (Maze.graphOf (Maze.rebuilt data)) := by
  simp only [SameGraph, Maze.graphOf, Maze.rebuilt, ← List.map_flatten, List.map_map,
    List.forall₂_map_left_iff, List.forall₂_map_right_iff, List.forall₂_same, Function.comp_apply,
    true_and]
  intro tile listed place
  have hit := listed_tile data laid tile listed
  have sent : place ∈ tile.node.connectedNodes ↔ Joined data tile.node.gridPosition place := by
    rw [Joined, links, hit]
  have got : place ∈ Maze.decodedLinks data tile.node.gridPosition ↔
      Joined (Maze.rebuilt data) tile.node.gridPosition place := by
    rw [Joined, Maze.rebuilt_links laid]
  rw [sent, got, Maze.rebuilt_joined laid]

section Monsters
variable {K : Type} [Field K] [LinearOrder K]
variable {manager : TileManager} {data : Grid MazeTile}

namespace GameEncodingBuffer

/-- The tiles of a received path are the positions of its places. -/
theorem path_tiles (shows : manager.Shows data) (laid : WellLaid MAX_COLUMNS MAX_ROWS data)
    (frame : SceneFrame K) (path : List MapPlace) :
    ∃ tiles, (path.map (·.1)).mapM (fun point => manager.getTile point.row point.column) =
      .ok tiles ∧ tiles.map (TileNode.position frame) = routeOf frame path := by
  induction path with
  | nil => exact ⟨[], rfl, rfl⟩
  | cons place rest ih =>
      obtain ⟨tile, found, position⟩ := get_tile_position shows laid frame place.1 place.2
      obtain ⟨tiles, got, route⟩ := ih
      refine ⟨tile :: tiles, ?_, ?_⟩
      · rw [List.map_cons, List.mapM_cons, found, run_ok, got, run_ok, run_pure]
      · rw [List.map_cons, position, route, routeOf, routeOf, List.map_cons]

theorem get_monster_walks (shows : manager.Shows data)
    (laid : WellLaid MAX_COLUMNS MAX_ROWS data) (frame : SceneFrame K) (i : Nat)
    (path : List MapPlace) (draws : Draws) :
    ∃ monster draws', getMonster manager frame i (path.map (·.1)) draws = .ok (monster, draws') ∧
      monster.actions = [routeOf frame path] := by
  obtain ⟨spawned, draws', ran, -⟩ := Monster.spawn_walks_path shows laid frame 0 draws
  obtain ⟨tiles, got, route⟩ := path_tiles shows laid frame path
  refine ⟨_, draws', by simp only [getMonster, ran, run_ok, got, run_pure]; rfl, ?_⟩
  simp [Monster.run, Monster.stop, route]

theorem get_monsters_walk (shows : manager.Shows data)
    (laid : WellLaid MAX_COLUMNS MAX_ROWS data) (frame : SceneFrame K)
    (paths : List (List MapPlace)) (i : Nat) (draws : Draws) :
    ∃ monsters draws', getMonstersFrom manager frame i (paths.map (·.map (·.1))) draws =
      .ok (monsters, draws') ∧
      monsters.map (·.actions) = paths.map fun path => [routeOf frame path] := by
  induction paths generalizing i draws with
  | nil => exact ⟨[], draws, rfl, rfl⟩
  | cons path rest ih =>
      obtain ⟨monster, draws1, ran, walks⟩ := get_monster_walks shows laid frame i path draws
      obtain ⟨monsters, draws2, ran', walk⟩ := ih (i + 1) draws1
      exact ⟨monster :: monsters, draws2,
        by simp only [List.map_cons, getMonstersFrom, ran, run_ok, ran', run_pure],
        by simp [walks, walk]⟩

end GameEncodingBuffer

/-- Every generated map arrives: the receiver decodes the graph of the sender
    and lets monster `i` repeat the stored path of the sender's monster `i`. -/
theorem map_transfer_round_trip (coder : Json.Coder)
    (frame : SceneFrame K) (extra : Nat) (draws : Draws) :
    ∃ maze, Maze.generate MAX_COLUMNS MAX_ROWS
        (Maze.roundBound MAX_COLUMNS MAX_ROWS + extra) draws = .ok maze ∧
      ∀ (monsters : List (Monster K))
        (reads : Reads (coder.encodeAs GameEncodingBuffer.codec
          (GameEncodingBuffer.make maze monsters))) (receiverDraws : Draws),
        ∃ buffer received tileManager routes rest,
          coder.decodeAs GameEncodingBuffer.codec reads.streamedMap = some buffer ∧
          Maze.fromBuffer buffer = .ok received ∧
          SameGraph maze.graph received.graph ∧
          TileManager.make received.graph = .ok tileManager ∧
          buffer.getMonsters tileManager frame receiverDraws = .ok (routes, rest) ∧
          routes.map (·.actions) = monsters.map fun monster => [routeOf frame monster.path] := by
  obtain ⟨maze, generated, scanned, graph⟩ := Maze.generate_returns extra draws
  refine ⟨maze, generated, fun monsters reads receiverDraws => ?_⟩
  obtain ⟨received, decoded, receivedGraph⟩ := Maze.from_buffer_returns scanned.1
    (GameEncodingBuffer.make maze monsters) rfl
  have laid := Maze.rebuilt_well_laid scanned.1
  obtain ⟨tileManager, made, shows⟩ := TileManager.make_shows _ laid.shape
  obtain ⟨routes, rest, got, walk⟩ := GameEncodingBuffer.get_monsters_walk shows laid frame
    (monsters.map (·.path)) 0 receiverDraws
  refine ⟨_, received, tileManager, routes, rest, by simp, decoded, ?_, ?_, ?_, ?_⟩
  · rw [graph, receivedGraph]
    exact rebuilt_same_graph maze.data scanned.1
  · rw [receivedGraph, made]
  · rw [GameEncodingBuffer.getMonsters, ← got]
    simp [GameEncodingBuffer.make, Function.comp_def]
  · simpa [Function.comp_def] using walk

end Monsters
end RelicRace
