import RelicRace.Game.Screen

/-!
What the player sees over a whole game: the tiles in the view of the camera, the
HUD around it and the settings menu. The tiles that `viewOnScreenTiles` leaves out
are never in view.
-/

namespace RelicRace
open Library

section Sight
variable {K : Type} [Field K] [LinearOrder K] [FloorRing K]

namespace GameScreen

/-- Exactly the tiles around the camera's tile are in the scene. -/
def TilesAround (frame : SceneFrame K) (screen : GameScreen K) : Prop :=
  ∃ shown, screen.tiles = some shown ∧
    ∀ place, place ∈ shown ↔ TileManager.Around (frame.indexFrom screen.camera) place

/-- A camera within the map sees the tiles of the whole map that are in its view. -/
def SeesAll (frame : SceneFrame K) (screen : GameScreen K) : Prop :=
  frame.Within screen.camera → ∃ shown, screen.tiles = some shown ∧
    ∀ place, (place ∈ shown ∧ frame.Sees screen.camera place) ↔
      (OnMap place ∧ frame.Sees screen.camera place)

section Steps
variable {manager : TileManager} (shape : manager.tiles.Shape MAX_ROWS MAX_COLUMNS)
include shape

theorem view_tiles_around (frame : SceneFrame K) (screen : GameScreen K)
    (children : Finset GridPosition) (added : screen.tiles = some children)
    (mapped : ∀ place ∈ children, OnMap place) (follows : screen.camera = screen.player) :
    (screen.viewOnScreenTiles manager frame).TilesAround frame := by
  obtain ⟨shown, viewed, exact⟩ :=
    TileManager.view_on_screen shape (frame.indexFrom screen.player) children mapped
  refine ⟨shown, ?_, fun place => ?_⟩
  · rw [viewOnScreenTiles, added]
    exact viewed
  · rw [viewOnScreenTiles, follows]
    exact exact place

/-- After the window was shown once it can be shown around any other tile. -/
theorem view_again (frame : SceneFrame K) (screen moved : GameScreen K)
    (around : screen.TilesAround frame) (same : moved.tiles = screen.tiles)
    (follows : moved.camera = moved.player) :
    (moved.viewOnScreenTiles manager frame).TilesAround frame := by
  obtain ⟨shown, found, exact⟩ := around
  exact view_tiles_around shape frame moved shown (same.trans found)
    (fun place member => ((exact place).mp member).1) follows

theorem setup_tiles_around (frame : SceneFrame K) (sounds : Sounds) :
    (setupGame manager frame sounds).TilesAround frame := by
  obtain ⟨children, added, exact⟩ := TileManager.add_tiles_empty shape
  exact view_tiles_around shape frame
    { (setupGame manager frame sounds) with tiles := manager.addTiles ∅ } children added
    (fun place member => (exact place).mp member) rfl

variable [SquareRoot K]

theorem step_tiles_around (frame : SceneFrame K) (screen : GameScreen K) (event : ScreenEvent K)
    (around : screen.TilesAround frame) : (step manager frame screen event).TilesAround frame := by
  cases event with
  | touchesBegan onStick => exact around
  | touchesMoved locations => exact around
  | touchesEnded => exact around
  | listen =>
      rw [step]
      split
      · simp only [track]
        split
        · exact view_again shape frame screen _ around rfl rfl
        · exact view_again shape frame screen _ around rfl rfl
      · exact around
  | displaced position => exact around
  | monsterHit => exact view_again shape frame screen _ around rfl rfl
  | tapPause =>
      simp only [step, tapPause, setDisabled]
      split <;> exact around
  | goToSettings => exact around
  | moveJoystick toTheRight => exact around
  | moveMinimap toTheRight => exact around
  | changeSound turnOn => exact around
  | endGame => exact around
  | tryAgain => exact around

end Steps

theorem around_sees_all [IsStrictOrderedRing K] (frame : SceneFrame K) (screen : GameScreen K)
    (around : screen.TilesAround frame) : screen.SeesAll frame := by
  intro within
  obtain ⟨shown, found, exact⟩ := around
  refine ⟨shown, found, fun place => ?_⟩
  constructor
  · rintro ⟨member, sees⟩
    exact ⟨((exact place).mp member).1, sees⟩
  · rintro ⟨onMap, sees⟩
    exact ⟨(exact place).mpr (sees_around frame screen.camera within place onMap sees), sees⟩

/-- In every state of every run after the setup no tile has been added twice, the
    tiles in the scene are those around the camera's tile, and while the camera is
    within the map it sees what it would see of a scene with all tiles. A scene that
    is left has no tile any more. -/
theorem culling_hides_nothing [IsStrictOrderedRing K] [SquareRoot K] (graph : GKGridGraph)
    (manager : TileManager) (filled : graph.nodes ≠ [])
    (made : TileManager.make graph = .ok manager) (frame : SceneFrame K) (sounds : Sounds)
    (events : List (ScreenEvent K)) :
    Runs.Always (step manager frame)
      (fun screen => screen.TilesAround frame ∧ screen.SeesAll frame ∧
        screen.tiles.map manager.removeTiles = some ∅)
      (setupGame manager frame sounds) events := by
  have shape := TileManager.make_shape graph manager filled made
  intro count
  have around := Runs.run_keeps (step manager frame) (TilesAround frame)
    (step_tiles_around shape frame) (events.take count) _ (setup_tiles_around shape frame sounds)
  refine ⟨around, around_sees_all frame _ around, ?_⟩
  obtain ⟨shown, found, exact⟩ := around
  rw [found, Option.map_some, TileManager.remove_tiles_empty shape shown]
  exact fun place member => ((exact place).mp member).1

end GameScreen
end Sight

theorem first_maze_culling_hides_nothing : ∃ maze manager,
    Maze.generate MAX_COLUMNS MAX_ROWS (Maze.roundBound MAX_COLUMNS MAX_ROWS + 0) (fun _ => 0) =
        .ok maze ∧ TileManager.make maze.graph = .ok manager ∧
      Runs.Always (GameScreen.step manager SceneFrame.realUnit)
        (fun screen => screen.TilesAround SceneFrame.realUnit ∧ screen.SeesAll SceneFrame.realUnit ∧
          screen.tiles.map manager.removeTiles = some ∅)
        (GameScreen.setupGame manager SceneFrame.realUnit Sounds.fresh)
        [.touchesBegan true, .touchesMoved [⟨300, 0⟩], .listen, .touchesEnded, .monsterHit] := by
  obtain ⟨maze, manager, generated, made, scanned, -, graph⟩ :=
    Maze.generate_with_tiles 0 fun _ => 0
  have filled : maze.graph.nodes ≠ [] := by
    rw [graph]
    exact TileManager.graph_filled maze.data scanned.1.shape
  exact ⟨maze, manager, generated, made,
    GameScreen.culling_hides_nothing maze.graph manager filled made SceneFrame.realUnit _ _⟩

end RelicRace
