import RelicRace.Maze.WellFormed

/-!
The tiles of a `TileManager` in their scene. `setPosition(in:)` and
`indexFrom(position:)` are written apart, in two classes; on every scene the
second inverts the first, on the whole inside of a tile. Coordinates are exact,
and so are the integers that they are rounded to.
-/

namespace RelicRace
open Library

section Placing
variable {K : Type} [Field K] [LinearOrder K]

/-- A `TileNode` as a sprite of its parent. -/
structure TileSprite (K : Type) where
  tile : TileNode
  width : K
  height : K
  position : CGPoint K

namespace TileSprite

/-- The size that `init(node:with:)` gives every tile. -/
def initialSize : K := ((10 : Nat) : K)

def make (tile : TileNode) : TileSprite K := ⟨tile, initialSize, initialSize, ⟨0, 0⟩⟩

def setPosition (scene : SceneFrame K) (sprite : TileSprite K) : TileSprite K :=
  let width := scene.width / (MAX_COLUMNS : K)
  let height := scene.height / (MAX_ROWS : K)
  let ufX := (sprite.tile.column : K) / (MAX_COLUMNS : K) * scene.width
  let ufY := (sprite.tile.row : K) / (MAX_ROWS : K) * scene.height
  { sprite with
    width
    height
    position := ⟨ufX - scene.width / 2 + width / 2, ufY - scene.height / 2 + height / 2⟩ }

/-- The tile that the sprite stands for, by its row and its column. -/
def place (sprite : TileSprite K) : GridPosition := ⟨sprite.tile.column, sprite.tile.row⟩

/-- Strictly inside the rectangle of the sprite. -/
def Covers (sprite : TileSprite K) (point : CGPoint K) : Prop :=
  (sprite.position.x - sprite.width / 2 < point.x ∧
    point.x < sprite.position.x + sprite.width / 2) ∧
  sprite.position.y - sprite.height / 2 < point.y ∧
    point.y < sprite.position.y + sprite.height / 2

theorem set_position_centre (scene : SceneFrame K) (sprite : TileSprite K) :
    (sprite.setPosition scene).position = scene.tilePosition sprite.place := rfl

end TileSprite

/-- The tiles and the `scene` of a `TileManager`. -/
structure TileLayer (K : Type) [Zero K] [LT K] where
  tiles : Grid (TileSprite K)
  scene : Option (SceneFrame K)

namespace TileLayer

/-- The manager before `addTilesTo(scene:)`. -/
def make (manager : TileManager) : TileLayer K where
  tiles := manager.tiles.map fun row => row.map TileSprite.make
  scene := none

def addTilesTo (scene : SceneFrame K) (layer : TileLayer K) : TileLayer K where
  tiles := layer.tiles.map fun row => row.map (TileSprite.setPosition scene)
  scene := some scene

def getTile (layer : TileLayer K) (row column : Int) : Except Fault (TileSprite K) :=
  indexed (layer.tiles.at? row column)

/-- `indexFrom(position:)`, with the scene and the first tile that it unwraps. -/
def indexFrom [FloorRing K] (layer : TileLayer K) (position : CGPoint K) :
    Except Fault GridPosition := do
  let scene ← unwrapped layer.scene
  let row ← unwrapped layer.tiles.head?
  let first ← unwrapped row.head?
  let ratioX := position.x + scene.width / 2 - first.width / 2
  let column := rounded ((MAX_COLUMNS : K) * ratioX / scene.width)
  let ratioY := position.y + scene.height / 2 - first.height / 2
  let row := rounded ((MAX_ROWS : K) * ratioY / scene.height)
  return ⟨if 0 ≤ column ∧ column < MAX_COLUMNS then column else 0,
    if 0 ≤ row ∧ row < MAX_ROWS then row else 0⟩

theorem get_tile_added (scene : SceneFrame K) (layer : TileLayer K) (rows columns : Nat)
    (shape : layer.tiles.Shape rows columns) (place : GridPosition)
    (inside : Grid.Inside rows columns place.row place.column) :
    ∃ sprite, (layer.addTilesTo scene).getTile place.row place.column = .ok sprite := by
  have shape' := Grid.map_shape layer.tiles rows columns shape (TileSprite.setPosition scene)
  obtain ⟨sprite, hit⟩ := Grid.at_inside _ rows columns shape' place.row place.column inside
  refine ⟨sprite, ?_⟩
  rw [getTile, addTilesTo, hit, indexed]

/-- Behind the scene and the first tile `indexFrom` is the formula of the frame. -/
theorem index_from_added [FloorRing K] (scene : SceneFrame K) (layer : TileLayer K)
    (shape : layer.tiles.Shape MAX_ROWS MAX_COLUMNS) (position : CGPoint K) :
    (layer.addTilesTo scene).indexFrom position = .ok (scene.indexFrom position) := by
  obtain ⟨height, width⟩ := shape
  rcases found : layer.tiles with _ | ⟨row, rest⟩
  · rw [found] at height
    cases height
  · rcases filled : row with _ | ⟨first, others⟩
    · have empty := width row (by rw [found]; exact List.mem_cons_self)
      rw [filled] at empty
      cases empty
    · rw [indexFrom, addTilesTo, found, filled]
      rfl

end TileLayer

section Exact
variable [FloorRing K]

/-- Before it is rounded, a coordinate is the tile's and the offset from the
    centre in tiles. -/
theorem unrounded_column (scene : SceneFrame K) (place : GridPosition) (x : K) :
    (MAX_COLUMNS : K) * (x + scene.width / 2 - scene.tileWidth / 2) / scene.width =
      (place.column : K) + (x - (scene.tilePosition place).x) / scene.tileWidth := by
  have widthNe : scene.width ≠ 0 := scene.wide.ne'
  simp only [SceneFrame.tilePosition, SceneFrame.tileWidth, MAX_COLUMNS]
  field_simp
  ring

theorem unrounded_row (scene : SceneFrame K) (place : GridPosition) (y : K) :
    (MAX_ROWS : K) * (y + scene.height / 2 - scene.tileHeight / 2) / scene.height =
      (place.row : K) + (y - (scene.tilePosition place).y) / scene.tileHeight := by
  have heightNe : scene.height ≠ 0 := scene.tall.ne'
  simp only [SceneFrame.tilePosition, SceneFrame.tileHeight, MAX_ROWS]
  field_simp
  ring

variable [IsStrictOrderedRing K]

/-- An offset of less than half a tile does not leave the tile. -/
theorem rounded_offset (whole : Int) (centre size coordinate : K) (positive : 0 < size)
    (low : centre - size / 2 < coordinate) (high : coordinate < centre + size / 2) :
    rounded ((whole : K) + (coordinate - centre) / size) = whole := by
  have left : -(1 / 2) < (coordinate - centre) / size := by
    rw [lt_div_iff₀ positive]
    linarith
  have right : (coordinate - centre) / size < 1 / 2 := by
    rw [div_lt_iff₀ positive]
    linarith
  exact rounded_near _ whole (by linarith) (by linarith)

/-- Inside the rectangle of a tile both coordinates are rounded to the tile's. -/
theorem index_from_covered (scene : SceneFrame K) (sprite : TileSprite K)
    (onMap : OnMap sprite.place) (point : CGPoint K)
    (covered : (sprite.setPosition scene).Covers point) :
    scene.indexFrom point = sprite.place := by
  obtain ⟨⟨left, right⟩, below, above⟩ := covered
  obtain ⟨rowLow, rowHigh, columnLow, columnHigh⟩ := onMap
  have wide : 0 < scene.tileWidth := div_pos scene.wide (by simp [MAX_COLUMNS])
  have tall : 0 < scene.tileHeight := div_pos scene.tall (by simp [MAX_ROWS])
  have column := rounded_offset sprite.place.column _ _ point.x wide left right
  have row := rounded_offset sprite.place.row _ _ point.y tall below above
  rw [TileSprite.set_position_centre] at column row
  simp only [SceneFrame.indexFrom, unrounded_column scene sprite.place,
    unrounded_row scene sprite.place, column, row]
  rw [if_pos ⟨columnLow, columnHigh⟩, if_pos ⟨rowLow, rowHigh⟩]

/-- On every scene the tile manager finds each tile of the map at every point
    strictly inside the rectangle that `setPosition` gives it, and at every point
    of the plane some tile that `getTile` accepts. -/
theorem index_from_inverts (graph : GKGridGraph) (manager : TileManager)
    (filled : graph.nodes ≠ []) (made : TileManager.make graph = .ok manager)
    (scene : SceneFrame K) :
    (∀ sprite : TileSprite K, OnMap sprite.place → ∀ point,
      (sprite.setPosition scene).Covers point →
        ((TileLayer.make manager).addTilesTo scene).indexFrom point = .ok sprite.place) ∧
    ∀ point, ∃ place sprite,
      ((TileLayer.make manager).addTilesTo scene).indexFrom point = .ok place ∧
        ((TileLayer.make manager).addTilesTo scene).getTile place.row place.column =
          .ok sprite := by
  have shape : (TileLayer.make manager : TileLayer K).tiles.Shape MAX_ROWS MAX_COLUMNS :=
    Grid.map_shape manager.tiles _ _ (TileManager.make_shape graph manager filled made) _
  constructor
  · intro sprite onMap point covered
    rw [TileLayer.index_from_added scene _ shape,
      index_from_covered scene sprite onMap point covered]
  · intro point
    obtain ⟨sprite, found⟩ := TileLayer.get_tile_added scene _ _ _ shape (scene.indexFrom point)
      (index_from_on_map scene point)
    exact ⟨_, sprite, TileLayer.index_from_added scene _ shape point, found⟩

end Exact
end Placing

theorem first_maze_index_inverts : ∃ maze manager,
    Maze.generate MAX_COLUMNS MAX_ROWS (Maze.roundBound MAX_COLUMNS MAX_ROWS + 0) (fun _ => 0) =
        .ok maze ∧ TileManager.make maze.graph = .ok manager ∧
    ((∀ sprite : TileSprite ℚ, OnMap sprite.place → ∀ point,
      (sprite.setPosition SceneFrame.unit).Covers point →
        ((TileLayer.make manager).addTilesTo SceneFrame.unit).indexFrom point =
          .ok sprite.place) ∧
    ∀ point : CGPoint ℚ, ∃ place sprite,
      ((TileLayer.make manager).addTilesTo SceneFrame.unit).indexFrom point = .ok place ∧
        ((TileLayer.make manager).addTilesTo SceneFrame.unit).getTile place.row place.column =
          .ok sprite) := by
  obtain ⟨maze, manager, generated, made, scanned, -, graph⟩ :=
    Maze.generate_with_tiles 0 fun _ => 0
  have filled : maze.graph.nodes ≠ [] := by
    obtain ⟨tile, hit⟩ := Grid.at_inside maze.data _ _ scanned.1.shape 0 0 (by decide)
    have first := TileManager.graph_node_at maze.data scanned.1.shape 0 0 (by decide)
    intro empty
    rw [← graph, empty] at first
    simp [hit] at first
  exact ⟨maze, manager, generated, made,
    index_from_inverts maze.graph manager filled made SceneFrame.unit⟩

end RelicRace
