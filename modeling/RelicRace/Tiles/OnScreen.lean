import Mathlib.Algebra.Order.Archimedean.Real.Basic
import RelicRace.Library.SceneTree
import RelicRace.Tiles.Placed

/-!
`viewOnScreenTiles`: only the tiles in a window around the player are children of
the scene. The window is given in tiles, the view of the camera as a share of the
scene; a camera within the map never sees a tile that is left out.
-/

namespace RelicRace
open Library

namespace TileManager

/-- The manager of a graph without nodes. -/
def empty : TileManager := ⟨⟨[]⟩, []⟩

/-- The indices of `tiles` in the order of the two loops, as the positions of a map. -/
def places (manager : TileManager) : List GridPosition :=
  (List.range manager.tiles.length).flatMap fun y : Nat =>
    (List.range (manager.tiles[y]?.getD []).length).map fun x : Nat => ⟨x, y⟩

/-- `withinX && withinY`, with the four bounds of the window. -/
def withinWindow (gridPos place : GridPosition) : Bool :=
  let xlow := gridPos.column - 8
  let xlow := if xlow > 0 then xlow else 0
  let xHigh := gridPos.column + 8
  let xHigh := if xHigh < MAX_COLUMNS then xHigh else MAX_COLUMNS - 1
  let ylow := gridPos.row - 5
  let ylow := if ylow > 0 then ylow else 0
  let yHigh := gridPos.row + 5
  let yHigh := if yHigh < MAX_ROWS then yHigh else MAX_ROWS - 1
  (place.column ≥ xlow && place.column ≤ xHigh) && (place.row ≥ ylow && place.row ≤ yHigh)

/-- The body of the loops; `children` are the tiles that have a parent. -/
def viewTile (gridPos : GridPosition) (children : Finset GridPosition) (tile : GridPosition) :
    Option (Finset GridPosition) :=
  if !withinWindow gridPos tile then some (SceneTree.removeFromParent children [tile])
  else if tile ∉ children then SceneTree.addChild children tile
  else some children

def viewOnScreenTiles (manager : TileManager) (gridPos : GridPosition)
    (children : Finset GridPosition) : Option (Finset GridPosition) :=
  manager.places.foldlM (viewTile gridPos) children

/-- The part of `addTilesTo(scene:)` that makes the tiles children of the scene. -/
def addTiles (manager : TileManager) (children : Finset GridPosition) :
    Option (Finset GridPosition) :=
  SceneTree.addChildren children manager.places

/-- The part of `deAllocate()` that takes the tiles out of the scene. -/
def removeTiles (manager : TileManager) (children : Finset GridPosition) :
    Finset GridPosition :=
  SceneTree.removeFromParent children manager.places

/-- The tiles of the map around a place: eight columns and five rows to each side. -/
def Around (gridPos place : GridPosition) : Prop :=
  OnMap place ∧ |place.column - gridPos.column| ≤ 8 ∧ |place.row - gridPos.row| ≤ 5

theorem within_window_iff (gridPos place : GridPosition) (onMap : OnMap place) :
    withinWindow gridPos place = true ↔ Around gridPos place := by
  obtain ⟨rowLow, rowHigh, columnLow, columnHigh⟩ := onMap
  simp only [withinWindow, Bool.and_eq_true, decide_eq_true_eq]
  simp only [Around, OnMap, Grid.Inside, abs_le, MAX_COLUMNS, MAX_ROWS] at *
  split_ifs <;> omega

theorem view_tile_eq (gridPos : GridPosition) (children : Finset GridPosition)
    (tile : GridPosition) :
    viewTile gridPos children tile =
      some (if withinWindow gridPos tile then insert tile children else children.erase tile) := by
  rw [viewTile]
  by_cases within : withinWindow gridPos tile = true
  · by_cases child : tile ∈ children
    · simp [within, child]
    · simp [within, child, SceneTree.addChild]
  · simp [within, SceneTree.removeFromParent, Finset.sdiff_singleton_eq_erase]

section Shaped
variable {manager : TileManager} (shape : manager.tiles.Shape MAX_ROWS MAX_COLUMNS)
include shape

theorem places_eq : manager.places = (List.range MAX_ROWS).flatMap fun y : Nat =>
    (List.range MAX_COLUMNS).map fun x : Nat => (⟨x, y⟩ : GridPosition) := by
  rw [places, shape.1]
  apply List.flatMap_congr
  intro y within
  rw [Grid.row_length manager.tiles _ _ shape y (List.mem_range.mp within)]

theorem mem_places (place : GridPosition) : place ∈ manager.places ↔ OnMap place := by
  rw [places_eq shape]
  simp only [List.mem_flatMap, List.mem_range, List.mem_map, OnMap, Grid.Inside]
  constructor
  · rintro ⟨y, within, x, reach, rfl⟩
    simp only
    omega
  · rintro ⟨rowLow, rowHigh, columnLow, columnHigh⟩
    refine ⟨place.row.toNat, by omega, place.column.toNat, by omega, ?_⟩
    ext
    · exact Int.toNat_of_nonneg columnLow
    · exact Int.toNat_of_nonneg rowLow

theorem places_nodup : manager.places.Nodup := by
  rw [places_eq shape, List.nodup_flatMap]
  refine ⟨fun y _ => ?_, ?_⟩
  · refine List.nodup_range.map fun first second same => ?_
    simpa using same
  · refine List.nodup_range.imp fun {first second} apart => ?_
    simp only [Function.onFun, List.disjoint_left, List.mem_map, List.mem_range]
    rintro place ⟨x, -, rfl⟩ ⟨x', -, same⟩
    simp only [GridPosition.mk.injEq] at same
    omega

/-- Whatever was shown before, afterwards exactly the window is. -/
theorem view_on_screen (gridPos : GridPosition) (children : Finset GridPosition)
    (mapped : ∀ place ∈ children, OnMap place) :
    ∃ after, manager.viewOnScreenTiles gridPos children = some after ∧
      ∀ place, place ∈ after ↔ Around gridPos place := by
  obtain ⟨after, passed, exact⟩ := SceneTree.pass_shows
    (fun tile => withinWindow gridPos tile = true) (viewTile gridPos) (view_tile_eq gridPos)
    manager.places children
  refine ⟨after, passed, fun place => ?_⟩
  rw [exact]
  by_cases onMap : OnMap place
  · rw [if_pos ((mem_places shape place).mpr onMap), within_window_iff gridPos place onMap]
  · rw [if_neg (fun listed => onMap ((mem_places shape place).mp listed))]
    exact iff_of_false (fun member => onMap (mapped place member)) (fun around => onMap around.1)

/-- On an empty scene all tiles of the map are added. -/
theorem add_tiles_empty : ∃ after, manager.addTiles ∅ = some after ∧
    ∀ place, place ∈ after ↔ OnMap place := by
  refine ⟨manager.places.toFinset, ?_, fun place => ?_⟩
  · rw [addTiles, SceneTree.add_children_eq _ (places_nodup shape)]
    simp
  · rw [List.mem_toFinset, mem_places shape]

theorem remove_tiles_empty (children : Finset GridPosition)
    (mapped : ∀ place ∈ children, OnMap place) : manager.removeTiles children = ∅ := by
  rw [removeTiles, SceneTree.removeFromParent, Finset.sdiff_eq_empty_iff_subset]
  intro place member
  rw [List.mem_toFinset, mem_places shape]
  exact mapped place member

end Shaped

theorem graph_filled (data : Grid MazeTile) (shape : data.Shape MAX_ROWS MAX_COLUMNS) :
    (Maze.graphOf data).nodes ≠ [] := by
  obtain ⟨tile, hit⟩ := Grid.at_inside data _ _ shape 0 0 (by decide)
  have first := graph_node_at data shape 0 0 (by decide)
  intro empty
  rw [empty] at first
  simp [hit] at first

end TileManager

/-! ### The view of the camera -/

section Camera
variable {K : Type} [Field K] [LinearOrder K]

/-- A real scene around the origin whose tiles are unit squares. -/
noncomputable def SceneFrame.realUnit : SceneFrame ℝ :=
  ⟨0, 0, ((37 : Nat) : ℝ), ((21 : Nat) : ℝ), by norm_num, by norm_num⟩

def cameraScaleConstant : K := ((4 : Nat) : K) / ((10 : Nat) : K)

namespace SceneFrame

/-- Strictly inside the rectangle that the tiles fill. -/
def Within (frame : SceneFrame K) (point : CGPoint K) : Prop :=
  |point.x| < frame.width / 2 ∧ |point.y| < frame.height / 2

/-- The camera shows the share `cameraScaleConstant` of the scene around it. -/
def InView (frame : SceneFrame K) (camera point : CGPoint K) : Prop :=
  |point.x - camera.x| ≤ cameraScaleConstant * frame.width / 2 ∧
    |point.y - camera.y| ≤ cameraScaleConstant * frame.height / 2

/-- Some point of the tile is in the view of the camera. -/
def Sees (frame : SceneFrame K) (camera : CGPoint K) (place : GridPosition) : Prop :=
  ∃ point, |point.x - (frame.tilePosition place).x| ≤ frame.tileWidth / 2 ∧
    |point.y - (frame.tilePosition place).y| ≤ frame.tileHeight / 2 ∧
    frame.InView camera point

end SceneFrame

theorem tile_centres (frame : SceneFrame K) (first second : GridPosition) :
    (frame.tilePosition first).x - (frame.tilePosition second).x =
        frame.tileWidth * ((first.column : K) - second.column) ∧
      (frame.tilePosition first).y - (frame.tilePosition second).y =
        frame.tileHeight * ((first.row : K) - second.row) := by
  simp only [SceneFrame.tilePosition, SceneFrame.tileWidth, SceneFrame.tileHeight]
  constructor <;> ring

variable [IsStrictOrderedRing K]

/-- Three steps of at most the given lengths lead at most their sum away. -/
theorem three_steps (first second third fourth one two three : K) (near : |first - second| ≤ one)
    (further : |second - third| ≤ two) (last : |third - fourth| ≤ three) :
    |first - fourth| ≤ one + two + three := by
  rw [abs_le] at *
  constructor <;> linarith

variable [FloorRing K]

/-- Rounding moves a value by a half at most. -/
theorem rounded_close (value : K) : |(rounded value : K) - value| ≤ 1 / 2 := by
  rw [rounded, abs_le]
  split
  · have low := Int.floor_le (value + 1 / 2)
    have high := Int.lt_floor_add_one (value + 1 / 2)
    constructor <;> linarith
  · have low := Int.le_ceil (value - 1 / 2)
    have high := Int.ceil_lt_add_one (value - 1 / 2)
    constructor <;> linarith

/-- A coordinate between the outer edges of the tiles is rounded to one of them. -/
theorem rounded_inside (size : Nat) (value : K) (low : -(1 / 2) < value)
    (high : value < size - 1 / 2) : 0 ≤ rounded value ∧ rounded value < size := by
  rw [rounded]
  split
  · rename_i positive
    refine ⟨Int.floor_nonneg.mpr (by linarith), Int.floor_lt.mpr ?_⟩
    push_cast
    linarith
  · rename_i negative
    have zero : ⌈value - 1 / 2⌉ = 0 := by
      rw [Int.ceil_eq_iff]
      push_cast
      constructor <;> linarith
    rw [zero]
    refine ⟨le_rfl, ?_⟩
    have some : (0 : K) < size := by linarith
    exact_mod_cast some

/-- A coordinate between the outer edges, in tiles from the first centre. -/
theorem unrounded_inside (size : Nat) (extent coordinate : K) (some : 0 < size)
    (wide : 0 < extent) (inside : |coordinate| < extent / 2) :
    -(1 / 2) < size * (coordinate + extent / 2 - extent / size / 2) / extent ∧
      size * (coordinate + extent / 2 - extent / size / 2) / extent < size - 1 / 2 := by
  obtain ⟨low, high⟩ := abs_lt.mp inside
  have many : (0 : K) < size := Nat.cast_pos.mpr some
  have shifted : size * (coordinate + extent / 2 - extent / size / 2) / extent =
      size * ((coordinate + extent / 2) / extent) - 1 / 2 := by
    field_simp
  have share : 0 < (coordinate + extent / 2) / extent := div_pos (by linarith) wide
  have share' : (coordinate + extent / 2) / extent < 1 := (div_lt_one wide).mpr (by linarith)
  rw [shifted]
  constructor
  · linarith [mul_pos many share]
  · linarith [mul_lt_mul_of_pos_left share' many]

/-- Within the map the camera is at most half a tile from the centre of its tile. -/
theorem camera_near_tile (frame : SceneFrame K) (camera : CGPoint K)
    (within : frame.Within camera) :
    |camera.x - (frame.tilePosition (frame.indexFrom camera)).x| ≤ frame.tileWidth / 2 ∧
      |camera.y - (frame.tilePosition (frame.indexFrom camera)).y| ≤ frame.tileHeight / 2 := by
  have wide : 0 < frame.tileWidth := div_pos frame.wide (by simp [MAX_COLUMNS])
  have tall : 0 < frame.tileHeight := div_pos frame.tall (by simp [MAX_ROWS])
  let column := (MAX_COLUMNS : K) * (camera.x + frame.width / 2 - frame.tileWidth / 2) / frame.width
  let row := (MAX_ROWS : K) * (camera.y + frame.height / 2 - frame.tileHeight / 2) / frame.height
  have index : frame.indexFrom camera = ⟨rounded column, rounded row⟩ := by
    obtain ⟨left, right⟩ :=
      unrounded_inside MAX_COLUMNS frame.width camera.x (by decide) frame.wide within.1
    obtain ⟨below, above⟩ :=
      unrounded_inside MAX_ROWS frame.height camera.y (by decide) frame.tall within.2
    have columnInside : 0 ≤ rounded column ∧ rounded column < MAX_COLUMNS :=
      rounded_inside MAX_COLUMNS column left right
    have rowInside : 0 ≤ rounded row ∧ rounded row < MAX_ROWS :=
      rounded_inside MAX_ROWS row below above
    simp only [SceneFrame.indexFrom]
    rw [if_pos columnInside, if_pos rowInside]
  rw [index]
  constructor
  · have off : (camera.x - (frame.tilePosition ⟨rounded column, rounded row⟩).x) /
        frame.tileWidth = column - rounded column :=
      eq_sub_of_add_eq' (unrounded_column frame ⟨rounded column, rounded row⟩ camera.x).symm
    have close := rounded_close column
    rw [abs_sub_comm, ← off, abs_div, abs_of_pos wide, div_le_iff₀ wide] at close
    linarith
  · have off : (camera.y - (frame.tilePosition ⟨rounded column, rounded row⟩).y) /
        frame.tileHeight = row - rounded row :=
      eq_sub_of_add_eq' (unrounded_row frame ⟨rounded column, rounded row⟩ camera.y).symm
    have close := rounded_close row
    rw [abs_sub_comm, ← off, abs_div, abs_of_pos tall, div_le_iff₀ tall] at close
    linarith

/-- Tiles whose centres are less than `bound + 1` sizes apart are `bound` apart at most. -/
theorem tiles_apart (size : K) (positive : 0 < size) (first second : Int) (bound : Nat)
    (near : |size * ((first : K) - second)| < size * (bound + 1)) :
    |first - second| ≤ bound := by
  rw [abs_mul, abs_of_pos positive] at near
  have less := lt_of_mul_lt_mul_left near positive.le
  have whole : |first - second| < (bound : Int) + 1 := by exact_mod_cast less
  omega

/-- A camera within the map sees only tiles of the window around its tile. -/
theorem sees_around (frame : SceneFrame K) (camera : CGPoint K) (within : frame.Within camera)
    (place : GridPosition) (onMap : OnMap place) (sees : frame.Sees camera place) :
    TileManager.Around (frame.indexFrom camera) place := by
  obtain ⟨point, columnIn, rowIn, columnSeen, rowSeen⟩ := sees
  obtain ⟨columnNear, rowNear⟩ := camera_near_tile frame camera within
  obtain ⟨columns, rows⟩ := tile_centres frame place (frame.indexFrom camera)
  have wide : 0 < frame.tileWidth := div_pos frame.wide (by simp [MAX_COLUMNS])
  have tall : 0 < frame.tileHeight := div_pos frame.tall (by simp [MAX_ROWS])
  have width : cameraScaleConstant * frame.width / 2 = frame.tileWidth * (74 / 10) := by
    simp only [cameraScaleConstant, SceneFrame.tileWidth, MAX_COLUMNS]
    ring
  have height : cameraScaleConstant * frame.height / 2 = frame.tileHeight * (42 / 10) := by
    simp only [cameraScaleConstant, SceneFrame.tileHeight, MAX_ROWS]
    ring
  rw [abs_sub_comm] at columnIn rowIn
  refine ⟨onMap, ?_, ?_⟩
  · apply tiles_apart frame.tileWidth wide _ _ 8
    have far := three_steps _ _ _ _ _ _ _ columnIn columnSeen columnNear
    rw [columns, width] at far
    push_cast
    linarith
  · apply tiles_apart frame.tileHeight tall _ _ 5
    have far := three_steps _ _ _ _ _ _ _ rowIn rowSeen rowNear
    rw [rows, height] at far
    push_cast
    linarith

end Camera
end RelicRace
