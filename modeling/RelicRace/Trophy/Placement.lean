import RelicRace.Trophy.Circle
import RelicRace.Trophy.Distances

/-!
`Trophy.setRandomPosition()`: the fair tiles by maze distance, and the two
fallbacks. A placement draws one element of a list and one number of a range
at most, so `TrophyDraw` holds one of each.
-/

namespace RelicRace
open Library

/-- `fraction` is where a drawn number lies in its range. -/
structure TrophyDraw (K : Type) [Zero K] [One K] [LE K] [LT K] where
  element : Nat
  fraction : K
  low : 0 ≤ fraction
  high : fraction < 1

/-- What the trophy reads of its `gameScene`. -/
structure TrophyScene (K : Type) [Zero K] [LT K] where
  tileManager : TileManager
  mazeGraph : GKGridGraph
  frame : SceneFrame K
  player1 : CGPoint K
  opponent : CGPoint K

namespace Trophy

def isViable (mappedDist1 mappedDist2 : Int) : Bool :=
  let MIN_LENGTH_OT := mappedDist2 > 36
  let MIN_LENGTH_PT := mappedDist1 > 36
  let SIMILIAR_LENTH := mappedDist2 + 7 ≥ mappedDist1 ∧ mappedDist2 - 7 ≤ mappedDist1
  MIN_LENGTH_OT && MIN_LENGTH_PT && SIMILIAR_LENTH

def viableCell (mappedDist1 mappedDist2 : Grid Int) (place : GridPosition) :
    Except Fault (List GridPosition) := do
  let dist2 ← readAt mappedDist2 place
  let dist1 ← readAt mappedDist1 place
  return if isViable dist1 dist2 then [place] else []

/-- The loops that compare the two mappings. -/
def viableTile (mappedDist1 mappedDist2 : Grid Int) : Except Fault (List GridPosition) := do
  let rows ← (List.range mappedDist1.length).mapM fun (y : Nat) => do
    let cells ← (List.range (mappedDist1[y]?.getD []).length).mapM fun (x : Nat) =>
      viableCell mappedDist1 mappedDist2 ⟨x, y⟩
    return cells.flatten
  return rows.flatten

end Trophy

section Neighbours
variable {K : Type} [Zero K] [LT K]

namespace TrophyScene

def nearestNeighbour (scene : TrophyScene K) (column row : Int) :
    Except Fault (Option TileNode) := do
  let newTile ← scene.tileManager.getTile row column
  return if newTile.typeName = "space" then some newTile else none

/-- `for direction in possibleDirection`; here `up` is the row after. -/
def firstNeighbour (scene : TrophyScene K) (tilePos : GridPosition) :
    List Direction → Except Fault (Option TileNode)
  | [] => .ok none
  | direction :: rest => do
      let neighbourTile ← match direction with
        | .up => scene.nearestNeighbour tilePos.column (tilePos.row + 1)
        | .down => scene.nearestNeighbour tilePos.column (tilePos.row - 1)
        | .left => scene.nearestNeighbour (tilePos.column - 1) tilePos.row
        | .right => scene.nearestNeighbour (tilePos.column + 1) tilePos.row
        | .none => .ok none
      match neighbourTile with
      | some tile => return some tile
      | none => scene.firstNeighbour tilePos rest

/-- The possible directions are chosen by the rule that `openUpMap` has, and the
    result is unwrapped. -/
def changeToNeighbour (scene : TrophyScene K) (tilePos : GridPosition) : Except Fault TileNode := do
  let tile ← scene.firstNeighbour tilePos (Maze.borderRule tilePos.row tilePos.column)
  unwrapped tile

end TrophyScene
end Neighbours

section Placing
variable {K : Type} [Field K] [LinearOrder K]

/-- `CGFloat.random(in: lower..<upper)`. -/
def TrophyDraw.inRange (draw : TrophyDraw K) (lower upper : K) : Except Fault K :=
  if lower < upper then .ok (lower + draw.fraction * (upper - lower)) else .error .emptyRange

namespace TrophyScene
open Trophy

/-- The condition of `XimingsRandomTrophyPositioning` on a tile. -/
def ximingsCondition (scene : TrophyScene K) (tile : TileNode) : Bool :=
  let position := tile.position scene.frame
  let dx1 := |position.x - scene.player1.x|
  let dx2 := |position.x - scene.opponent.x|
  let dy1 := |position.y - scene.player1.y|
  let dy2 := |position.y - scene.opponent.y|
  |dx1 - dx2| < scene.frame.tileWidth * 7 && |dy1 - dy2| < scene.frame.tileHeight * 7 &&
    dx1 > scene.frame.tileWidth * 8 && dy1 > scene.frame.tileHeight * 8

/-- More than 8 tiles away from an actor, in both coordinates. -/
def Clear (frame : SceneFrame K) (actor : CGPoint K) (place : GridPosition) : Prop :=
  frame.tileWidth * 8 < |(frame.tilePosition place).x - actor.x| ∧
    frame.tileHeight * 8 < |(frame.tilePosition place).y - actor.y|

/-- Coordinate distances from the two actors that differ by less than 7 tiles. -/
def Similar (scene : TrophyScene K) (place : GridPosition) : Prop :=
  let position := scene.frame.tilePosition place
  |(|position.x - scene.player1.x| - |position.x - scene.opponent.x|)| <
      scene.frame.tileWidth * 7 ∧
    |(|position.y - scene.player1.y| - |position.y - scene.opponent.y|)| <
      scene.frame.tileHeight * 7

def ximingsRandomTrophyPositioning (scene : TrophyScene K) (draw : TrophyDraw K) :
    Except Fault (CGPoint K) := do
  let tile ← scene.tileManager.getRandomTile scene.ximingsCondition draw.element
  return tile.position scene.frame

variable [FloorRing K]

/-- `point(from:)`. What it computes about `closenessRadius` it does not use. -/
def point (scene : TrophyScene K) (first second : CGPoint K) (draw : TrophyDraw K) :
    Except Fault (CGPoint K) := do
  let height := scene.frame.height
  let width := scene.frame.width
  if first.x = second.x then
    let y ← draw.inRange (-height / 2) (height / 2)
    return ⟨first.x, y⟩
  else
    let m := (second.y - first.y) / (second.x - first.x)
    let b := first.y - m * first.x
    if rounded m = 0 then
      let x ← draw.inRange (-width / 2) (width / 2)
      return ⟨x, first.y⟩
    else
      let topIntVal := ((height / 2 - scene.frame.tileHeight) - b) / m
      let bottomIntVal := ((-height / 2 + scene.frame.tileHeight) - b) / m
      let LIMIT_LEFT := -width / 2 + scene.frame.tileWidth
      let LIMIT_RIGHT := width / 2 - scene.frame.tileWidth
      let limits : K × K :=
        if m > 0 then
          (if LIMIT_LEFT > bottomIntVal then LIMIT_LEFT else bottomIntVal,
            if LIMIT_RIGHT > topIntVal then topIntVal else LIMIT_RIGHT)
        else if m < 0 then
          (if LIMIT_LEFT > topIntVal then LIMIT_LEFT else topIntVal,
            if LIMIT_RIGHT > bottomIntVal then bottomIntVal else LIMIT_RIGHT)
        else (0, 0)
      let x ← draw.inRange limits.1 limits.2
      return ⟨x, m * x + b⟩

/-- The point of `CircleBasedRandomPositioning` for the solutions it has. -/
def circlePoint (scene : TrophyScene K) (solutions : List (CGPoint K)) (draw : TrophyDraw K) :
    Except Fault (CGPoint K) :=
  match solutions with
  | [solution] => do
      let y ← draw.inRange (-scene.frame.height / 2) (scene.frame.height / 2)
      return ⟨solution.x, y⟩
  | [first, second] => scene.point first second draw
  | _ => .ok ⟨0, 0⟩

/-- The tile at the drawn point, or a neighbour of it. -/
def circleTile (scene : TrophyScene K) (newPos : CGPoint K) (draw : TrophyDraw K) :
    Except Fault (CGPoint K) := do
  let tilePos := scene.frame.indexFrom newPos
  let tile ← scene.tileManager.getTile tilePos.row tilePos.column
  if tile.typeName = "space" then
    return tile.position scene.frame
  else
    let tile ← scene.changeToNeighbour tilePos
    if tile.typeName = "wall" then scene.ximingsRandomTrophyPositioning draw
    else return tile.position scene.frame

/-- The circles around the two actors, both with half the larger coordinate distance. -/
def circles (scene : TrophyScene K) : Circle K × Circle K :=
  let dx := |scene.opponent.x - scene.player1.x|
  let dy := |scene.opponent.y - scene.player1.y|
  let diameter := if dx > dy then dx else dy
  (⟨scene.player1.x, scene.player1.y, diameter / 2⟩,
    ⟨scene.opponent.x, scene.opponent.y, diameter / 2⟩)

variable [SquareRoot K]

def circleBasedRandomPositioning (scene : TrophyScene K) (draw : TrophyDraw K) :
    Except Fault (CGPoint K) := do
  let circle1 := scene.circles.1
  let circle2 := scene.circles.2
  let solutions := intersectTwoCircles circle1 circle2
  let sameCircle := circle1.x = circle2.x ∧ circle1.y = circle2.y
  if sameCircle ∨ solutions.isEmpty then
    scene.ximingsRandomTrophyPositioning draw
  else
    let newPos ← scene.circlePoint solutions draw
    scene.circleTile newPos draw

/-- The tiles that `MSTBasedFairPosition` chooses from. -/
def viableTile (scene : TrophyScene K) : Except Fault (List GridPosition) := do
  let playerPosGrid := scene.frame.indexFrom scene.player1
  let playerPos := playerPosGrid.row * MAX_COLUMNS + playerPosGrid.column
  let mappedDist1 ← distances playerPos scene.mazeGraph
  let oppPosGrid := scene.frame.indexFrom scene.opponent
  let oppPos := oppPosGrid.row * MAX_COLUMNS + oppPosGrid.column
  let mappedDist2 ← distances oppPos scene.mazeGraph
  Trophy.viableTile mappedDist1 mappedDist2

def mstBasedFairPosition (scene : TrophyScene K) (draw : TrophyDraw K) :
    Except Fault (CGPoint K) := do
  let viableTile ← scene.viableTile
  if viableTile.isEmpty then
    scene.circleBasedRandomPositioning draw
  else
    let randPos ← unwrapped viableTile[draw.element % viableTile.length]?
    let tile ← scene.tileManager.getTile randPos.row randPos.column
    return tile.position scene.frame

def setRandomPosition (scene : TrophyScene K) (draw : TrophyDraw K) : Except Fault (CGPoint K) :=
  scene.mstBasedFairPosition draw

end TrophyScene
end Placing

/-! ### The viable tiles -/

/-- The places of the map in reading order. -/
def placeList : List GridPosition :=
  (Grid.tabulate MAX_ROWS MAX_COLUMNS fun row column => (⟨column, row⟩ : GridPosition)).flatten

theorem place_list_mem (place : GridPosition) : place ∈ placeList ↔ OnMap place := by
  simp only [placeList, Grid.tabulate, List.mem_flatten, List.mem_map, List.mem_range]
  constructor
  · rintro ⟨_, ⟨row, within, rfl⟩, member⟩
    obtain ⟨column, reach, rfl⟩ := List.mem_map.mp member
    have reach := List.mem_range.mp reach
    simp only [OnMap, Grid.Inside]
    omega
  · rintro ⟨rowLow, rowHigh, columnLow, columnHigh⟩
    refine ⟨_, ⟨place.row.toNat, by omega, rfl⟩, List.mem_map.mpr ⟨place.column.toNat, ?_, ?_⟩⟩
    · exact List.mem_range.mpr (by omega)
    · exact GridPosition.ext (Int.toNat_of_nonneg columnLow) (Int.toNat_of_nonneg rowLow)

theorem place_list_nodup : placeList.Nodup := by
  rw [placeList, List.nodup_flatten]
  constructor
  · intro cells member
    obtain ⟨row, -, rfl⟩ := List.mem_map.mp member
    refine List.Nodup.map ?_ List.nodup_range
    intro first second same
    simpa using congrArg GridPosition.column same
  · rw [Grid.tabulate, List.pairwise_map]
    refine List.nodup_range.imp ?_
    intro first second apart place member member'
    obtain ⟨column, -, rfl⟩ := List.mem_map.mp member
    obtain ⟨column', -, same⟩ := List.mem_map.mp member'
    exact apart (by simpa using (congrArg GridPosition.row same).symm)

namespace Trophy

/-- A place whose two entries pass the comparison. -/
def viableAt (mappedDist1 mappedDist2 : Grid Int) (place : GridPosition) : Bool :=
  match mappedDist1.at? place.row place.column, mappedDist2.at? place.row place.column with
  | some dist1, some dist2 => isViable dist1 dist2
  | _, _ => false

theorem flatten_kept (keep : GridPosition → Bool) (places : List GridPosition) :
    (places.map fun place => if keep place then [place] else []).flatten = places.filter keep := by
  induction places with
  | nil => rfl
  | cons place rest ih => cases kept : keep place <;> simp [ih, kept]

/-- On two full tables the loops filter the places of the map. -/
theorem viable_tile_eq (mappedDist1 mappedDist2 : Grid Int)
    (shape : mappedDist1.Shape MAX_ROWS MAX_COLUMNS)
    (shape' : mappedDist2.Shape MAX_ROWS MAX_COLUMNS) :
    viableTile mappedDist1 mappedDist2 =
      .ok (placeList.filter (viableAt mappedDist1 mappedDist2)) := by
  let kept (place : GridPosition) : List GridPosition :=
    if viableAt mappedDist1 mappedDist2 place then [place] else []
  have cell (row column : Nat) (within : row < MAX_ROWS) (reach : column < MAX_COLUMNS) :
      viableCell mappedDist1 mappedDist2 ⟨column, row⟩ = .ok (kept ⟨column, row⟩) := by
    have inside : Grid.Inside MAX_ROWS MAX_COLUMNS row column := by
      simp only [Grid.Inside]
      omega
    obtain ⟨dist1, hit⟩ := Grid.at_inside mappedDist1 _ _ shape _ _ inside
    obtain ⟨dist2, hit'⟩ := Grid.at_inside mappedDist2 _ _ shape' _ _ inside
    simp [viableCell, readAt, hit, hit', indexed, kept, viableAt]
  have rows : (List.range mappedDist1.length).mapM (fun (y : Nat) => do
      let cells ← (List.range (mappedDist1[y]?.getD []).length).mapM fun (x : Nat) =>
        viableCell mappedDist1 mappedDist2 ⟨x, y⟩
      return cells.flatten) =
      .ok ((List.range MAX_ROWS).map fun (y : Nat) =>
        ((List.range MAX_COLUMNS).map fun (x : Nat) => kept ⟨x, y⟩).flatten) := by
    rw [shape.1]
    apply map_all_ok
    intro y within
    have within := List.mem_range.mp within
    rw [Grid.row_length mappedDist1 _ _ shape y within,
      map_all_ok _ (fun (x : Nat) => kept ⟨x, y⟩) _ fun x reach =>
        cell y x within (List.mem_range.mp reach), run_ok, run_pure]
  rw [viableTile, rows, run_ok, run_pure, placeList, List.filter_flatten, Grid.tabulate,
    List.map_map]
  congr 3
  funext y
  rw [Function.comp_apply, ← flatten_kept, List.map_map]
  rfl

end Trophy
end RelicRace
