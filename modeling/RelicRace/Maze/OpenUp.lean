import RelicRace.Maze.Carve

/-!
`openUpMap` opens passages at the dead ends that `carve` leaves, and
`init(width:height:)` then collects the nodes row by row. Here `y` counts rows
and `x` columns. The border rule is written with the constants of the class,
not with `mazeWidth` and `mazeHeight`.
-/

namespace RelicRace
open Library

/-- The direction `nodeDirections` reports for one connected node. -/
def GKGridGraphNode.directionTo (node : GKGridGraphNode) (target : GridPosition) :
    List Direction :=
  let curPos := node.gridPosition
  if curPos.column = target.column ∧ curPos.row = target.row + 1 then [.up]
  else if curPos.column = target.column ∧ curPos.row = target.row - 1 then [.down]
  -- A target on the left is reported as `right`, one on the right as `left`.
  else if curPos.column = target.column + 1 ∧ curPos.row = target.row then [.right]
  else if curPos.column = target.column - 1 ∧ curPos.row = target.row then [.left]
  else []

def GKGridGraphNode.nodeDirections (node : GKGridGraphNode) : List Direction :=
  node.connectedNodes.flatMap node.directionTo

/-- Rows and columns between a cell and its neighbour, as `openUpMap` reads a
    direction: `up` is the row before, `left` the column before. -/
def Direction.offset : Direction → Int × Int
  | .up => (-1, 0)
  | .down => (1, 0)
  | .left => (0, -1)
  | .right => (0, 1)
  | .none => (0, 0)

def GridPosition.towards (place : GridPosition) (direction : Direction) (steps : Int) :
    GridPosition :=
  ⟨place.column + steps * direction.offset.2, place.row + steps * direction.offset.1⟩

namespace Maze

/-- `possibleDirection` before the existing connections are filtered out. -/
def borderRule (y x : Int) : List Direction :=
  let columns := (MAX_COLUMNS : Int)
  let rows := (MAX_ROWS : Int)
  let sideways : List Direction :=
    if x = columns - 2 then [.left] else if x = 1 then [.right] else []
  let upright : List Direction :=
    if y = rows - 2 then [.up] else if y = 1 then [.down] else []
  if sideways ++ upright = [] then [.up, .down, .left, .right] else sideways ++ upright

/-- The cell types set after a passage has been opened. -/
def openCells (data : Grid MazeTile) (place : GridPosition) : Direction →
    Except Fault (Grid MazeTile)
  | .none => .ok data
  | possibility => do
      let data ← updateTile data (place.towards possibility 1) MazeTile.opened
      updateTile data (place.towards possibility 2) MazeTile.opened

/-- One round of `for possibility in possibleDirection`. -/
def tryPossibility (place : GridPosition) (data : Grid MazeTile) (possibility : Direction) :
    Except Fault (Grid MazeTile) := do
  let place1 := place.towards possibility 1
  let place2 := place.towards possibility 2
  let tile1 ← indexed (tileAt? data place1)
  let tile2 ← indexed (tileAt? data place2)
  if tile1.node.connectedNodes.length ≤ 1 ∧ tile2.node.connectedNodes.length ≤ 2 then
    let data ← addConnections data place place1
    let data ← addConnections data place1 place2
    openCells data place possibility
  else
    return data

/-- The possible directions of a dead end that its node is not seen to have. -/
def candidates (node : GKGridGraphNode) (y x : Int) : List Direction :=
  (borderRule y x).filter fun possibility => possibility ∉ node.nodeDirections

/-- One cell of the scan of `openUpMap`. -/
def openUpCell (data : Grid MazeTile) (y x : Nat) : Except Fault (Grid MazeTile) := do
  let place : GridPosition := ⟨x, y⟩
  let tile ← indexed (tileAt? data place)
  if tile.node.connectedNodes.length ≠ 1 then
    return data
  else
    (candidates tile.node y x).foldlM (tryPossibility place) data

def openUpRow (data : Grid MazeTile) (y : Nat) : Except Fault (Grid MazeTile) :=
  (List.range (data[y]?.getD []).length).foldlM (fun data x => openUpCell data y x) data

def openUpMap (data : Grid MazeTile) : Except Fault (Grid MazeTile) :=
  (List.range data.length).foldlM openUpRow data

/-- The nodes of all tiles in reading order. -/
def graphOf (data : Grid MazeTile) : GKGridGraph := ⟨data.flatten.map (·.node)⟩

/-- `Maze(width:height:)`, with `limit` bounding the rounds of `carve`. -/
def generate (width height limit : Nat) (draws : Nat → Nat) : Except Fault Maze := do
  let maze ← carved width height limit draws
  let data ← openUpMap maze.data
  return { maze with data, graph := graphOf data }

end Maze
end RelicRace
