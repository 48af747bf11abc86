import RelicRace.Maze.Basic

/-!
`Maze.init(width:height:)` up to the end of `carve`: the blank map, the marking
of visited cells and the iterative depth-first carving. In `carve` the first
coordinate `x` is a row and the second one `y` a column. `draws` is the sequence
of random numbers: a draw from `0..<n` is its next element modulo `n`.
-/

namespace RelicRace
open Library

namespace Maze

def visitedAt (maze : Maze) (x y : Int) : Except Fault Bool := indexed (maze.visitedMap.at? x y)

def setVisited (visitedMap : Grid Bool) (place : Int × Int) : Except Fault (Grid Bool) :=
  match visitedMap.at? place.1 place.2 with
  | some _ => .ok (visitedMap.put place.1 place.2 true)
  | none => .error .indexOutOfRange

def placeWhen (guard : Bool) (x y : Int) : List (Int × Int) := if guard then [(x, y)] else []

/-- The cells `markVisited` writes, each under the guard the source gives it. -/
def surroundings (maze : Maze) (x y : Int) : List (Int × Int) :=
  let right := (maze.mazeWidth : Int)
  let bottom := (maze.mazeHeight : Int)
  [(x, y)] ++
    placeWhen (x > 1) (x - 1) y ++
    placeWhen (x > 1 && y > 1) (x - 1) (y - 1) ++
    placeWhen (x > 1 && y < right - 2) (x - 1) (y + 1) ++
    placeWhen (y > 1) x (y - 1) ++
    -- The one guard on a column that reaches the border.
    placeWhen (y < right - 1) x (y + 1) ++
    placeWhen (x < bottom - 2) (x + 1) y ++
    placeWhen (x < bottom - 2 && y > 1) (x + 1) (y - 1) ++
    placeWhen (x < bottom - 2 && y < right - 2) (x + 1) (y + 1)

def markVisited (maze : Maze) (x y : Int) : Except Fault Maze := do
  let visitedMap ← (maze.surroundings x y).foldlM setVisited maze.visitedMap
  return { maze with visitedMap }

def checkVisited (maze : Maze) : Bool := maze.visitedMap.all fun row => row.all id

/-- The source's 0: South, 1: East, 2: North, 3: West. -/
inductive Heading where
  | south
  | east
  | north
  | west
  deriving DecidableEq, Repr

/-- Rows and columns that one cell in this direction adds. -/
def Heading.offset : Heading → Int × Int
  | .south => (1, 0)
  | .east => (0, 1)
  | .north => (-1, 0)
  | .west => (0, -1)

/-- The bound that guards the look-up two cells away. -/
def withinReach (maze : Maze) (current : Int × Int) : Heading → Bool
  | .south => current.1 < (maze.mazeHeight : Int) - 3
  | .east => current.2 < (maze.mazeWidth : Int) - 3
  | .north => current.1 > 2
  | .west => current.2 > 2

def twoAway (current : Int × Int) (heading : Heading) : Int × Int :=
  (current.1 + 2 * heading.offset.1, current.2 + 2 * heading.offset.2)

def oneAway (current : Int × Int) (heading : Heading) : Int × Int :=
  (current.1 + heading.offset.1, current.2 + heading.offset.2)

def unvisitedNeighbor (maze : Maze) (heading : Heading) : Except Fault (List Heading) := do
  let current ← unwrapped maze.mazeStack.peek
  if maze.withinReach current heading then
    let seen ← maze.visitedAt (twoAway current heading).1 (twoAway current heading).2
    return if seen = false then [heading] else []
  else
    return []

def neighbors (maze : Maze) : Except Fault (List Heading) := do
  let south ← maze.unvisitedNeighbor .south
  let east ← maze.unvisitedNeighbor .east
  let north ← maze.unvisitedNeighbor .north
  let west ← maze.unvisitedNeighbor .west
  return south ++ east ++ north ++ west

def gridPlace (place : Int × Int) : GridPosition := ⟨place.2, place.1⟩

/-- One case of the `switch next_Direction` and the connections made after it. -/
def advance (maze : Maze) (heading : Heading) : Except Fault Maze := do
  let current ← unwrapped maze.mazeStack.peek
  let top := gridPlace current
  let firstTile := gridPlace (oneAway current heading)
  let secondTile := gridPlace (twoAway current heading)
  let maze := { maze with mazeStack := maze.mazeStack.push (twoAway current heading) }
  let maze ← maze.markVisited (twoAway current heading).1 (twoAway current heading).2
  let data ← updateTile maze.data firstTile MazeTile.opened
  let data ← addConnections data top firstTile
  let data ← updateTile data secondTile MazeTile.opened
  let data ← addConnections data firstTile secondTile
  return { maze with data }

def retreat (maze : Maze) : Maze := { maze with mazeStack := maze.mazeStack.pop }

/-- One round of the loop of `carve`, with the draws that are left after it. -/
def carveStep (maze : Maze) (draws : Nat → Nat) : Except Fault (Maze × (Nat → Nat)) := do
  let neighbors ← maze.neighbors
  match neighbors[draws 0 % neighbors.length]? with
  | some heading =>
      let maze ← maze.advance heading
      return (maze, fun index => draws (index + 1))
  -- A dead end takes no draw.
  | none => return (maze.retreat, draws)

/-- `carve`, with `limit` bounding the rounds of its `while` loop. -/
def carve : Nat → (Nat → Nat) → Maze → Except Fault Maze
  | 0, _, _ => .error .stepLimit
  | limit + 1, draws, maze =>
      if maze.checkVisited ≠ true then do
        let (maze, draws) ← maze.carveStep draws
        carve limit draws maze
      else
        .ok maze

/-- The outer walls start as visited. -/
def outerWall (width height row column : Nat) : Bool :=
  row = 0 || row + 1 = height || column = 0 || column + 1 = width

def blank (width height : Nat) : Maze where
  graph := ⟨[]⟩
  mazeWidth := width
  mazeHeight := height
  data := Grid.tabulate height width fun y x =>
    { node := { gridPosition := ⟨x, y⟩, connectedNodes := [] }, cellType := .Wall }
  visitedMap := Grid.tabulate height width (outerWall width height)
  mazeStack := ⟨[]⟩

/-- `init(width:height:)` up to and including `carve`. -/
def carved (width height limit : Nat) (draws : Nat → Nat) : Except Fault Maze := do
  let maze := blank width height
  let data ← updateTile maze.data (gridPlace (1, 1)) MazeTile.opened
  let maze := { maze with data, mazeStack := maze.mazeStack.push (1, 1) }
  let maze ← maze.markVisited 1 1
  carve limit draws maze

end Maze
end RelicRace
