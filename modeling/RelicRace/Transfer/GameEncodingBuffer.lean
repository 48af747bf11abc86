import RelicRace.Library.Json
import RelicRace.Monster.Basic

/-!
`GameEncodingBuffer`: the map as letters and the paths of the monsters, its
JSON form, the maze that `Maze(from:)` builds from it and the monsters of
`getMonsters`.
-/

namespace RelicRace
open Library

structure GameEncodingBuffer where
  tiles : Grid String
  paths : List (List GridPosition)
  deriving DecidableEq

def Cell.letter : Cell → String
  | .Wall => "w"
  | .Space => "s"

section Encoding
variable {K : Type}

/-- `init(from:and:)`. -/
def GameEncodingBuffer.make (maze : Maze) (monsters : List (Monster K)) : GameEncodingBuffer where
  tiles := maze.data.map fun sub => sub.map fun tile => tile.cellType.letter
  paths := monsters.map fun monster => monster.path.map (·.1)

end Encoding

/-! The keys are the names of the stored properties. -/

def GridPosition.codec : Json.Codec GridPosition where
  write place := .object [("column", .number place.column), ("row", .number place.row)]
  read value := do
    let column ← (value.key? "column").bind Json.Codec.number.read
    let row ← (value.key? "row").bind Json.Codec.number.read
    return ⟨column, row⟩
  read_write _ := rfl

def GameEncodingBuffer.codec : Json.Codec GameEncodingBuffer where
  write buffer := .object
    [("tiles", (Json.Codec.text.list.list).write buffer.tiles),
      ("paths", (GridPosition.codec.list.list).write buffer.paths)]
  read value := do
    let tiles ← (value.key? "tiles").bind (Json.Codec.text.list.list).read
    let paths ← (value.key? "paths").bind (GridPosition.codec.list.list).read
    return ⟨tiles, paths⟩
  read_write buffer := by
    simp [Json.Value.key?, Json.Codec.read_write]

namespace Maze

def letterAt (tiles : Grid String) (place : GridPosition) : Except Fault String :=
  indexed (tiles.at? place.row place.column)

/-- The places whose letters are compared, in the order of the source. -/
def beside (place : GridPosition) : List GridPosition :=
  [⟨place.column, place.row + 1⟩, ⟨place.column, place.row - 1⟩,
    ⟨place.column + 1, place.row⟩, ⟨place.column - 1, place.row⟩]

def linkSpace (tiles : Grid String) (node : GKGridGraphNode) (target : GridPosition) :
    Except Fault GKGridGraphNode := do
  let letter ← letterAt tiles target
  return if letter = "s" then node.connect target else node

/-- One round of the loops under "Add Connections". The connections are not
    bidirectional, so a round changes its own node only. -/
def decodeNode (tiles : Grid String) (y x : Nat) : Except Fault GKGridGraphNode := do
  let node : GKGridGraphNode := { gridPosition := ⟨x, y⟩, connectedNodes := [] }
  if x = 0 ∨ x = MAX_COLUMNS ∨ y = 0 ∨ y = MAX_ROWS then
    return node
  else
    let letter ← letterAt tiles ⟨x, y⟩
    if letter = "s" then (beside ⟨x, y⟩).foldlM (linkSpace tiles) node
    else return node

/-- `Maze(from:)`; `data`, `visitedMap` and `mazeStack` keep their defaults. -/
def fromBuffer (decoder : GameEncodingBuffer) : Except Fault Maze := do
  let tiles := decoder.tiles
  let nodes2D ← (List.range tiles.length).mapM fun y =>
    (List.range (tiles[y]?.getD []).length).mapM fun x => decodeNode tiles y x
  return {
    graph := ⟨nodes2D.flatten⟩
    mazeWidth := MAX_COLUMNS
    mazeHeight := MAX_ROWS
    data := []
    visitedMap := []
    mazeStack := ⟨[]⟩ }

end Maze

namespace GameEncodingBuffer
variable {K : Type} [Field K] [LinearOrder K]

/-- One round of `for i in 0..<paths.count`. -/
def getMonster (manager : TileManager) (frame : SceneFrame K) (i : Nat) (path : List GridPosition)
    (draws : Draws) : Except Fault (Monster K × Draws) := do
  let (curMonster, draws) ← Monster.spawn manager frame 0 draws
  let curMonster := Monster.stop { curMonster with name := "monster" ++ toString i }
  let tiles ← path.mapM fun point => manager.getTile point.row point.column
  let actions := tiles.map (TileNode.position frame)
  let curMonster := { curMonster with position := actions.head?.getD curMonster.position }
  return (curMonster.run actions, draws)

def getMonstersFrom (manager : TileManager) (frame : SceneFrame K) :
    Nat → List (List GridPosition) → Draws → Except Fault (List (Monster K) × Draws)
  | _, [], draws => .ok ([], draws)
  | i, path :: rest, draws => do
      let (curMonster, draws) ← getMonster manager frame i path draws
      let (monsters, draws) ← getMonstersFrom manager frame (i + 1) rest draws
      return (curMonster :: monsters, draws)

def getMonsters (buffer : GameEncodingBuffer) (manager : TileManager) (frame : SceneFrame K)
    (draws : Draws) : Except Fault (List (Monster K) × Draws) :=
  getMonstersFrom manager frame 0 buffer.paths draws

end GameEncodingBuffer
end RelicRace
