import RelicRace.Tiles.TileManager

/-!
`Monster`: the random start tile, the two random arms of `generatePath` and the
repeating action built from them. Nodes of the path are references, modelled by
their grid positions. A draw of the sequence `draws` is used once; every
function returns the draws that are left.
-/

namespace RelicRace
open Library

abbrev Draws := Nat → Nat

def Draws.rest (draws : Draws) : Draws := fun index => draws (index + 1)

section Path

/-- `while i < connectedNodes.count`: every node of the path is taken out, and
    the index steps back by one after each removal. -/
def removeTraversed (path : List GridPosition) : Nat → Nat → List GridPosition → List GridPosition
  | 0, _, connectedNodes => connectedNodes
  | limit + 1, i, connectedNodes =>
      match connectedNodes[i]? with
      | some node =>
          -- The index stays: the source steps it back before the next round adds one.
          if node ∈ path then removeTraversed path limit i (connectedNodes.eraseIdx i)
          else removeTraversed path limit (i + 1) connectedNodes
      | none => connectedNodes

/-- `firstDirection` after a dead end: a fresh node that is part of no maze. -/
def noDirection : GridPosition := ⟨-1, -1⟩

/-- The rounds that are left of the first loop, for the given counters. -/
def firstPath (connected : GridPosition → List GridPosition) :
    List Nat → List GridPosition → Option GridPosition → Draws →
      Except Fault (List GridPosition × Option GridPosition × Draws)
  | [], path1, firstDirection, draws => .ok (path1, firstDirection, draws)
  | counter :: rest, path1, firstDirection, draws => do
      let node ← unwrapped path1.getLast?
      let nodes := connected node
      let nodes := removeTraversed path1 nodes.length 0 nodes
      match nodes[draws 0 % nodes.length]? with
      | none => return (path1, some noDirection, draws)
      | some newNode =>
          let firstDirection := if counter = 1 then some newNode else firstDirection
          firstPath connected rest (path1 ++ [newNode]) firstDirection draws.rest

def secondPath (connected : GridPosition → List GridPosition) (firstDirection : GridPosition) :
    List Nat → List GridPosition → Draws → Except Fault (List GridPosition × Draws)
  | [], path2, draws => .ok (path2, draws)
  | counter :: rest, path2, draws => do
      let node ← unwrapped path2.getLast?
      let nodes := connected node
      let nodes := if counter = 1 then nodes.erase firstDirection else nodes
      let nodes := removeTraversed path2 nodes.length 0 nodes
      match nodes[draws 0 % nodes.length]? with
      | none => return (path2, draws)
      | some newNode => secondPath connected firstDirection rest (path2 ++ [newNode]) draws.rest

/-- The nodes of the whole path, from the start node. -/
def fullPath (connected : GridPosition → List GridPosition) (oNode : GridPosition)
    (draws : Draws) : Except Fault (List GridPosition × Draws) := do
  let (path1, firstDirection, draws) ← firstPath connected [1, 2, 3, 4, 5] [oNode] none draws
  let firstDirection ← unwrapped firstDirection
  let (path2, draws) ← secondPath connected firstDirection [1, 2, 3, 4, 5] [oNode] draws
  return (path1 ++ path1.reverse ++ path2 ++ path2.reverse, draws)

end Path

section Actions
variable {K : Type} [Field K] [LinearOrder K]

/-- `path` is what the monster stores. Each element of `actions` is a sequence
    of moves that the monster repeats forever, as the positions it moves to. -/
structure Monster (K : Type) where
  number : Int
  name : String
  position : CGPoint K
  gridPos : GridPosition
  path : List MapPlace
  actions : List (List (CGPoint K))

namespace Monster

def MAX_MONSTERS : Nat := 4

def stop (monster : Monster K) : Monster K := { monster with actions := [] }

def run (monster : Monster K) (action : List (CGPoint K)) : Monster K :=
  { monster with actions := monster.actions ++ [action] }

/-- The condition of `setRandomPosition(num:)` on a tile. -/
def startCondition (frame : SceneFrame K) (num : Int) (tile : TileNode) : Bool :=
  let position := tile.position frame
  let right_bound := frame.midX + frame.tileWidth * 2
  let left_bound := frame.midX - frame.tileWidth * 2
  let top_bound := frame.midY + frame.tileHeight * 2
  let bottom_bound := frame.midY - frame.tileHeight * 2
  let intersection := tile.node.connectedNodes.length > 2
  let withinBounds : Bool :=
    if num % 4 = 0 then position.x > right_bound && position.y < bottom_bound
    else if num % 3 = 0 then position.x < left_bound && position.y < bottom_bound
    else if num % 2 = 0 then position.x < left_bound && position.y > top_bound
    -- `num % 1 == 0` holds of every number, so the last case is never reached.
    else if num % 1 = 0 then position.x > right_bound && position.y > top_bound
    else true
  intersection && withinBounds

def setRandomPosition (manager : TileManager) (frame : SceneFrame K) (monster : Monster K)
    (num : Int) (draws : Draws) : Except Fault (Monster K × GridPosition × Draws) := do
  let rand ← manager.getRandomTile (startCondition frame num) (draws 0)
  return ({ monster with gridPos := rand.node.gridPosition, position := rand.position frame },
    rand.node.gridPosition, draws.rest)

/-- One round of the loop that turns a node into an action and stores it. -/
def storeStep (manager : TileManager) (frame : SceneFrame K)
    (state : List MapPlace × List (CGPoint K)) (node : GridPosition) :
    Except Fault (List MapPlace × List (CGPoint K)) := do
  let tile ← manager.getTile node.row node.column
  -- `getTile` has trapped off the map; the branch gives the stored place its bounds.
  if onMap : OnMap node then
    return (state.1 ++ [⟨node, onMap⟩], state.2 ++ [tile.position frame])
  else
    throw .indexOutOfRange

def generatePath (manager : TileManager) (frame : SceneFrame K) (monster : Monster K)
    (draws : Draws) : Except Fault (Monster K × List (CGPoint K) × Draws) := do
  let (monster, oNode, draws) ← monster.setRandomPosition manager frame monster.number draws
  let (path, draws) ← fullPath manager.linksAt oNode draws
  let (stored, actions) ← path.foldlM (storeStep manager frame) (monster.path, [])
  return ({ monster with path := stored }, actions, draws)

/-- `init(texture:parent:number:)` with its call of `spawn`. -/
def spawn (manager : TileManager) (frame : SceneFrame K) (number : Int) (draws : Draws) :
    Except Fault (Monster K × Draws) := do
  let monster : Monster K := ⟨number, "", ⟨0, 0⟩, ⟨0, 0⟩, [], []⟩
  let (monster, action, draws) ← monster.generatePath manager frame draws
  return (monster.run action, draws)

/-- `GameScene.generateMonsters`, for the monsters of the given numbers. -/
def generateMonsters (manager : TileManager) (frame : SceneFrame K) :
    List Nat → Draws → Except Fault (List (Monster K) × Draws)
  | [], draws => .ok ([], draws)
  | counter :: rest, draws => do
      let (monster, draws) ← spawn manager frame counter draws
      let (others, draws) ← generateMonsters manager frame rest draws
      return ({ monster with name := "monster" ++ toString counter } :: others, draws)

end Monster
end Actions
end RelicRace
