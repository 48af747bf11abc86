import RelicRace.Trophy.FirstPlacement

/-!
The setup of a match. The generator makes the game data on the tap on Next,
sends the checksum and the bytes of the map and sets its game up; the receiver
decodes the map at the end of the stream and sets its own game up. The trophy
is part of `setupGame`, so each device draws its own.
-/

namespace RelicRace
open Library

/-- The part of a `PvPGameScene` that its setup writes. -/
structure MatchScene (K : Type) where
  mazeGraph : Option GKGridGraph := none
  graph : Option GKGridGraph := none
  tileManager : Option TileManager := none
  sharedMonsters : List (Monster K) := []
  monsters : List (Monster K) := []
  player1 : Option (CGPoint K) := none
  opponent : Option (CGPoint K) := none
  trophy : Option (CGPoint K) := none
  streamedMap : Json.Bytes := []
  checksumHash : String := ""
  startUpdateFlag : Bool := false
  alerts : List String := []

/-- How the session and the stream behave when the map goes out: whether
    `startStream` and `send` return, and what `write` returns for a count. -/
structure Link where
  startStream : Bool
  send : Bool
  write : Nat → Int

def Link.intact : Link := ⟨true, true, fun count => count⟩

/-- What left the generator. -/
structure Departure where
  checksum : Option String
  bytes : Json.Bytes

/-- The devices share the encoding and the hash; the size of the scene is given. -/
structure Platform (K : Type) [Zero K] [LT K] where
  coder : Json.Coder
  md5 : Json.Bytes → String
  frame : SceneFrame K

/-- The random draws of one setup. -/
structure SetupDraws (K : Type) [Zero K] [One K] [LE K] [LT K] where
  monsters : Draws
  trophy : TrophyDraw K

section Setup
variable {K : Type} [Field K] [LinearOrder K]

namespace MatchScene

/-- The tiles on which `characterInitialization` puts the actors, with the rest
    of what the trophy reads. -/
def trophyScene (frame : SceneFrame K) (scene : MatchScene K) : Except Fault (TrophyScene K) := do
  let tileManager ← unwrapped scene.tileManager
  let mazeGraph ← unwrapped scene.mazeGraph
  let playerTile ← tileManager.getTile ((MAX_ROWS : Int) - 2) 1
  let opponentTile ← tileManager.getTile 1 ((MAX_COLUMNS : Int) - 2)
  return ⟨tileManager, mazeGraph, frame, playerTile.position frame, opponentTile.position frame⟩

/-- The scene with its actors and its trophy; the monsters are those that the
    override of `generateMonsters` returns. -/
def populated (scene : MatchScene K) (placed : TrophyScene K) (trophy : CGPoint K) :
    MatchScene K :=
  { scene with
    monsters := scene.sharedMonsters
    player1 := some placed.player1
    opponent := some placed.opponent
    trophy := some trophy
    startUpdateFlag := true }

variable [FloorRing K] [SquareRoot K]

def setupGame (frame : SceneFrame K) (draw : TrophyDraw K) (scene : MatchScene K) :
    Except Fault (MatchScene K) := do
  let placed ← scene.trophyScene frame
  let trophy ← placed.setRandomPosition draw
  return scene.populated placed trophy

/-- The fields that both devices set from the maze they have. -/
def withMaze (scene : MatchScene K) (graph : GKGridGraph) (tileManager : TileManager)
    (sharedMonsters : List (Monster K)) : MatchScene K :=
  { scene with
    mazeGraph := some graph
    graph := some graph
    tileManager := some tileManager
    sharedMonsters }

def makeGameData (frame : SceneFrame K) (limit : Nat) (mazeDraws monsterDraws : Draws)
    (scene : MatchScene K) : Except Fault (GameEncodingBuffer × MatchScene K) := do
  let maze ← Maze.generate MAX_COLUMNS MAX_ROWS limit mazeDraws
  let tileManager ← TileManager.make maze.graph
  let (monsters, _) ← Monster.generateMonsters tileManager frame
    (List.range' 1 Monster.MAX_MONSTERS) monsterDraws
  return (GameEncodingBuffer.make maze monsters, scene.withMaze maze.graph tileManager monsters)

/-- The tap on Next. A `send` that throws ends it; the result of `write` is not
    looked at. -/
def tapNext (platform : Platform K) (link : Link) (limit : Nat) (mazeDraws : Draws)
    (draws : SetupDraws K) (scene : MatchScene K) : Except Fault (Departure × MatchScene K) := do
  let (buffer, scene) ← scene.makeGameData platform.frame limit mazeDraws draws.monsters
  let data := platform.coder.encodeAs GameEncodingBuffer.codec buffer
  if link.send then
    let written := if link.startStream then data.take (link.write data.length).toNat else []
    let scene ← scene.setupGame platform.frame draws.trophy
    return (⟨some (platform.md5 data), written⟩, scene)
  else
    return (⟨none, []⟩, scene)

def showConnectionErrorAlert (scene : MatchScene K) (message : String) : MatchScene K :=
  { scene with alerts := message :: scene.alerts }

/-- The `do` block at the end of the stream, from the decoding on; only the
    decoding can throw. -/
def decodeMap (platform : Platform K) (draws : Draws) (scene : MatchScene K) :
    Except Fault (MatchScene K) :=
  match platform.coder.decodeAs GameEncodingBuffer.codec scene.streamedMap with
  | none => .ok (scene.showConnectionErrorAlert "Disconnected during setup")
  | some buffer => do
      let maze ← Maze.fromBuffer buffer
      let tileManager ← TileManager.make maze.graph
      let (monsters, _) ← buffer.getMonsters tileManager platform.frame draws
      return scene.withMaze maze.graph tileManager monsters

/-- `endEncountered`. -/
def endEncountered (platform : Platform K) (draws : SetupDraws K) (scene : MatchScene K) :
    Except Fault (MatchScene K) :=
  if platform.md5 scene.streamedMap ≠ scene.checksumHash then
    .ok (scene.showConnectionErrorAlert "Checksums did not match")
  else do
    let scene ← scene.decodeMap platform draws.monsters
    scene.setupGame platform.frame draws.trophy

/-- A device that the checksum and then all reads of the stream have reached. -/
def arrived {bytes : Json.Bytes} (checksum : String) (reads : Reads bytes) : MatchScene K :=
  { streamedMap := reads.streamedMap, checksumHash := checksum }

end MatchScene

/-- The shared world of two devices: the graph, the routes and the trophy's tile. -/
structure SameWorld [FloorRing K] (frame : SceneFrame K) (first second : MatchScene K) : Prop where
  graph : ∃ graph graph', first.mazeGraph = some graph ∧ second.mazeGraph = some graph' ∧
    SameGraph graph graph'
  routes : first.monsters.map (·.actions) = second.monsters.map (·.actions)
  trophy : first.trophy.map frame.indexFrom = second.trophy.map frame.indexFrom

end Setup
end RelicRace
