import RelicRace.Game.Joystick
import RelicRace.Game.Sounds
import RelicRace.PvP.Position
import RelicRace.Tiles.OnScreen

/-!
`GameScene` as it is seen: the player and the camera, the joystick that moves
them, the nodes of the HUD around them, the walking animation, the tiles around
the camera and the menu of settings. Positions are exact. The physics engine may
displace the player between two steps.
-/

namespace RelicRace
open Library

section Screen
variable {K : Type} [Field K] [LinearOrder K]

def JOYSTICK_Y_OFFSET : K := ((200 : Nat) : K)
def MINIMAP_OFFSET_Y : K := ((325 : Nat) : K)
def DISPLAY_OFFSET_Y : K := ((375 : Nat) : K)
def LABEL_OFFSET_Y : K := ((375 : Nat) : K)

/-- The horizontal offsets, which change their signs. -/
structure HudOffsets (K : Type) where
  JOYSTICK_X_OFFSET : K
  LABEL_OFFSET_X : K
  MINIMAP_OFFSET_X : K
  DISPLAY_OFFSET_X : K

/-- The offsets and the positions of the nodes. -/
structure Hud (K : Type) where
  offsets : HudOffsets K
  joystick : CGPoint K
  minimap : CGPoint K
  healthPanel : CGPoint K
  playerScoreLabel : CGPoint K
  AIScoreLabel : CGPoint K
  pause : CGPoint K

/-- The labels of the settings menu that are coloured. -/
inductive OptionLabel where
  | moveJoystick_Right | moveJoystck_Left | moveMap_Right | moveMap_Left
  | soundOnLabel | soundOffLabel
  deriving DecidableEq

/-- The sign changes of `initializeHudPositions`. -/
def HudOffsets.initialized (settings : Settings) (offsets : HudOffsets K) : HudOffsets K :=
  let offsets := if !settings.joystick_On_The_Right then
    { offsets with
      JOYSTICK_X_OFFSET := offsets.JOYSTICK_X_OFFSET * -1
      LABEL_OFFSET_X := offsets.LABEL_OFFSET_X * -1 } else offsets
  if !settings.minimap_On_The_Left then
    { offsets with
      MINIMAP_OFFSET_X := offsets.MINIMAP_OFFSET_X * -1
      DISPLAY_OFFSET_X := offsets.DISPLAY_OFFSET_X * -1 } else offsets

namespace Hud

def placeJoystick (player : CGPoint K) (hud : Hud K) : Hud K :=
  { hud with joystick := ⟨player.x + hud.offsets.JOYSTICK_X_OFFSET, player.y - JOYSTICK_Y_OFFSET⟩ }

def placeMinimap (player : CGPoint K) (hud : Hud K) : Hud K :=
  { hud with minimap := ⟨player.x - hud.offsets.MINIMAP_OFFSET_X, player.y + MINIMAP_OFFSET_Y⟩ }

/-- `info.updateHealthPos`, called with the same arguments everywhere. -/
def updateHealthPos (player : CGPoint K) (hud : Hud K) : Hud K :=
  { hud with healthPanel := ⟨player.x + hud.offsets.DISPLAY_OFFSET_X, player.y + DISPLAY_OFFSET_Y⟩ }

/-- `info.updateScoreLabelPos`, called with the same arguments everywhere. -/
def updateScoreLabelPos (player : CGPoint K) (hud : Hud K) : Hud K :=
  { hud with
    playerScoreLabel := ⟨player.x - hud.offsets.DISPLAY_OFFSET_X, player.y - DISPLAY_OFFSET_Y⟩
    AIScoreLabel :=
      ⟨player.x - hud.offsets.DISPLAY_OFFSET_X, player.y - DISPLAY_OFFSET_Y - ((75 : Nat) : K)⟩ }

/-- The assignments to the labels themselves, and the call of `displayPlayerScore`
    and `displayAIScore` with the same arguments. -/
def placeScoreLabels (player : CGPoint K) (hud : Hud K) : Hud K :=
  { hud with
    playerScoreLabel := ⟨player.x - hud.offsets.LABEL_OFFSET_X, player.y - LABEL_OFFSET_Y⟩
    AIScoreLabel :=
      ⟨player.x - hud.offsets.LABEL_OFFSET_X, player.y - LABEL_OFFSET_Y - ((75 : Nat) : K)⟩ }

def placePause (player : CGPoint K) (hud : Hud K) : Hud K :=
  { hud with pause := ⟨player.x, player.y + DISPLAY_OFFSET_Y + ((35 : Nat) : K)⟩ }

/-- `spawnMinimap`, `spawnJoystick`, `spawnInfo` and `spawnPause` with the offsets of
    the declarations. -/
def spawn (player : CGPoint K) : Hud K :=
  let hud : Hud K :=
    { offsets :=
        { JOYSTICK_X_OFFSET := ((600 : Nat) : K)
          LABEL_OFFSET_X := ((600 : Nat) : K)
          MINIMAP_OFFSET_X := ((600 : Nat) : K)
          DISPLAY_OFFSET_X := ((625 : Nat) : K) }
      joystick := player
      minimap := player
      healthPanel := player
      playerScoreLabel := player
      AIScoreLabel := player
      pause := player }
  ((((hud.placeMinimap player).placeJoystick player).updateHealthPos player).placeScoreLabels
    player).placePause player

/-- The part of the tracking handler that moves the HUD. -/
def follow (player : CGPoint K) (hud : Hud K) : Hud K :=
  (((((hud.placeJoystick player).placeMinimap player).updateHealthPos player).updateScoreLabelPos
    player).placePause player).placeScoreLabels player

/-- The part of `hittingMonster` that moves the HUD. -/
def respawn (player : CGPoint K) (hud : Hud K) : Hud K :=
  ((((hud.placeJoystick player).placeMinimap player).updateHealthPos player).updateScoreLabelPos
    player).placePause player

def initializeHudPositions (settings : Settings) (player : CGPoint K) (hud : Hud K) : Hud K :=
  let hud := { hud with offsets := hud.offsets.initialized settings }
  (((hud.placeJoystick player).placeMinimap player).updateHealthPos player).updateScoreLabelPos
    player

/-- An offset that is turned only when it has the other sign. -/
def turned (negative : Bool) (offset : K) : K :=
  if negative then if offset > 0 then offset * -1 else offset
  else if offset < 0 then offset * -1 else offset

/-- The part of `moveJoystick(toTheRight:)` that moves the HUD. -/
def moveJoystick (toTheRight : Bool) (player : CGPoint K) (hud : Hud K) : Hud K :=
  let hud := { hud with
    offsets := { hud.offsets with
      JOYSTICK_X_OFFSET := turned (!toTheRight) hud.offsets.JOYSTICK_X_OFFSET
      LABEL_OFFSET_X := turned (!toTheRight) hud.offsets.LABEL_OFFSET_X } }
  (hud.placeJoystick player).placeScoreLabels player

/-- The part of `moveMinimap(toTheRight:)` that moves the HUD. -/
def moveMinimap (toTheRight : Bool) (player : CGPoint K) (hud : Hud K) : Hud K :=
  let hud := { hud with
    offsets := { hud.offsets with
      MINIMAP_OFFSET_X := turned toTheRight hud.offsets.MINIMAP_OFFSET_X
      DISPLAY_OFFSET_X := turned toTheRight hud.offsets.DISPLAY_OFFSET_X } }
  (hud.placeMinimap player).updateHealthPos player

end Hud

/-- `selectCorrectWalk`, with the previous position that it replaces. -/
def selectCorrectWalk (prevPos : Option (CGPoint K)) (playerPos : CGPoint K) : Direction :=
  match prevPos with
  | none => .none
  | some prevPos =>
      let dx := playerPos.x - prevPos.x
      let dy := playerPos.y - prevPos.y
      if playerPos.x = prevPos.x ∧ playerPos.y = prevPos.y then .none
      else if |dx| > |dy| then
        if playerPos.x > prevPos.x then .right
        else if playerPos.x < prevPos.x then .left
        else .none
      else if |dx| ≤ |dy| then
        if playerPos.y > prevPos.y then .up
        else if playerPos.y < prevPos.y then .down
        else .none
      else .none

/-- `walk` is the animation that the player runs, `none` for the still texture; `tiles`
    are the tiles with a parent, or nothing after an `addChild` that SpriteKit refuses;
    `greens` are the labels of the settings menu that are green. -/
structure GameScreen (K : Type) where
  player : CGPoint K
  gridPos : GridPosition
  camera : CGPoint K
  joystick : AnalogJoystick K
  hud : Hud K
  greens : List OptionLabel
  sounds : Sounds
  prevPos : Option (CGPoint K)
  prevDir : Option Direction
  walk : Direction
  tiles : Option (Finset GridPosition)
  isPausing : Bool

/-- What reaches the screen. A pause tap toggles; `displaced` is the physics engine. -/
inductive ScreenEvent (K : Type) where
  | touchesBegan (onStick : Bool)
  | touchesMoved (locations : List (CGPoint K))
  | touchesEnded
  | listen
  | displaced (position : CGPoint K)
  | monsterHit
  | tapPause
  | goToSettings
  | moveJoystick (toTheRight : Bool)
  | moveMinimap (toTheRight : Bool)
  | changeSound (turnOn : Bool)
  | endGame
  | tryAgain

namespace GameScreen

def viewOnScreenTiles [FloorRing K] (manager : TileManager) (frame : SceneFrame K)
    (screen : GameScreen K) : GameScreen K :=
  { screen with
    tiles := screen.tiles.bind (manager.viewOnScreenTiles (frame.indexFrom screen.player)) }

/-- The green labels after `goToSettings`, from the settings in force. -/
def optionLabels (settings : Settings) : List OptionLabel :=
  [if settings.joystick_On_The_Right then .moveJoystick_Right else .moveJoystck_Left,
    if settings.minimap_On_The_Left then .moveMap_Left else .moveMap_Right,
    if settings.music_Is_On then .soundOnLabel else .soundOffLabel]

/-- One label turns green and its neighbour white. -/
def recolour (green white : OptionLabel) (greens : List OptionLabel) : List OptionLabel :=
  green :: greens.filter fun label => label ≠ green ∧ label ≠ white

def moveJoystick (toTheRight : Bool) (screen : GameScreen K) : GameScreen K :=
  { screen with
    greens :=
      if toTheRight then recolour .moveJoystick_Right .moveJoystck_Left screen.greens
      else recolour .moveJoystck_Left .moveJoystick_Right screen.greens
    hud := screen.hud.moveJoystick toTheRight screen.player
    sounds := { screen.sounds with settings := screen.sounds.settings.setJoystick toTheRight } }

def moveMinimap (toTheRight : Bool) (screen : GameScreen K) : GameScreen K :=
  { screen with
    greens :=
      if toTheRight then recolour .moveMap_Right .moveMap_Left screen.greens
      else recolour .moveMap_Left .moveMap_Right screen.greens
    hud := screen.hud.moveMinimap toTheRight screen.player
    sounds := { screen.sounds with settings := screen.sounds.settings.setMinimap (!toTheRight) } }

def changeSound (turnOn : Bool) (screen : GameScreen K) : GameScreen K :=
  { screen with
    greens :=
      if turnOn then recolour .soundOnLabel .soundOffLabel screen.greens
      else recolour .soundOffLabel .soundOnLabel screen.greens
    sounds := screen.sounds.changeSound turnOn }

/-- `tileSetup` and `setupGame`. -/
def setupGame [FloorRing K] (manager : TileManager) (frame : SceneFrame K) (sounds : Sounds) :
    GameScreen K :=
  let player := frame.tilePosition playerTile.1
  let screen : GameScreen K :=
    { player
      gridPos := playerTile.1
      camera := player
      joystick := .make AnalogJoystick.spawnRadius
      hud := (Hud.spawn player).initializeHudPositions sounds.settings player
      greens := []
      sounds
      prevPos := none
      prevDir := none
      walk := .none
      tiles := manager.addTiles ∅
      isPausing := false }
  let screen := screen.viewOnScreenTiles manager frame
  let screen := screen.moveMinimap (!UserDefaults.bool sounds.settings.data.minimapPos)
  screen.moveJoystick (UserDefaults.bool sounds.settings.data.joystickPos)

def animateWalk (direction : Direction) (screen : GameScreen K) : GameScreen K :=
  { screen with walk := direction, sounds := screen.sounds.walk (direction ≠ .none) }

/-- `resetStick` with its `stopHandler`. -/
def resetStick (screen : GameScreen K) : GameScreen K :=
  animateWalk .none { screen with
    joystick := screen.joystick.resetStick
    prevPos := some screen.player }

/-- The setter of `joystick.disabled`. -/
def setDisabled (isDisabled : Bool) (screen : GameScreen K) : GameScreen K :=
  let screen := { screen with joystick := { screen.joystick with disabled := isDisabled } }
  if isDisabled then screen.resetStick else screen

/-- The `trackingHandler`. -/
def track [FloorRing K] (manager : TileManager) (frame : SceneFrame K) (screen : GameScreen K) :
    GameScreen K :=
  let player := ⟨screen.player.x + screen.joystick.velocity.x * velocityMultiplier,
    screen.player.y + screen.joystick.velocity.y * velocityMultiplier⟩
  let screen := { screen with player, camera := player, hud := screen.hud.follow player }
  let direction := selectCorrectWalk screen.prevPos player
  let screen := { screen with prevPos := some player }
  let screen := if some direction ≠ screen.prevDir then screen.animateWalk direction else screen
  let screen := { screen with prevDir := some direction }
  { screen.viewOnScreenTiles manager frame with gridPos := frame.indexFrom player }

/-- `hittingMonster` and the `viewOnScreenTiles` after it. -/
def hittingMonster [FloorRing K] (manager : TileManager) (frame : SceneFrame K)
    (screen : GameScreen K) : GameScreen K :=
  let player := frame.tilePosition playerTile.1
  let screen := { screen with player, camera := player, hud := screen.hud.respawn player }
  screen.viewOnScreenTiles manager frame

def tapPause (screen : GameScreen K) : GameScreen K :=
  { screen.setDisabled (!screen.isPausing) with isPausing := !screen.isPausing }

/-- The part of `endGame` that stops the player. -/
def endGame (screen : GameScreen K) : GameScreen K :=
  { screen.setDisabled true with walk := .none }

variable [FloorRing K] [SquareRoot K]

def step (manager : TileManager) (frame : SceneFrame K) (screen : GameScreen K) :
    ScreenEvent K → GameScreen K
  | .touchesBegan onStick => { screen with joystick := screen.joystick.touchesBegan onStick }
  | .touchesMoved locations => { screen with joystick := screen.joystick.touchesMoved locations }
  | .touchesEnded => screen.resetStick
  | .listen => if screen.joystick.tracking then screen.track manager frame else screen
  | .displaced position => { screen with player := position }
  | .monsterHit => screen.hittingMonster manager frame
  | .tapPause => screen.tapPause
  | .goToSettings => { screen with greens := optionLabels screen.sounds.settings }
  | .moveJoystick toTheRight => screen.moveJoystick toTheRight
  | .moveMinimap toTheRight => screen.moveMinimap toTheRight
  | .changeSound turnOn => screen.changeSound turnOn
  | .endGame => screen.endGame
  | .tryAgain => screen.setDisabled false

end GameScreen
end Screen
end RelicRace
