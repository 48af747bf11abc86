import RelicRace.Tiles.TileManager

/-!
`GameScene` between two frames: the collision flags, the scores, the health and
the tiles of the sprites. A sprite's position is modelled by the tile that
`indexFrom` finds for it. Every response is written over `Methods`, the methods
that subclasses override, so that the base scene and the two playable scenes
share the text of `update` and of the collision responses.
-/

namespace RelicRace

inductive Actor where
  | player
  | opponent
  deriving DecidableEq, Repr

/-- What happens in a scene. A display that is shown after a delay is recorded
    when its closure is queued. -/
inductive Call where
  | contact (actor : Actor)
  | incrementScore (actor : Actor)
  | setRandomPosition (tile : MapPlace)
  | moveShortestPath (source target : GridPosition)
  | onPlayerWin
  | opponentWin
  | onMonsterWin
  | endGame
  | roundWinDisplay (winner : String)
  | playerDiedDisplay
  | resetGameAfterPlayerDied
  deriving DecidableEq

structure InfoDisplay where
  playerScoreLabel : String
  AIScoreLabel : String
  heart1Hidden : Bool
  heart2Hidden : Bool
  heart3Hidden : Bool
  deriving DecidableEq

namespace InfoDisplay

def changePlayerScore (info : InfoDisplay) (newScore : Int) : InfoDisplay :=
  { info with playerScoreLabel := "Player Score: " ++ toString newScore }

def changeAIScore (info : InfoDisplay) (newScore : Int) : InfoDisplay :=
  { info with AIScoreLabel := "Opponent Score: " ++ toString newScore }

def changeHealth (info : InfoDisplay) (healthPoint : Int) : InfoDisplay :=
  if healthPoint = 2 then { info with heart3Hidden := true }
  else if healthPoint = 1 then { info with heart2Hidden := true }
  else if healthPoint = 0 then { info with heart1Hidden := true }
  else { info with heart1Hidden := false, heart2Hidden := false, heart3Hidden := false }

end InfoDisplay

/-- The tiles `tiles[Maze.MAX_ROWS-2][1]` and `tiles[1][Maze.MAX_COLUMNS-2]`. -/
def playerTile : MapPlace := ⟨⟨1, (MAX_ROWS : Int) - 2⟩, by decide⟩
def opponentTile : MapPlace := ⟨⟨(MAX_COLUMNS : Int) - 2, 1⟩, by decide⟩

/-- `trace` holds the calls, newest first. -/
structure GameScene where
  player1CollisionFlag : Bool := false
  opponentCollisionFlag : Bool := false
  monsterCollisionFlag : Int := -1
  player_Score : Int := 0
  player_Health : Int := 3
  score : Int := 0
  playerPosition : MapPlace := playerTile
  opponentPosition : MapPlace := opponentTile
  opponentGridPos : GridPosition := opponentTile.1
  opponentIsAI : Bool
  trophyPosition : MapPlace
  monsters : List String
  joystickDisabled : Bool := false
  pauseHidden : Bool := false
  info : InfoDisplay := ⟨"Player Score: 0", "Opponent Score: 0", false, false, false⟩
  trace : List Call := []
  deriving DecidableEq

/-- The names of the two bodies of a contact. -/
structure Contact where
  nameA : String
  nameB : String
  deriving DecidableEq

namespace Contact

def involves (contact : Contact) (name : String) : Bool :=
  contact.nameA = name || contact.nameB = name

/-- The actor that `didBegin` finds touching the trophy. -/
def actor? (contact : Contact) : Option Actor :=
  if contact.involves "wall" then none
  else if contact.involves "trophy" then
    if contact.involves "player1" then some .player
    else if contact.involves "ai" then some .opponent
    else none
  else none

end Contact

namespace GameScene

def call (scene : GameScene) (name : Call) : GameScene :=
  { scene with trace := name :: scene.trace }

/-- The flag of one monster, as the loop of `didBegin` sets it. -/
def monsterContact (contact : Contact) (scene : GameScene) (monster : String × Nat) : GameScene :=
  if contact.involves monster.1 && contact.involves "player1" then
    { scene with monsterCollisionFlag := monster.2 }
  else scene

def didBegin (scene : GameScene) (contact : Contact) : GameScene :=
  -- Contacts with a wall and with the trophy never reach the loop over the monsters.
  if contact.involves "wall" then scene
  else if contact.involves "trophy" then
    if contact.involves "player1" then
      { scene with player1CollisionFlag := true }.call (.contact .player)
    else if contact.involves "ai" then
      { scene with opponentCollisionFlag := true }.call (.contact .opponent)
    else scene
  else scene.monsters.zipIdx.foldl (monsterContact contact) scene

/-- `trophy.setRandomPosition()` with the tile it draws. -/
def placeTrophy (scene : GameScene) (tile : MapPlace) : GameScene :=
  { scene with trophyPosition := tile }.call (.setRandomPosition tile)

/-- `if let ai = opponent as? AI { ai.moveShortestPath(to: trophyGridPos) }`. -/
def sendAI (scene : GameScene) : GameScene :=
  if scene.opponentIsAI then
    scene.call (.moveShortestPath scene.opponentGridPos scene.trophyPosition.1)
  else scene

def playerToTrophyResponse (tile : MapPlace) (scene : GameScene) : GameScene :=
  let scene := { scene with player_Score := scene.player_Score + 1 }.call (.incrementScore .player)
  let scene := { scene with info := scene.info.changePlayerScore scene.player_Score }
  let scene := scene.placeTrophy tile
  let scene := { scene with opponentGridPos := scene.opponentPosition.1 }
  { scene.sendAI with player1CollisionFlag := false }

def opponentToTrophyResponse (tile : MapPlace) (scene : GameScene) : GameScene :=
  let scene := { scene with score := scene.score + 1 }.call (.incrementScore .opponent)
  let scene := { scene with info := scene.info.changeAIScore scene.score }
  let scene := scene.placeTrophy tile
  let scene := { scene with opponentGridPos := scene.opponentPosition.1 }
  { scene.sendAI with opponentCollisionFlag := false }

/-- `InfoDisplay.endGame()`. -/
def endGame (scene : GameScene) : GameScene :=
  { scene with
    joystickDisabled := true, pauseHidden := true
    player_Score := 0, player_Health := 3, score := 0 }.call .endGame

def onPlayerWin (scene : GameScene) : GameScene :=
  (scene.call .onPlayerWin).endGame.call (.roundWinDisplay "player")

def onMonsterWin (scene : GameScene) : GameScene :=
  (scene.call .onMonsterWin).endGame.call .playerDiedDisplay

def checkOpponentWin (scene : GameScene) : GameScene :=
  if scene.score ≥ 5 then
    (scene.call .opponentWin).endGame.call (.roundWinDisplay "opponent")
  else scene

def decreaseHealth (scene : GameScene) : GameScene :=
  if scene.player_Health > 0 then { scene with player_Health := scene.player_Health - 1 } else scene

/-- The part of `monsterCollisionResponse` before the check of the health. -/
def loseLife (scene : GameScene) : GameScene :=
  let scene := scene.decreaseHealth
  { scene with
    info := scene.info.changeHealth scene.player_Health
    playerPosition := playerTile
    monsterCollisionFlag := -1 }

def resetGameAfterPlayerDied (tile : MapPlace) (scene : GameScene) : GameScene :=
  let scene := { scene with player_Score := 0, player_Health := 3, score := 0 }
  let scene := scene.call .resetGameAfterPlayerDied
  let scene := { scene with
    info := scene.info.changeHealth scene.player_Health
    joystickDisabled := false
    opponentPosition := opponentTile
    opponentGridPos := opponentTile.1 }
  { (scene.placeTrophy tile).sendAI with pauseHidden := false }

end GameScene

/-- What a subclass of `GameScene` overrides, over its own state. -/
structure Methods (Scene : Type) where
  base : Scene → GameScene
  withBase : Scene → GameScene → Scene
  playerToTrophyResponse : MapPlace → Scene → Scene
  opponentToTrophyResponse : MapPlace → Scene → Scene
  onPlayerWin : Scene → Scene
  onMonsterWin : Scene → Scene
  checkOpponentWin : Scene → Scene

def GameScene.methods : Methods GameScene where
  base := id
  withBase _ scene := scene
  playerToTrophyResponse := GameScene.playerToTrophyResponse
  opponentToTrophyResponse := GameScene.opponentToTrophyResponse
  onPlayerWin := GameScene.onPlayerWin
  onMonsterWin := GameScene.onMonsterWin
  checkOpponentWin := GameScene.checkOpponentWin

namespace Methods
variable {Scene : Type} (methods : Methods Scene)

def playerCollisionResponse (tile : MapPlace) (scene : Scene) : Scene :=
  let scene := methods.playerToTrophyResponse tile scene
  if (methods.base scene).player_Score = 5 then methods.onPlayerWin scene else scene

def opponentCollisionResponse (tile : MapPlace) (scene : Scene) : Scene :=
  methods.checkOpponentWin (methods.opponentToTrophyResponse tile scene)

def monsterCollisionResponse (scene : Scene) : Scene :=
  let scene := methods.withBase scene (methods.base scene).loseLife
  if (methods.base scene).player_Health = 0 then methods.onMonsterWin scene else scene

/-! The three checks of `update`, one for each flag. -/

def checkPlayerFlag (playerDraw : MapPlace) (scene : Scene) : Scene :=
  if (methods.base scene).player1CollisionFlag then
    methods.playerCollisionResponse playerDraw scene
  else scene

def checkOpponentFlag (opponentDraw : MapPlace) (scene : Scene) : Scene :=
  if (methods.base scene).opponentCollisionFlag then
    methods.opponentCollisionResponse opponentDraw scene
  else scene

def checkMonsterFlag (scene : Scene) : Scene :=
  if (methods.base scene).monsterCollisionFlag ≠ -1 then
    methods.monsterCollisionResponse scene
  else scene

/-- `update`, up to the icons of the minimap. The two tiles are the ones that
    `setRandomPosition` draws in this frame. -/
def update (playerDraw opponentDraw : MapPlace) (scene : Scene) : Scene :=
  methods.checkMonsterFlag (methods.checkOpponentFlag opponentDraw
    (methods.checkPlayerFlag playerDraw scene))

end Methods

/-! ### What the responses and the checks do -/

namespace GameScene

@[simp] theorem call_trace (scene : GameScene) (name : Call) :
    (scene.call name).trace = name :: scene.trace := rfl

/-- The calls of a trophy response, without the award that comes first. -/
def placementCalls (scene : GameScene) (tile : MapPlace) : List Call :=
  if scene.opponentIsAI then
    [.moveShortestPath scene.opponentPosition.1 tile.1, .setRandomPosition tile]
  else [.setRandomPosition tile]

theorem player_response_eq (tile : MapPlace) (scene : GameScene) :
    scene.playerToTrophyResponse tile = { scene with
      player1CollisionFlag := false
      player_Score := scene.player_Score + 1
      info := scene.info.changePlayerScore (scene.player_Score + 1)
      trophyPosition := tile
      opponentGridPos := scene.opponentPosition.1
      trace := scene.placementCalls tile ++ .incrementScore .player :: scene.trace } := by
  cases ai : scene.opponentIsAI <;>
    simp [playerToTrophyResponse, sendAI, placementCalls, placeTrophy, call, ai]

theorem opponent_response_eq (tile : MapPlace) (scene : GameScene) :
    scene.opponentToTrophyResponse tile = { scene with
      opponentCollisionFlag := false
      score := scene.score + 1
      info := scene.info.changeAIScore (scene.score + 1)
      trophyPosition := tile
      opponentGridPos := scene.opponentPosition.1
      trace := scene.placementCalls tile ++ .incrementScore .opponent :: scene.trace } := by
  cases ai : scene.opponentIsAI <;>
    simp [opponentToTrophyResponse, sendAI, placementCalls, placeTrophy, call, ai]

variable (tile : MapPlace) (scene : GameScene)

/-! The three checks of the base scene, with the methods filled in. -/

theorem fifth_trophy : (scene.playerToTrophyResponse tile).player_Score = 5 ↔
    scene.player_Score = 4 := by
  have raised : (scene.playerToTrophyResponse tile).player_Score = scene.player_Score + 1 := by
    rw [player_response_eq]
  omega

theorem player_check_eq : methods.checkPlayerFlag tile scene =
    if scene.player1CollisionFlag then
      if scene.player_Score = 4 then (scene.playerToTrophyResponse tile).onPlayerWin
      else scene.playerToTrophyResponse tile
    else scene := by
  change (if scene.player1CollisionFlag then
    if (scene.playerToTrophyResponse tile).player_Score = 5 then _ else _ else scene) = _
  simp only [fifth_trophy]
  rfl

theorem opponent_check_eq : methods.checkOpponentFlag tile scene =
    if scene.opponentCollisionFlag then (scene.opponentToTrophyResponse tile).checkOpponentWin
    else scene := rfl

theorem monster_check_eq : methods.checkMonsterFlag scene =
    if scene.monsterCollisionFlag ≠ -1 then
      if scene.loseLife.player_Health = 0 then scene.loseLife.onMonsterWin else scene.loseLife
    else scene := rfl

/-- The loop over the monsters writes their flag only. -/
theorem monster_contacts_flag (contact : Contact) (monsters : List (String × Nat))
    (scene : GameScene) : ∃ flag, monsters.foldl (monsterContact contact) scene =
      { scene with monsterCollisionFlag := flag } := by
  induction monsters generalizing scene with
  | nil => exact ⟨scene.monsterCollisionFlag, rfl⟩
  | cons monster rest ih =>
      rw [List.foldl_cons, monsterContact]
      split
      · exact ih { scene with monsterCollisionFlag := monster.2 }
      · exact ih scene

/-- A contact sets the flag of the actor at the trophy, or that of a monster. -/
theorem did_begin_cases (contact : Contact) :
    (contact.actor? = some .player ∧ scene.didBegin contact =
      { scene with player1CollisionFlag := true }.call (.contact .player)) ∨
    (contact.actor? = some .opponent ∧ scene.didBegin contact =
      { scene with opponentCollisionFlag := true }.call (.contact .opponent)) ∨
    (contact.actor? = none ∧ ∃ flag, scene.didBegin contact =
      { scene with monsterCollisionFlag := flag }) := by
  rw [Contact.actor?, didBegin]
  split_ifs
  · exact Or.inr (Or.inr ⟨rfl, scene.monsterCollisionFlag, rfl⟩)
  · exact Or.inl ⟨rfl, rfl⟩
  · exact Or.inr (Or.inl ⟨rfl, rfl⟩)
  · exact Or.inr (Or.inr ⟨rfl, scene.monsterCollisionFlag, rfl⟩)
  · exact Or.inr (Or.inr ⟨rfl, monster_contacts_flag contact scene.monsters.zipIdx scene⟩)

/-- A lost life as one change of the scene. -/
theorem lose_life_eq : scene.loseLife = { scene with
    player_Health := scene.decreaseHealth.player_Health
    info := scene.info.changeHealth scene.decreaseHealth.player_Health
    playerPosition := playerTile
    monsterCollisionFlag := -1 } := by
  simp only [loseLife, decreaseHealth]
  split <;> rfl

theorem lose_life_trace : scene.loseLife.trace = scene.trace := by
  rw [lose_life_eq]

theorem lose_life_scores : scene.loseLife.player_Score = scene.player_Score ∧
    scene.loseLife.score = scene.score := by
  rw [lose_life_eq]
  exact ⟨rfl, rfl⟩

/-- A player who is alive has one life less. -/
theorem lose_life_left (alive : 0 < scene.player_Health) :
    scene.loseLife.player_Health = scene.player_Health - 1 := by
  rw [lose_life_eq, decreaseHealth, if_pos alive]

end GameScene
end RelicRace
