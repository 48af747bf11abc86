import RelicRace.Account.Document
import RelicRace.Game.Scene

/-!
`AIGameScene`: the single-player scene. Its overrides add the cached user data,
the three lists of times and the writes to the server; what they do to the base
scene is what `GameScene` does.
-/

namespace RelicRace

inductive Difficulty where
  | Easy
  | Hard
  | Impossible
  deriving DecidableEq, Repr

/-- `signedIn` is false without a user and for an anonymous one. `stored` holds
    the data given to `setData`, newest first. -/
structure AIGameScene where
  scene : GameScene
  signedIn : Bool
  difficulty : Difficulty
  allUserData : Document := Document.empty
  easyTime : List Int := []
  hardTime : List Int := []
  impossibleTime : List Int := []
  currency : Int := 0
  time : Int := 0
  timerRunning : Bool := true
  stored : List Document := []

namespace AIGameScene

/-- The completion of `requestGameData` with an existing document. -/
def loaded (game : AIGameScene) (document : Document) : AIGameScene :=
  { game with
    allUserData := document
    easyTime := game.easyTime ++ document.ints "easyTime"
    hardTime := game.hardTime ++ document.ints "hardTime"
    impossibleTime := game.impossibleTime ++ document.ints "impossibleTime"
    currency := document.int "currency" }

def storeToServer (game : AIGameScene) : AIGameScene :=
  { game with stored := game.allUserData :: game.stored }

/-- The write behind the two guards on the current user. -/
def storeIfSignedIn (game : AIGameScene) : AIGameScene :=
  if game.signedIn then game.storeToServer else game

/-- The part of `saveTime` before the guards. -/
def appendTime (game : AIGameScene) : AIGameScene :=
  let game := match game.difficulty with
    | .Easy => { game with easyTime := game.easyTime ++ [game.time] }
    | .Hard => { game with hardTime := game.hardTime ++ [game.time] }
    | .Impossible => { game with impossibleTime := game.impossibleTime ++ [game.time] }
  let allUserData := game.allUserData.set "easyTime" (.numbers game.easyTime)
  let allUserData := allUserData.set "hardTime" (.numbers game.hardTime)
  { game with allUserData := allUserData.set "impossibleTime" (.numbers game.impossibleTime) }

def saveTime (game : AIGameScene) : AIGameScene := game.appendTime.storeIfSignedIn

def invalidateTimer (game : AIGameScene) : AIGameScene := { game with timerRunning := false }

def playerToTrophyResponse (tile : MapPlace) (game : AIGameScene) : AIGameScene :=
  let game := { game with scene := game.scene.playerToTrophyResponse tile }
  let game := { game with currency := game.currency + 1 }
  { game with allUserData := game.allUserData.set "currency" (.number game.currency) }

def opponentToTrophyResponse (tile : MapPlace) (game : AIGameScene) : AIGameScene :=
  { game with scene := game.scene.opponentToTrophyResponse tile }

def onPlayerWin (game : AIGameScene) : AIGameScene :=
  let game := game.invalidateTimer.saveTime
  storeIfSignedIn { game with scene := game.scene.onPlayerWin }

def onMonsterWin (game : AIGameScene) : AIGameScene :=
  let game := game.invalidateTimer.storeIfSignedIn
  { game with scene := game.scene.onMonsterWin }

def checkOpponentWin (game : AIGameScene) : AIGameScene :=
  let game := if game.scene.score ≥ 5 then game.invalidateTimer.storeIfSignedIn else game
  { game with scene := game.scene.checkOpponentWin }

/-- The tap on "return". -/
def tapReturn (game : AIGameScene) : AIGameScene := game.storeIfSignedIn

/-- The tap on "tryagain": the timer starts again. -/
def tapTryAgain (tile : MapPlace) (game : AIGameScene) : AIGameScene :=
  { game with timerRunning := true, scene := game.scene.resetGameAfterPlayerDied tile }

def methods : Methods AIGameScene where
  base := scene
  withBase game scene := { game with scene }
  playerToTrophyResponse := playerToTrophyResponse
  opponentToTrophyResponse := opponentToTrophyResponse
  onPlayerWin := onPlayerWin
  onMonsterWin := onMonsterWin
  checkOpponentWin := checkOpponentWin

/-! What the overrides do to the base scene. -/

@[simp] theorem store_if_signed_in_scene (game : AIGameScene) :
    game.storeIfSignedIn.scene = game.scene := by
  simp only [storeIfSignedIn]
  split <;> rfl

@[simp] theorem save_time_scene (game : AIGameScene) : game.saveTime.scene = game.scene := by
  simp only [saveTime, appendTime, store_if_signed_in_scene]
  cases game.difficulty <;> rfl

@[simp] theorem invalidate_timer_scene (game : AIGameScene) :
    game.invalidateTimer.scene = game.scene := rfl

theorem check_opponent_win_scene (game : AIGameScene) :
    game.checkOpponentWin.scene = game.scene.checkOpponentWin := by
  simp only [checkOpponentWin]
  split <;> simp

theorem player_collision_scene (tile : MapPlace) (game : AIGameScene) :
    (methods.playerCollisionResponse tile game).scene =
      GameScene.methods.playerCollisionResponse tile game.scene := by
  change (if (game.scene.playerToTrophyResponse tile).player_Score = 5 then
      (game.playerToTrophyResponse tile).onPlayerWin else game.playerToTrophyResponse tile).scene =
    if (game.scene.playerToTrophyResponse tile).player_Score = 5 then
      (game.scene.playerToTrophyResponse tile).onPlayerWin
    else game.scene.playerToTrophyResponse tile
  split
  · simp [onPlayerWin, playerToTrophyResponse]
  · rfl

theorem opponent_collision_scene (tile : MapPlace) (game : AIGameScene) :
    (methods.opponentCollisionResponse tile game).scene =
      GameScene.methods.opponentCollisionResponse tile game.scene :=
  check_opponent_win_scene _

theorem monster_collision_scene (game : AIGameScene) :
    (methods.monsterCollisionResponse game).scene =
      GameScene.methods.monsterCollisionResponse game.scene := by
  change (if game.scene.loseLife.player_Health = 0 then
      onMonsterWin { game with scene := game.scene.loseLife }
      else { game with scene := game.scene.loseLife }).scene =
    if game.scene.loseLife.player_Health = 0 then game.scene.loseLife.onMonsterWin
    else game.scene.loseLife
  split
  · simp [onMonsterWin]
  · rfl

theorem player_check_scene (tile : MapPlace) (game : AIGameScene) :
    (methods.checkPlayerFlag tile game).scene =
      GameScene.methods.checkPlayerFlag tile game.scene := by
  simp only [Methods.checkPlayerFlag, apply_ite scene, player_collision_scene]
  rfl

theorem opponent_check_scene (tile : MapPlace) (game : AIGameScene) :
    (methods.checkOpponentFlag tile game).scene =
      GameScene.methods.checkOpponentFlag tile game.scene := by
  simp only [Methods.checkOpponentFlag, apply_ite scene, opponent_collision_scene]
  rfl

theorem monster_check_scene (game : AIGameScene) :
    (methods.checkMonsterFlag game).scene = GameScene.methods.checkMonsterFlag game.scene := by
  simp only [Methods.checkMonsterFlag, apply_ite scene, monster_collision_scene]
  rfl

/-- A frame of the single-player scene is a frame of the base scene. -/
theorem update_scene (playerDraw opponentDraw : MapPlace) (game : AIGameScene) :
    (methods.update playerDraw opponentDraw game).scene =
      GameScene.methods.update playerDraw opponentDraw game.scene := by
  rw [Methods.update, monster_check_scene, opponent_check_scene, player_check_scene]
  rfl

end AIGameScene
end RelicRace
