import RelicRace.Game.Scene
import RelicRace.Library.Duplex

/-!
`PvPGameScene`: one of the two devices of a match. A message means what its
sender encodes; that its bytes are read so is in the module on packets.
`session(_:didReceive:fromPeer:)` reads every message by the phase of the
device: before `startUpdateFlag` is set it accepts a checksum only.
-/

namespace RelicRace
open Library

inductive Message where
  | checksum (hash : String)
  | position (pos : MapPlace)
  | scoring (score : Int) (pos : MapPlace)
  | death
  deriving DecidableEq

/-- The contents of a scoring packet. -/
def Message.scoring? : Message → Option (Int × MapPlace)
  | .scoring score pos => some (score, pos)
  | _ => none

/-- `outbox` holds the messages given to `mcSession.send`, oldest first. -/
structure PvPGameScene where
  scene : GameScene
  startUpdateFlag : Bool := false
  checksumHash : String := ""
  outbox : List Message := []
  deriving DecidableEq

namespace PvPGameScene

def send (device : PvPGameScene) (message : Message) : PvPGameScene :=
  { device with outbox := device.outbox ++ [message] }

/-- What `update` sends when 0.33 seconds have passed, the tile in `player1.gridPos`. -/
def sendPosition (sendPos : MapPlace) (device : PvPGameScene) : PvPGameScene :=
  device.send (.position sendPos)

/-! ### Overrides -/

/-- The packet holds the tile that `indexFrom` finds for the trophy. -/
def playerToTrophyResponse (tile : MapPlace) (device : PvPGameScene) : PvPGameScene :=
  let device := { device with scene := device.scene.playerToTrophyResponse tile }
  device.send (.scoring device.scene.player_Score device.scene.trophyPosition)

def opponentToTrophyResponse (_ : MapPlace) (device : PvPGameScene) : PvPGameScene := device

def onPlayerWin (device : PvPGameScene) : PvPGameScene :=
  { device with scene := device.scene.onPlayerWin }

def onMonsterWin (device : PvPGameScene) : PvPGameScene :=
  let device := device.send .death
  { device with scene := device.scene.onMonsterWin }

def checkOpponentWin (device : PvPGameScene) : PvPGameScene :=
  { device with scene := device.scene.checkOpponentWin }

def methods : Methods PvPGameScene where
  base := scene
  withBase device scene := { device with scene }
  playerToTrophyResponse := playerToTrophyResponse
  opponentToTrophyResponse := opponentToTrophyResponse
  onPlayerWin := onPlayerWin
  onMonsterWin := onMonsterWin
  checkOpponentWin := checkOpponentWin

/-! ### Received messages -/

/-- The branch of a player position. -/
def receivePosition (pos : MapPlace) (device : PvPGameScene) : PvPGameScene :=
  { device with scene := { device.scene with opponentPosition := pos } }

/-- The branch of a scoring packet. -/
def receiveScoring (value : Int) (pos : MapPlace) (device : PvPGameScene) : PvPGameScene :=
  let device := { device with scene := { device.scene with trophyPosition := pos } }
  let device := if value ≠ device.scene.score then
    { device with scene := { device.scene with
      score := value, info := device.scene.info.changeAIScore value } }
    else device
  device.checkOpponentWin

/-- The branch of the byte 1, up to the nodes that `roundWinDisplay` adds. -/
def receiveDeath (device : PvPGameScene) : PvPGameScene :=
  { device with scene := device.scene.call (.roundWinDisplay "player") }

/-- A checksum that comes too late is none of the three. -/
def receive (message : Message) (device : PvPGameScene) : PvPGameScene :=
  if device.startUpdateFlag then
    match message with
    | .checksum _ => device
    | .position pos => device.receivePosition pos
    | .scoring score pos => device.receiveScoring score pos
    | .death => device.receiveDeath
  else
    match message with
    | .checksum hash => { device with checksumHash := hash }
    | _ => device

/-! ### The device as a party of the match -/

/-- `setupGame` with the tile `trophySystemSetup` draws: new actors, and the
    device starts. -/
def setupGame (trophy : MapPlace) (monsters : List String) (device : PvPGameScene) :
    PvPGameScene :=
  { device with
    scene := { opponentIsAI := false, trophyPosition := trophy, monsters }
    startUpdateFlag := true }

/-- A position is sent by any frame; when frames come is left open. -/
inductive Event where
  | setupGame (trophy : MapPlace) (monsters : List String)
  | collect (draw : MapPlace)
  | monsterHit
  | sendPosition (sendPos : MapPlace)
  deriving DecidableEq

def Event.apply (device : PvPGameScene) : Event → PvPGameScene
  | .setupGame trophy monsters => device.setupGame trophy monsters
  | .collect draw => methods.playerCollisionResponse draw device
  | .monsterHit => methods.monsterCollisionResponse device
  | .sendPosition sendPos => device.sendPosition sendPos

/-- A device is set up once and plays from then on. -/
def Event.allowed (device : PvPGameScene) : Event → Bool
  | .setupGame _ _ => !device.startUpdateFlag
  | .collect _ => device.startUpdateFlag
  | .monsterHit => device.startUpdateFlag
  | .sendPosition _ => device.startUpdateFlag

/-- The messages that one event has sent are taken out of the outbox. -/
def Event.perform (device : PvPGameScene) (event : Event) : PvPGameScene × List Message :=
  let after := event.apply { device with outbox := [] }
  ({ after with outbox := [] }, after.outbox)

def party : Duplex.Party PvPGameScene Message Event where
  act event device := if event.allowed device then some (event.perform device) else none
  receive := receive

/-! ### What the events and the deliveries do -/

/-- The base scene after a collection: the fifth trophy wins the round. -/
def collected (draw : MapPlace) (scene : GameScene) : GameScene :=
  if scene.player_Score = 4 then (scene.playerToTrophyResponse draw).onPlayerWin
  else scene.playerToTrophyResponse draw

theorem collect_eq (draw : MapPlace) (device : PvPGameScene) :
    Event.apply device (.collect draw) =
      { device with
        scene := collected draw device.scene
        outbox := device.outbox ++ [.scoring (device.scene.player_Score + 1) draw] } := by
  have sent : (device.scene.playerToTrophyResponse draw).player_Score =
      device.scene.player_Score + 1 ∧
      (device.scene.playerToTrophyResponse draw).trophyPosition = draw := by
    rw [GameScene.player_response_eq]
    exact ⟨rfl, rfl⟩
  change (if (device.scene.playerToTrophyResponse draw).player_Score = 5 then
    (device.playerToTrophyResponse draw).onPlayerWin else device.playerToTrophyResponse draw) = _
  rw [collected, ← sent.1]
  by_cases won : (device.scene.playerToTrophyResponse draw).player_Score = 5
  · rw [if_pos won, if_pos ((GameScene.fifth_trophy draw device.scene).mp won)]
    simp only [playerToTrophyResponse, send, sent.2, onPlayerWin]
  · rw [if_neg won, if_neg (fun four => won ((GameScene.fifth_trophy draw device.scene).mpr four))]
    simp only [playerToTrophyResponse, send, sent.2]

/-- The base scene and the messages after a monster's hit. -/
theorem monster_hit_eq (device : PvPGameScene) :
    Event.apply device .monsterHit =
      if device.scene.loseLife.player_Health = 0 then
        { device with
          scene := device.scene.loseLife.onMonsterWin, outbox := device.outbox ++ [.death] }
      else { device with scene := device.scene.loseLife } := rfl

theorem hit_last_life {device : PvPGameScene}
    (last : device.scene.loseLife.player_Health = 0) :
    Event.perform device .monsterHit =
      ({ device with scene := device.scene.loseLife.onMonsterWin, outbox := [] }, [.death]) := by
  rw [Event.perform, monster_hit_eq, if_pos last]
  rfl

theorem hit_life_left {device : PvPGameScene}
    (left : ¬ device.scene.loseLife.player_Health = 0) :
    Event.perform device .monsterHit =
      ({ device with scene := device.scene.loseLife, outbox := [] }, []) := by
  rw [Event.perform, monster_hit_eq, if_neg left]

/-- A scoring packet sets the trophy and the score, and the fifth ends the round. -/
theorem receive_scoring_eq (value : Int) (pos : MapPlace) (device : PvPGameScene) :
    (device.receiveScoring value pos).scene =
      GameScene.checkOpponentWin { device.scene with
        trophyPosition := pos
        score := value
        info := if value = device.scene.score then device.scene.info
          else device.scene.info.changeAIScore value } := by
  simp only [receiveScoring, checkOpponentWin]
  by_cases same : value = device.scene.score
  · subst same
    simp
  · simp [same]

/-- Below five the packet sets the score and the trophy, and nothing ends. -/
theorem receive_scoring_short (value : Int) (pos : MapPlace) (device : PvPGameScene)
    (short : ¬ value ≥ 5) :
    (device.receiveScoring value pos).scene.score = value ∧
      (device.receiveScoring value pos).scene.player_Score = device.scene.player_Score ∧
      (device.receiveScoring value pos).scene.trace = device.scene.trace := by
  rw [receive_scoring_eq, GameScene.checkOpponentWin, if_neg short]
  exact ⟨rfl, rfl, rfl⟩

theorem receive_scoring_fifth (value : Int) (pos : MapPlace) (device : PvPGameScene)
    (five : value ≥ 5) :
    (device.receiveScoring value pos).scene.player_Score = 0 ∧
      (device.receiveScoring value pos).scene.trace =
        .roundWinDisplay "opponent" :: .endGame :: .opponentWin :: device.scene.trace := by
  rw [receive_scoring_eq, GameScene.checkOpponentWin, if_pos five]
  exact ⟨rfl, rfl⟩

theorem collect_perform (draw : MapPlace) (device : PvPGameScene) :
    Event.perform device (.collect draw) =
      ({ device with scene := collected draw device.scene, outbox := [] },
        [.scoring (device.scene.player_Score + 1) draw]) := by
  rw [Event.perform, collect_eq]
  rfl

/-- The device after a collection, with its packet taken out. -/
def afterCollect (draw : MapPlace) (device : PvPGameScene) : PvPGameScene :=
  { device with scene := collected draw device.scene, outbox := [] }

/-- The events by their guards, states and messages. -/
theorem act_cases {device after : PvPGameScene} {event : Event} {messages : List Message}
    (acted : party.act event device = some (after, messages)) :
    (∃ trophy monsters, event = .setupGame trophy monsters ∧ device.startUpdateFlag = false ∧
      after = { device.setupGame trophy monsters with outbox := [] } ∧ messages = []) ∨
    (∃ draw, event = .collect draw ∧ device.startUpdateFlag = true ∧
      after = afterCollect draw device ∧
      messages = [.scoring (device.scene.player_Score + 1) draw]) ∨
    (event = .monsterHit ∧ device.startUpdateFlag = true ∧
      after = (Event.perform device .monsterHit).1 ∧
      messages = (Event.perform device .monsterHit).2) ∨
    (∃ sendPos, event = .sendPosition sendPos ∧ device.startUpdateFlag = true ∧
      after = { device with outbox := [] } ∧ messages = [.position sendPos]) := by
  cases event with
  | setupGame trophy monsters =>
      simp only [party, Event.allowed, Bool.not_eq_true', Option.ite_none_right_eq_some,
        Option.some.injEq] at acted
      obtain ⟨idle, performed⟩ := acted
      obtain ⟨rfl, rfl⟩ := Prod.mk.inj performed
      exact Or.inl ⟨trophy, monsters, rfl, idle, rfl, rfl⟩
  | collect draw =>
      simp only [party, Event.allowed, Option.ite_none_right_eq_some, Option.some.injEq,
        collect_perform] at acted
      obtain ⟨started, performed⟩ := acted
      obtain ⟨rfl, rfl⟩ := Prod.mk.inj performed
      exact Or.inr (Or.inl ⟨draw, rfl, started, rfl, rfl⟩)
  | monsterHit =>
      obtain ⟨started, performed⟩ := Option.ite_none_right_eq_some.mp acted
      obtain performed := Option.some.inj performed
      exact Or.inr (Or.inr (Or.inl ⟨rfl, started, by rw [performed], by rw [performed]⟩))
  | sendPosition sendPos =>
      obtain ⟨started, performed⟩ := Option.ite_none_right_eq_some.mp acted
      obtain ⟨rfl, rfl⟩ := Prod.mk.inj (Option.some.inj performed)
      exact Or.inr (Or.inr (Or.inr ⟨sendPos, rfl, started, rfl, rfl⟩))

theorem receive_scoring_frame (value : Int) (pos : MapPlace) (device : PvPGameScene) :
    (device.receiveScoring value pos).startUpdateFlag = device.startUpdateFlag ∧
      (device.receiveScoring value pos).outbox = device.outbox := by
  simp only [receiveScoring, checkOpponentWin]
  split <;> exact ⟨rfl, rfl⟩

end PvPGameScene
end RelicRace
