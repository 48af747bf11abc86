import RelicRace.Library.Runs
import RelicRace.PvP.Device

/-!
The player of a PvP device between its exact position and the tile cached in
`gridPos`. `update` sends the cached tile; the joystick refreshes it with every
tick, the respawn after a monster's hit does not.
-/

namespace RelicRace
open Library

section Position
variable {K : Type} [Field K] [LinearOrder K]

/-- `indexFrom` as a tile of the map. -/
def SceneFrame.tileAt [FloorRing K] (frame : SceneFrame K) (position : CGPoint K) : MapPlace :=
  ⟨frame.indexFrom position, index_from_on_map frame position⟩

/-- The velocities of the joystick are multiplied by 0.1. -/
def velocityMultiplier : K := ((1 : Nat) : K) / ((10 : Nat) : K)

/-- The seconds between two positions that are sent. -/
def sendInterval : K := ((33 : Nat) : K) / ((100 : Nat) : K)

/-- A device with the position of `player1`. `sent` holds the tiles given to
    `mcSession.send`, each with the player's position at that moment, newest first. -/
structure PvPPlayer (K : Type) where
  device : PvPGameScene
  position : CGPoint K
  gridPos : MapPlace
  lastSent : K
  sent : List (MapPlace × CGPoint K)

inductive PlayerStep (K : Type) where
  | track (velocity : CGPoint K)
  | contact (contact : Contact)
  | update (currentTime : K) (playerDraw opponentDraw : MapPlace)
  | tryAgain (draw : MapPlace)
  | receive (message : Message)

namespace PvPPlayer

/-- `setupGame`: the player is spawned on its tile. -/
def start (frame : SceneFrame K) (trophy : MapPlace) (monsters : List String)
    (device : PvPGameScene) : PvPPlayer K where
  device := device.setupGame trophy monsters
  position := frame.tilePosition playerTile.1
  gridPos := playerTile
  lastSent := 0
  sent := []

/-- `hittingMonster`. -/
def hittingMonster (frame : SceneFrame K) (player : PvPPlayer K) : PvPPlayer K :=
  { player with position := frame.tilePosition playerTile.1 }

def checkMonsterFlag (frame : SceneFrame K) (player : PvPPlayer K) : PvPPlayer K :=
  if player.device.scene.monsterCollisionFlag ≠ -1 then
    { player.hittingMonster frame with
      device := PvPGameScene.methods.monsterCollisionResponse player.device }
  else player

/-- `super.update`: the three flags, the monsters' last. -/
def handleFlags (frame : SceneFrame K) (playerDraw opponentDraw : MapPlace)
    (player : PvPPlayer K) : PvPPlayer K :=
  checkMonsterFlag frame { player with
    device := PvPGameScene.methods.checkOpponentFlag opponentDraw
      (PvPGameScene.methods.checkPlayerFlag playerDraw player.device) }

/-- The part of `update` after `super.update`. -/
def sendPosition (currentTime : K) (player : PvPPlayer K) : PvPPlayer K :=
  if sendInterval ≤ currentTime - player.lastSent ∧ player.device.startUpdateFlag = true then
    { player with
      device := player.device.send (.position player.gridPos)
      lastSent := currentTime
      sent := (player.gridPos, player.position) :: player.sent }
  else player

/-- The tracking handler of the joystick. -/
def track [FloorRing K] (frame : SceneFrame K) (velocity : CGPoint K) (player : PvPPlayer K) :
    PvPPlayer K :=
  let position := ⟨player.position.x + velocity.x * velocityMultiplier,
    player.position.y + velocity.y * velocityMultiplier⟩
  { player with position, gridPos := frame.tileAt position }

def step [FloorRing K] (frame : SceneFrame K) (player : PvPPlayer K) : PlayerStep K → PvPPlayer K
  | .track velocity => player.track frame velocity
  | .contact contact =>
      { player with device := { player.device with scene := player.device.scene.didBegin contact } }
  | .update currentTime playerDraw opponentDraw =>
      (player.handleFlags frame playerDraw opponentDraw).sendPosition currentTime
  | .tryAgain draw =>
      { player with
        device := { player.device with
          scene := player.device.scene.resetGameAfterPlayerDied draw } }
  | .receive message => { player with device := player.device.receive message }

/-- The cached tile is the one the player stands on. -/
def Located [FloorRing K] (frame : SceneFrame K) (player : PvPPlayer K) : Prop :=
  player.gridPos = frame.tileAt player.position

/-- Every tile that was sent was the one the player stood on. -/
def SentTruly [FloorRing K] (frame : SceneFrame K) (player : PvPPlayer K) : Prop :=
  ∀ packet ∈ player.sent, packet.1 = frame.tileAt packet.2

/-- A frame that handles a monster's hit finds the player on its spawn tile. -/
def HitAtSpawn (player : PvPPlayer K) : PlayerStep K → Prop
  | .update _ _ _ => player.device.scene.monsterCollisionFlag ≠ -1 → player.gridPos = playerTile
  | _ => True

/-! ### What a step keeps -/

theorem tile_at_spawn [IsStrictOrderedRing K] [FloorRing K] (frame : SceneFrame K)
    (place : MapPlace) : frame.tileAt (frame.tilePosition place.1) = place :=
  Subtype.ext (index_from_tile frame place.1 place.2)

theorem ending_monster_flag (scene : GameScene) :
    scene.onPlayerWin.monsterCollisionFlag = scene.monsterCollisionFlag ∧
      scene.checkOpponentWin.monsterCollisionFlag = scene.monsterCollisionFlag := by
  refine ⟨rfl, ?_⟩
  simp only [GameScene.checkOpponentWin]
  split <;> rfl

theorem player_check_monster_flag (tile : MapPlace) (device : PvPGameScene) :
    (PvPGameScene.methods.checkPlayerFlag tile device).scene.monsterCollisionFlag =
      device.scene.monsterCollisionFlag := by
  change (if device.scene.player1CollisionFlag then
    PvPGameScene.Event.apply device (.collect tile) else device).scene.monsterCollisionFlag = _
  split
  · rw [PvPGameScene.collect_eq, PvPGameScene.collected]
    split
    · rw [(ending_monster_flag _).1, GameScene.player_response_eq]
    · rw [GameScene.player_response_eq]
  · rfl

theorem opponent_check_monster_flag (tile : MapPlace) (device : PvPGameScene) :
    (PvPGameScene.methods.checkOpponentFlag tile device).scene.monsterCollisionFlag =
      device.scene.monsterCollisionFlag := by
  change (if device.scene.opponentCollisionFlag then device.checkOpponentWin
    else device).scene.monsterCollisionFlag = _
  split
  · exact (ending_monster_flag _).2
  · rfl

/-- Where a frame leaves the player. -/
theorem handle_flags_place (frame : SceneFrame K) (playerDraw opponentDraw : MapPlace)
    (player : PvPPlayer K) :
    (player.handleFlags frame playerDraw opponentDraw).gridPos = player.gridPos ∧
      (player.handleFlags frame playerDraw opponentDraw).sent = player.sent ∧
      (player.handleFlags frame playerDraw opponentDraw).position =
        if player.device.scene.monsterCollisionFlag ≠ -1 then frame.tilePosition playerTile.1
        else player.position := by
  simp only [handleFlags, checkMonsterFlag, opponent_check_monster_flag, player_check_monster_flag]
  split
  · exact ⟨rfl, rfl, rfl⟩
  · exact ⟨rfl, rfl, rfl⟩

theorem send_position_place (currentTime : K) (player : PvPPlayer K) :
    (player.sendPosition currentTime).gridPos = player.gridPos ∧
      (player.sendPosition currentTime).position = player.position ∧
      ∀ packet ∈ (player.sendPosition currentTime).sent,
        packet = (player.gridPos, player.position) ∨ packet ∈ player.sent := by
  rw [sendPosition]
  split
  · exact ⟨rfl, rfl, fun packet among => List.mem_cons.mp among⟩
  · exact ⟨rfl, rfl, fun packet among => Or.inr among⟩

section Rounding
variable [FloorRing K]

/-- What is sent from a located player is the tile it stands on. -/
theorem send_position_truly {frame : SceneFrame K} {player : PvPPlayer K} (currentTime : K)
    (located : player.Located frame) (truly : player.SentTruly frame) :
    (player.sendPosition currentTime).SentTruly frame := by
  intro packet among
  obtain ⟨-, -, packets⟩ := send_position_place currentTime player
  rcases packets packet among with rfl | earlier
  · exact located
  · exact truly packet earlier

theorem start_located [IsStrictOrderedRing K] (frame : SceneFrame K) (trophy : MapPlace)
    (monsters : List String) (device : PvPGameScene) :
    (start frame trophy monsters device).Located frame ∧
      (start frame trophy monsters device).SentTruly frame :=
  ⟨(tile_at_spawn frame playerTile).symm, fun _ among => absurd among (List.not_mem_nil)⟩

/-- A frame keeps the player located exactly when its hit found it at the spawn. -/
theorem update_located [IsStrictOrderedRing K] {frame : SceneFrame K} {player : PvPPlayer K}
    (currentTime : K) (playerDraw opponentDraw : MapPlace) (located : player.Located frame) :
    (player.step frame (.update currentTime playerDraw opponentDraw)).Located frame ↔
      player.HitAtSpawn (.update currentTime playerDraw opponentDraw) := by
  obtain ⟨tile, -, position⟩ := handle_flags_place frame playerDraw opponentDraw player
  obtain ⟨sentTile, sentPosition, -⟩ :=
    send_position_place currentTime (player.handleFlags frame playerDraw opponentDraw)
  rw [step, Located, sentTile, sentPosition, tile, position, HitAtSpawn]
  by_cases hit : player.device.scene.monsterCollisionFlag ≠ -1
  · rw [if_pos hit, tile_at_spawn]
    exact ⟨fun spawned _ => spawned, fun spawned => spawned hit⟩
  · rw [if_neg hit]
    exact ⟨fun _ struck => absurd struck hit, fun _ => located⟩

theorem update_truly {frame : SceneFrame K} {player : PvPPlayer K} (currentTime : K)
    (playerDraw opponentDraw : MapPlace) (truly : player.SentTruly frame)
    (after : (player.step frame (.update currentTime playerDraw opponentDraw)).Located frame) :
    (player.step frame (.update currentTime playerDraw opponentDraw)).SentTruly frame := by
  obtain ⟨-, sent, -⟩ := handle_flags_place frame playerDraw opponentDraw player
  obtain ⟨sentTile, sentPosition, -⟩ :=
    send_position_place currentTime (player.handleFlags frame playerDraw opponentDraw)
  refine send_position_truly currentTime ?_ ?_
  · rw [step, Located, sentTile, sentPosition] at after
    exact after
  · rw [SentTruly, sent]
    exact truly

/-- The joystick refreshes the tile; only `update` moves the player without it. -/
theorem step_located [IsStrictOrderedRing K] {frame : SceneFrame K} {player : PvPPlayer K}
    (event : PlayerStep K) (placed : player.Located frame ∧ player.SentTruly frame) :
    ((player.step frame event).Located frame ∧ (player.step frame event).SentTruly frame) ↔
      player.HitAtSpawn event := by
  obtain ⟨located, truly⟩ := placed
  cases event with
  | track velocity => exact iff_of_true ⟨rfl, truly⟩ trivial
  | contact contact => exact iff_of_true ⟨located, truly⟩ trivial
  | update currentTime playerDraw opponentDraw =>
      rw [← update_located currentTime playerDraw opponentDraw located]
      exact ⟨And.left, fun after =>
        ⟨after, update_truly currentTime playerDraw opponentDraw truly after⟩⟩
  | tryAgain draw => exact iff_of_true ⟨located, truly⟩ trivial
  | receive message => exact iff_of_true ⟨located, truly⟩ trivial

/-- In every run after `setupGame` the cached tile, and with it every tile sent,
    is the player's own exactly when every hit that a frame handles found the
    player on its spawn tile. -/
theorem player_located_iff [IsStrictOrderedRing K] (frame : SceneFrame K) (trophy : MapPlace)
    (monsters : List String) (device : PvPGameScene) (events : List (PlayerStep K)) :
    Runs.Always (step frame) (fun player => player.Located frame ∧ player.SentTruly frame)
        (start frame trophy monsters device) events ↔
      Runs.Meets (step frame) HitAtSpawn (start frame trophy monsters device) events := by
  refine Runs.always_iff_meets (step frame) HitAtSpawn _
    (fun player => player.Located frame ∧ player.SentTruly frame) (fun _ placed => placed) ?_
    events _ (start_located frame trophy monsters device)
  intro player event placed
  exact ⟨step_located event placed, (step_located event placed).mpr⟩

end Rounding
end PvPPlayer
end Position

namespace PvPPlayer

/-- A device before `setupGame`. -/
def waiting : PvPGameScene where
  scene := { opponentIsAI := false, trophyPosition := opponentTile, monsters := [] }

theorem hit_at_spawn_located : Runs.Always (step SceneFrame.unit)
    (fun player => player.Located SceneFrame.unit ∧ player.SentTruly SceneFrame.unit)
    (start SceneFrame.unit opponentTile ["monster1"] waiting)
    [.contact ⟨"player1", "monster1"⟩, .update 1 opponentTile opponentTile, .track ⟨3, -4⟩] :=
  (player_located_iff SceneFrame.unit opponentTile ["monster1"] waiting _).mpr
    ⟨trivial, fun _ => rfl, trivial, trivial⟩

/-- The player walks ten tiles to the right, a monster catches it and the next
    frame sends the tile it was caught on. -/
theorem sends_stale_tile : ¬ ∀ (trophy : MapPlace) (monsters : List String)
    (device : PvPGameScene) (events : List (PlayerStep ℚ)),
    Runs.Always (step SceneFrame.unit) (fun player => player.Located SceneFrame.unit)
        (start SceneFrame.unit trophy monsters device) events ∧
      Runs.Always (step SceneFrame.unit) (fun player => player.SentTruly SceneFrame.unit)
        (start SceneFrame.unit trophy monsters device) events := by
  intro always
  obtain ⟨-, truly⟩ := always opponentTile ["monster1"] waiting
    [.track ⟨100, 0⟩, .contact ⟨"player1", "monster1"⟩, .update 1 opponentTile opponentTile]
  have stale : ∃ packet ∈ (Runs.run (step SceneFrame.unit)
      (start SceneFrame.unit opponentTile ["monster1"] waiting)
      [.track ⟨100, 0⟩, .contact ⟨"player1", "monster1"⟩,
        .update 1 opponentTile opponentTile]).sent,
      packet.1 ≠ SceneFrame.unit.tileAt packet.2 := by
    decide +kernel
  obtain ⟨packet, among, differs⟩ := stale
  exact differs (truly 3 packet among)

end PvPPlayer
end RelicRace
