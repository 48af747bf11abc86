import RelicRace.Library.Throttle
import RelicRace.PvP.Position
import RelicRace.PvP.Received

/-!
Two players who see each other: each device sends the tile of its player when 0.33
seconds have passed, and puts the opponent on the tile that arrives. The other way
the opponent moves is back to its start tile, at the setup and at another try.
-/

namespace RelicRace
open Library

namespace PvPGameScene

/-- A step that leaves the opponent where it is and sends no position. -/
structure KeepsOpponent (before after : PvPGameScene) : Prop where
  plays : after.startUpdateFlag = before.startUpdateFlag
  opponent : after.scene.opponentPosition = before.scene.opponentPosition
  positions : after.outbox.filterMap Message.position? =
    before.outbox.filterMap Message.position?

theorem KeepsOpponent.refl (device : PvPGameScene) : KeepsOpponent device device := ⟨rfl, rfl, rfl⟩

theorem KeepsOpponent.trans {before middle after : PvPGameScene}
    (first : KeepsOpponent before middle) (last : KeepsOpponent middle after) :
    KeepsOpponent before after :=
  ⟨last.plays.trans first.plays, last.opponent.trans first.opponent,
    last.positions.trans first.positions⟩

theorem collected_opponent (draw : MapPlace) (scene : GameScene) :
    (collected draw scene).opponentPosition = scene.opponentPosition := by
  rw [collected, GameScene.player_response_eq]
  split <;> rfl

theorem check_win_keeps (device : PvPGameScene) : KeepsOpponent device device.checkOpponentWin := by
  refine ⟨rfl, ?_, rfl⟩
  simp only [checkOpponentWin, GameScene.checkOpponentWin]
  split <;> rfl

theorem player_flag_keeps (draw : MapPlace) (device : PvPGameScene) :
    KeepsOpponent device (methods.checkPlayerFlag draw device) := by
  change KeepsOpponent device
    (if device.scene.player1CollisionFlag then Event.apply device (.collect draw) else device)
  split
  · rw [collect_eq]
    exact ⟨rfl, collected_opponent draw device.scene, by simp [Message.position?]⟩
  · exact .refl device

theorem opponent_flag_keeps (draw : MapPlace) (device : PvPGameScene) :
    KeepsOpponent device (methods.checkOpponentFlag draw device) := by
  change KeepsOpponent device
    (if device.scene.opponentCollisionFlag then device.checkOpponentWin else device)
  split
  · exact check_win_keeps device
  · exact .refl device

theorem monster_hit_keeps (device : PvPGameScene) :
    KeepsOpponent device (methods.monsterCollisionResponse device) := by
  change KeepsOpponent device (Event.apply device .monsterHit)
  have spared : device.scene.loseLife.opponentPosition = device.scene.opponentPosition := by
    rw [GameScene.lose_life_eq]
  rw [monster_hit_eq]
  split
  · exact ⟨rfl, spared, by simp [Message.position?]⟩
  · exact ⟨rfl, spared, rfl⟩

theorem did_begin_opponent (contact : Contact) (scene : GameScene) :
    (scene.didBegin contact).opponentPosition = scene.opponentPosition := by
  rcases GameScene.did_begin_cases scene contact with
    ⟨-, flagged⟩ | ⟨-, flagged⟩ | ⟨-, flag, flagged⟩ <;> rw [flagged] <;> rfl

theorem reset_opponent (draw : MapPlace) (scene : GameScene) :
    (scene.resetGameAfterPlayerDied draw).opponentPosition = opponentTile := by
  rw [GameScene.resetGameAfterPlayerDied, GameScene.sendAI]
  split <;> rfl

/-- A message moves the opponent of a playing device exactly by its position. -/
theorem receive_opponent (message : Message) (device : PvPGameScene) :
    (device.receive message).startUpdateFlag = device.startUpdateFlag ∧
      (device.receive message).scene.opponentPosition =
        if device.startUpdateFlag then message.position?.getD device.scene.opponentPosition
        else device.scene.opponentPosition := by
  cases playing : device.startUpdateFlag with
  | true =>
      cases message with
      | scoring score pos =>
          have kept := check_win_keeps { device with scene := { device.scene with
            trophyPosition := pos
            score
            info := if score = device.scene.score then device.scene.info
              else device.scene.info.changeAIScore score } }
          have moved : (device.receiveScoring score pos).scene.opponentPosition =
              device.scene.opponentPosition := by
            rw [receive_scoring_eq]
            exact kept.opponent
          simp [receive, playing, Message.position?, moved,
            (receive_scoring_frame score pos device).1]
      | _ => simp [receive, playing, Message.position?, receivePosition, receiveDeath,
          GameScene.call]
  | false => cases message <;> simp [receive, playing]

end PvPGameScene

section Tracking
variable {K : Type} [Field K] [LinearOrder K]

/-- A player in a match. `frames` holds the times of the frames since `setupGame` with
    the tile in `gridPos`, and `arrived` the positions that were delivered, oldest
    first; `placed` tells whether one of them has moved the opponent since it was put
    on its start tile. -/
structure MatchPlayer (K : Type) where
  player : PvPPlayer K
  frames : List (K × MapPlace)
  arrived : List MapPlace
  placed : Bool

/-- A message is delivered; it is not an event of the device. -/
inductive MatchEvent (K : Type) where
  | setupGame (trophy : MapPlace) (monsters : List String)
  | step (step : PlayerStep K)

/-- The frames of a device come before its setup too; nothing else does. -/
def MatchEvent.allowed (device : PvPGameScene) : MatchEvent K → Bool
  | .setupGame _ _ => !device.startUpdateFlag
  | .step (.update _ _ _) => true
  | .step (.receive _) => false
  | .step _ => device.startUpdateFlag

/-- The device of `PvPPlayer` with another outbox. -/
def PvPPlayer.withOutbox (outbox : List Message) (player : PvPPlayer K) : PvPPlayer K :=
  { player with device := { player.device with outbox } }

namespace MatchPlayer
variable (frame : SceneFrame K)

section Party
variable [FloorRing K]

def apply (state : MatchPlayer K) : MatchEvent K → MatchPlayer K
  | .setupGame trophy monsters =>
      { state with player := .start frame trophy monsters state.player.device, placed := false }
  | .step (.update currentTime playerDraw opponentDraw) =>
      { state with
        player := state.player.step frame (.update currentTime playerDraw opponentDraw)
        frames :=
          if state.player.device.startUpdateFlag then
            state.frames ++ [(currentTime, state.player.gridPos)]
          else state.frames }
  | .step (.tryAgain draw) =>
      { state with player := state.player.step frame (.tryAgain draw), placed := false }
  | .step step => { state with player := state.player.step frame step }

/-- The messages that one event has sent are taken out of the outbox. -/
def act (event : MatchEvent K) (state : MatchPlayer K) :
    Option (MatchPlayer K × List Message) :=
  if event.allowed state.player.device then
    let after := { state with player := state.player.withOutbox [] }.apply frame event
    some ({ after with player := after.player.withOutbox [] }, after.player.device.outbox)
  else none

def receive (message : Message) (state : MatchPlayer K) : MatchPlayer K :=
  { state with
    player := state.player.step frame (.receive message)
    arrived := state.arrived ++ message.position?.toList
    placed :=
      state.placed || (state.player.device.startUpdateFlag && message.position?.isSome) }

def party : Duplex.Party (MatchPlayer K) Message (MatchEvent K) where
  act := act frame
  receive := receive frame

end Party

/-- A device on the connection prompt. It has no player yet; the setup places it. -/
def lobby : MatchPlayer K where
  player :=
    { device := PvPPlayer.waiting
      position := frame.tilePosition playerTile.1
      gridPos := playerTile
      lastSent := 0
      sent := [] }
  frames := []
  arrived := []
  placed := false

/-! ### What a device knows -/

section Invariant
variable {frame}

/-- The frames at which a position was sent, newest first. -/
def samples (state : MatchPlayer K) : List (K × MapPlace) :=
  Throttle.samples (fun elapsed => sendInterval ≤ elapsed) 0 state.frames

/-- The positions that were sent, oldest first. -/
def positions (state : MatchPlayer K) : List MapPlace := (state.samples.map Prod.snd).reverse

structure Tracks (state : MatchPlayer K) : Prop where
  lastSent : state.player.lastSent = Throttle.lastTime 0 state.samples
  idle : state.player.device.startUpdateFlag = false → state.frames = [] ∧ state.placed = false
  unplaced : state.placed = false →
    state.player.device.scene.opponentPosition = opponentTile
  placed : state.placed = true →
    state.arrived.getLast? = some state.player.device.scene.opponentPosition

/-- The guard of `update` is the one of the samples. -/
theorem Tracks.sampled {state : MatchPlayer K} (tracks : state.Tracks) (currentTime : K)
    (tile : MapPlace) :
    Throttle.samples (fun elapsed => sendInterval ≤ elapsed) 0
        (state.frames ++ [(currentTime, tile)]) =
      if sendInterval ≤ currentTime - state.player.lastSent then
        (currentTime, tile) :: state.samples
      else state.samples := by
  rw [Throttle.samples_snoc, Throttle.sample, tracks.lastSent]
  rfl

theorem lobby_tracks : (lobby frame).Tracks where
  lastSent := rfl
  idle _ := ⟨rfl, rfl⟩
  unplaced _ := rfl
  placed placed := nomatch placed

theorem handle_flags_keeps (player : PvPPlayer K) (playerDraw opponentDraw : MapPlace) :
    PvPGameScene.KeepsOpponent player.device
        (player.handleFlags frame playerDraw opponentDraw).device ∧
      (player.handleFlags frame playerDraw opponentDraw).lastSent = player.lastSent := by
  have flags := (PvPGameScene.player_flag_keeps playerDraw player.device).trans
    (PvPGameScene.opponent_flag_keeps opponentDraw _)
  simp only [PvPPlayer.handleFlags, PvPPlayer.checkMonsterFlag]
  split
  · exact ⟨flags.trans (PvPGameScene.monster_hit_keeps _), rfl⟩
  · exact ⟨flags, rfl⟩

/-- A frame of a playing device is sampled exactly when it sends the cached tile. -/
theorem update_tracks [FloorRing K] (state : MatchPlayer K) (tracks : state.Tracks)
    (currentTime : K) (playerDraw opponentDraw : MapPlace) :
    let after := state.apply frame (.step (.update currentTime playerDraw opponentDraw))
    after.Tracks ∧ ∃ sent, after.positions = state.positions ++ sent ∧
      after.player.device.outbox.filterMap Message.position? =
        state.player.device.outbox.filterMap Message.position? ++ sent := by
  have kept : PvPGameScene.KeepsOpponent state.player.device
      (state.player.handleFlags frame playerDraw opponentDraw).device ∧
      (state.player.handleFlags frame playerDraw opponentDraw).lastSent = state.player.lastSent :=
    handle_flags_keeps state.player playerDraw opponentDraw
  obtain ⟨keeps, lastSent⟩ := kept
  have gridPos := (PvPPlayer.handle_flags_place frame playerDraw opponentDraw state.player).1
  have opponent := keeps.opponent
  simp only [apply, PvPPlayer.step, PvPPlayer.sendPosition, lastSent, gridPos, keeps.plays]
  cases playing : state.player.device.startUpdateFlag with
  | false =>
      simp only [Bool.false_eq_true, and_false, if_false]
      refine ⟨⟨lastSent.trans tracks.lastSent, fun _ => tracks.idle playing,
        fun unplaced => opponent.trans (tracks.unplaced unplaced), fun placed => ?_⟩,
        [], by simp [positions, samples], by simp [keeps.positions]⟩
      rw [opponent]
      exact tracks.placed placed
  | true =>
      have sampled := tracks.sampled currentTime state.player.gridPos
      by_cases due : sendInterval ≤ currentTime - state.player.lastSent
      · rw [if_pos due] at sampled
        simp only [due, and_self, if_true]
        refine ⟨⟨?_, ?_, fun unplaced => opponent.trans (tracks.unplaced unplaced),
          fun placed => ?_⟩, [state.player.gridPos], ?_, ?_⟩
        · simp only [samples, sampled, Throttle.lastTime]
        · simp [PvPGameScene.send, keeps.plays, playing]
        · exact (tracks.placed placed).trans (congrArg some opponent.symm)
        · simp [positions, samples, sampled]
        · simp [PvPGameScene.send, keeps.positions, Message.position?]
      · rw [if_neg due] at sampled
        simp only [due, false_and, if_false, if_true]
        refine ⟨⟨?_, ?_, fun unplaced => opponent.trans (tracks.unplaced unplaced),
          fun placed => ?_⟩, [], ?_, ?_⟩
        · rw [samples, sampled]
          exact lastSent.trans tracks.lastSent
        · simp [keeps.plays, playing]
        · exact (tracks.placed placed).trans (congrArg some opponent.symm)
        · simp [positions, samples, sampled]
        · simp [keeps.positions]

theorem apply_tracks [FloorRing K] (state : MatchPlayer K) (tracks : state.Tracks)
    (event : MatchEvent K) (allowed : event.allowed state.player.device = true) :
    (state.apply frame event).Tracks ∧ ∃ sent,
      (state.apply frame event).positions = state.positions ++ sent ∧
      (state.apply frame event).player.device.outbox.filterMap Message.position? =
        state.player.device.outbox.filterMap Message.position? ++ sent := by
  have silent : ∃ sent, state.positions = state.positions ++ sent ∧
      state.player.device.outbox.filterMap Message.position? =
        state.player.device.outbox.filterMap Message.position? ++ sent := ⟨[], by simp, by simp⟩
  cases event with
  | setupGame trophy monsters =>
      obtain ⟨frames, -⟩ := tracks.idle (by simpa [MatchEvent.allowed] using allowed)
      refine ⟨⟨?_, fun idle => ?_, fun _ => rfl, fun placed => ?_⟩, silent⟩
      · simp [apply, samples, frames, PvPPlayer.start, Throttle.samples, Throttle.lastTime]
      · cases idle
      · cases placed
  | step step =>
      cases step with
      | track velocity =>
          exact ⟨⟨tracks.lastSent, tracks.idle, tracks.unplaced, tracks.placed⟩, silent⟩
      | contact contact =>
          have kept := PvPGameScene.did_begin_opponent contact state.player.device.scene
          refine ⟨⟨tracks.lastSent, tracks.idle,
            fun unplaced => kept.trans (tracks.unplaced unplaced), fun placed => ?_⟩, silent⟩
          exact (tracks.placed placed).trans (congrArg some kept.symm)
      | update currentTime playerDraw opponentDraw =>
          exact update_tracks state tracks currentTime playerDraw opponentDraw
      | tryAgain draw =>
          have opponent := PvPGameScene.reset_opponent draw state.player.device.scene
          refine ⟨⟨tracks.lastSent, fun idle => ⟨(tracks.idle idle).1, rfl⟩, fun _ => opponent,
            fun placed => ?_⟩, silent⟩
          cases placed
      | receive message => cases allowed

/-- An event of a device tells the other exactly the positions that it samples. -/
theorem act_tracks [FloorRing K] (event : MatchEvent K) (state after : MatchPlayer K)
    (messages : List Message) (tracks : state.Tracks)
    (acted : act frame event state = some (after, messages)) :
    after.Tracks ∧ after.positions = state.positions ++ messages.filterMap Message.position? ∧
      after.arrived = state.arrived := by
  obtain ⟨allowed, acted⟩ := Option.ite_none_right_eq_some.mp acted
  obtain ⟨rfl, rfl⟩ := Prod.mk.inj (Option.some.inj acted)
  have cleared : ({ state with player := state.player.withOutbox [] } : MatchPlayer K).Tracks :=
    ⟨tracks.lastSent, tracks.idle, tracks.unplaced, tracks.placed⟩
  have applied := @apply_tracks K _ _ frame _ _ cleared event allowed
  obtain ⟨⟨lastSent, idle, unplaced, placed⟩, sent, positions, told⟩ := applied
  refine ⟨⟨lastSent, idle, unplaced, placed⟩, ?_, ?_⟩
  · rw [told]
    exact positions
  · cases event with
    | setupGame trophy monsters => rfl
    | step step => cases step <;> rfl

theorem receive_tracks [FloorRing K] (message : Message) (state : MatchPlayer K)
    (tracks : state.Tracks) :
    (state.receive frame message).Tracks ∧
      (state.receive frame message).positions = state.positions ∧
      (state.receive frame message).arrived = state.arrived ++ message.position?.toList := by
  obtain ⟨plays, opponent⟩ := PvPGameScene.receive_opponent message state.player.device
  refine ⟨?_, rfl, rfl⟩
  cases playing : state.player.device.startUpdateFlag with
  | false =>
      obtain ⟨frames, start⟩ := tracks.idle playing
      simp only [playing, Bool.false_eq_true, if_false] at opponent
      refine ⟨tracks.lastSent, fun _ => ⟨frames, ?_⟩,
        fun _ => opponent.trans (tracks.unplaced start), fun placed => ?_⟩
      · simp [receive, start, playing]
      · simp [receive, start, playing] at placed
  | true =>
      simp only [playing, if_true] at opponent
      refine ⟨tracks.lastSent, fun idle => ?_, ?_, ?_⟩
      · cases (plays.trans playing).symm.trans idle
      · cases carried : message.position? with
        | none =>
            simp only [receive, carried, Option.isSome_none, Bool.and_false, Bool.or_false]
            rw [carried] at opponent
            exact fun unplaced => opponent.trans (tracks.unplaced unplaced)
        | some pos => simp [receive, carried, playing]
      · cases carried : message.position? with
        | none =>
            simp only [receive, carried, Option.isSome_none, Bool.and_false, Bool.or_false,
              Option.toList_none, List.append_nil]
            rw [carried] at opponent
            exact fun placed => (tracks.placed placed).trans (congrArg some opponent.symm)
        | some pos =>
            rw [carried] at opponent
            simp only [receive, carried, Option.toList_some, List.getLast?_concat]
            exact fun _ => congrArg some opponent.symm

end Invariant

/-! ### The two devices -/

theorem send_prompt [IsStrictOrderedRing K] :
    Throttle.Prompt (fun elapsed : K => sendInterval ≤ elapsed) sendInterval :=
  ⟨div_nonneg (Nat.cast_nonneg 33) (Nat.cast_nonneg 100), fun _ waits => (not_le.mp waits).le⟩

section Match
variable [FloorRing K]

/-- The positions as a stream between the two devices. -/
def stream : Duplex.Stream (party frame) MapPlace where
  live := Tracks
  carry := Message.position?
  sent := positions
  arrived := arrived
  act_law event state after messages tracks acted :=
    act_tracks event state after messages tracks acted
  receive_law message state tracks := receive_tracks message state tracks

/-- Both devices on their prompts, with nothing on its way. -/
def lobbies : Duplex.Network (MatchPlayer K) Message where
  state _ := lobby frame
  inbox _ := []

/-- The positions on their way from a side, oldest first. -/
def inFlight (network : Duplex.Network (MatchPlayer K) Message) (side : Duplex.Side) :
    List MapPlace :=
  (network.inbox side.other).filterMap Message.position?

/-- In every state of a match, whatever the interleaving: a device sends positions at
    least 0.33 seconds apart, each as the tile cached at a frame, and none is lost,
    repeated or overtaken. The other device shows the start tile, or the newest position
    that has arrived. With `k` positions on their way that one was sampled, at the last
    frame of its player, 0.33 + k · (0.33 + gap) seconds ago at most, where the frames
    are `gap` seconds apart at most. -/
theorem opponent_shown [IsStrictOrderedRing K]
    (schedule : List (Duplex.Action (MatchEvent K)))
    (network : Duplex.Network (MatchPlayer K) Message)
    (ran : Duplex.run (party frame) (lobbies frame) schedule = some network)
    (side : Duplex.Side) :
    (network.state side).samples.IsChain (fun newer older => sendInterval ≤ newer.1 - older.1) ∧
    (network.state side).samples.reverse.Sublist (network.state side).frames ∧
    (network.state side).positions =
      (network.state side.other).arrived ++ inFlight network side ∧
    ((network.state side.other).placed = false →
      (network.state side.other).player.device.scene.opponentPosition = opponentTile) ∧
    ((network.state side.other).placed = true → ∃ time,
      (network.state side).samples[(inFlight network side).length]? =
        some (time, (network.state side.other).player.device.scene.opponentPosition) ∧
      ∀ gap now tile earlier, (network.state side).frames = earlier ++ [(now, tile)] →
        (network.state side).frames.IsChain (fun frame next => next.1 - frame.1 ≤ gap) →
        now - time ≤ sendInterval +
          ((inFlight network side).length : K) * (sendInterval + gap)) := by
  have order : (stream frame).InOrder network := by
    refine Duplex.run_in_order (stream frame) schedule (lobbies frame) network ?_ ran
    exact fun _ => ⟨lobby_tracks, rfl⟩
  have tracks := (order side.other).1
  refine ⟨Throttle.samples_spaced _ 0 _, Throttle.samples_sublist _ 0 _, (order side).2,
    tracks.unplaced, fun placed => ?_⟩
  have newest := Duplex.newest_arrived (stream frame) network order side _ (tracks.placed placed)
  obtain ⟨time, sampled⟩ : ∃ time, (network.state side).samples[(inFlight network side).length]? =
      some (time, (network.state side.other).player.device.scene.opponentPosition) := by
    simpa [stream, positions, inFlight] using newest
  refine ⟨time, sampled, fun gap now tile earlier last close => ?_⟩
  rw [samples, last] at sampled
  exact Throttle.sample_age 0 gap send_prompt earlier now tile (last ▸ close) _ _ sampled

end Match
end MatchPlayer
end Tracking

namespace MatchPlayer

/-- The first player sends its start tile, which arrives, walks on and sends again. -/
def firstPositions : List (Duplex.Action (MatchEvent ℚ)) :=
  [.act .first (.setupGame opponentTile []), .act .second (.setupGame opponentTile []),
    .act .first (.step (.update 1 opponentTile opponentTile)), .deliver .second,
    .act .first (.step (.track ⟨100, 0⟩)),
    .act .first (.step (.update (27 / 20) opponentTile opponentTile))]

/-- The tile after the walk. -/
def reachedTile : MapPlace := ⟨⟨11, 19⟩, by decide⟩

theorem first_positions_shown : ∃ network,
    Duplex.run (party SceneFrame.unit) (lobbies SceneFrame.unit) firstPositions = some network ∧
      inFlight network .first = [reachedTile] ∧
      ∃ time : ℚ, (network.state .first).samples[1]? = some (time, playerTile) ∧
        27 / 20 - time ≤ 33 / 100 + (33 / 100 + 7 / 20) := by
  have ends : (Duplex.run (party SceneFrame.unit) (lobbies SceneFrame.unit) firstPositions).any
      (fun network => (network.state .second).placed = true ∧
        (network.state .second).player.device.scene.opponentPosition = playerTile ∧
        inFlight network .first = [reachedTile] ∧
        (network.state .first).frames = [(1, playerTile), (27 / 20, reachedTile)]) = true := by
    decide +kernel
  obtain ⟨network, ran, ends⟩ := (Option.any_eq_true _ _).mp ends
  obtain ⟨placed, shown, waiting, frames⟩ := of_decide_eq_true ends
  obtain ⟨-, -, -, -, age⟩ :=
    opponent_shown SceneFrame.unit firstPositions network ran .first
  obtain ⟨time, sampled, age⟩ := age placed
  simp only [Duplex.Side.other, waiting, shown, List.length_singleton] at sampled age
  have close : (network.state .first).frames.IsChain
      fun frame next => next.1 - frame.1 ≤ (7 / 20 : ℚ) := by
    rw [frames]
    exact .cons_cons (by norm_num) (.singleton _)
  have old := age (7 / 20) (27 / 20) _ [(1, playerTile)] frames close
  refine ⟨network, ran, waiting, time, sampled, old.trans ?_⟩
  norm_num [sendInterval]

end MatchPlayer
end RelicRace
