import RelicRace.Game.Menus
import RelicRace.PvP.Packets

/-!
What a playing device makes of the bytes it receives: the messages of its peer
over a whole run of deliveries, and bytes of any other kind. The handler uses a
decoded tile as an index and reads a first byte before it checks either, and the
byte 1 adds the nodes of a display at once, whatever covers the game.
-/

namespace RelicRace
open Library

namespace Message

/-- The branch of the handler that is meant for a message; a late checksum has none. -/
def branch (device : PvPGameScene) : Message → PvPGameScene
  | .checksum _ => device
  | .position pos => device.receivePosition pos
  | .scoring score pos => device.receiveScoring score pos
  | .death => device.receiveDeath

/-- A scoring packet of the fifth trophy or more, and the death notice. -/
def Ends : Message → Prop
  | .scoring score _ => score ≥ 5
  | .death => True
  | _ => False

def position? : Message → Option MapPlace
  | .position pos => some pos
  | _ => none

end Message

namespace PvPGameScene
variable (coder : Json.Coder)

/-! ### The messages of a peer -/

/-- The deliveries of messages, one after another. -/
def deliver (messages : List Message) (device : PvPGameScene) : Except Fault PvPGameScene :=
  messages.foldlM (fun device message => sessionDidReceive coder (message.data coder) device) device

theorem branch_plays (message : Message) (device : PvPGameScene) :
    (message.branch device).startUpdateFlag = device.startUpdateFlag := by
  cases message with
  | scoring score pos => exact (receive_scoring_frame score pos device).1
  | checksum hash => rfl
  | position pos => rfl
  | death => rfl

/-- On a playing device the bytes of a message reach the branch of their kind. -/
theorem session_branches (message : Message) (fits : message.Fits) (device : PvPGameScene)
    (playing : device.startUpdateFlag = true) :
    sessionDidReceive coder (message.data coder) device = .ok (message.branch device) := by
  rw [session_receives coder message fits]
  cases message <;> simp only [receive, playing, if_true, Message.branch]

theorem deliver_branches (messages : List Message) (fit : ∀ message ∈ messages, message.Fits)
    (device : PvPGameScene) (playing : device.startUpdateFlag = true) :
    deliver coder messages device = .ok (Runs.run Message.branch device messages) := by
  induction messages generalizing device with
  | nil => rfl
  | cons message rest ih =>
      have here := session_branches coder message (fit message List.mem_cons_self) device playing
      rw [deliver, List.foldlM_cons, here, run_ok]
      exact ih (fun other member => fit other (List.mem_cons_of_mem message member)) _
        ((branch_plays message device).trans playing)

theorem receive_scoring_tiles (value : Int) (pos : MapPlace) (device : PvPGameScene)
    (short : ¬ value ≥ 5) :
    (device.receiveScoring value pos).scene.opponentPosition = device.scene.opponentPosition ∧
      (device.receiveScoring value pos).scene.trophyPosition = pos := by
  rw [receive_scoring_eq, GameScene.checkOpponentWin, if_neg short]
  exact ⟨rfl, rfl⟩

/-- Only a position writes the opponent's tile, as long as no round ends. -/
theorem branch_opponent (message : Message) (goes : ¬ message.Ends) (device : PvPGameScene) :
    (message.branch device).scene.opponentPosition =
      message.position?.getD device.scene.opponentPosition := by
  cases message with
  | scoring score pos => exact (receive_scoring_tiles score pos device goes).1
  | checksum hash => rfl
  | position pos => rfl
  | death => exact absurd trivial goes

/-- Only a scoring packet writes the opponent's score and the trophy's tile. -/
theorem branch_scoring (message : Message) (goes : ¬ message.Ends) (device : PvPGameScene) :
    ((message.branch device).scene.score, (message.branch device).scene.trophyPosition) =
      message.scoring?.getD (device.scene.score, device.scene.trophyPosition) := by
  cases message with
  | scoring score pos =>
      have short : ¬ score ≥ 5 := goes
      rw [Message.branch, (receive_scoring_short score pos device short).1,
        (receive_scoring_tiles score pos device short).2]
      rfl
  | checksum hash => rfl
  | position pos => rfl
  | death => exact absurd trivial goes

/-- Every message of a peer is handled as what it was meant for, so until a round
    ends the receiver shows the last position, score and trophy that were sent. -/
theorem messages_keep_meaning (messages : List Message) (fit : ∀ message ∈ messages, message.Fits)
    (device : PvPGameScene) (playing : device.startUpdateFlag = true) :
    (∀ message ∈ messages, ∀ state : PvPGameScene, state.startUpdateFlag = true →
      sessionDidReceive coder (message.data coder) state = .ok (message.branch state)) ∧
    ∃ after, deliver coder messages device = .ok after ∧
      after = Runs.run Message.branch device messages ∧ after.startUpdateFlag = true ∧
      ((∀ message ∈ messages, ¬ message.Ends) →
        after.scene.opponentPosition =
          (messages.filterMap Message.position?).getLastD device.scene.opponentPosition ∧
        (after.scene.score, after.scene.trophyPosition) =
          (messages.filterMap Message.scoring?).getLastD
            (device.scene.score, device.scene.trophyPosition)) := by
  refine ⟨fun message member state => session_branches coder message (fit message member) state, _,
    deliver_branches coder messages fit device playing, rfl, ?_, fun goes => ⟨?_, ?_⟩⟩
  · exact Runs.run_keeps Message.branch (fun state => state.startUpdateFlag = true)
      (fun state message plays => (branch_plays message state).trans plays) messages device playing
  · exact Runs.run_last_write Message.branch (fun state => state.scene.opponentPosition)
      Message.position? messages
      (fun message member => branch_opponent message (goes message member)) device
  · exact Runs.run_last_write Message.branch
      (fun state => (state.scene.score, state.scene.trophyPosition)) Message.scoring? messages
      (fun message member => branch_scoring message (goes message member)) device

/-- A device that has just been set up. -/
def justSetUp : PvPGameScene :=
  setupGame playerTile []
    { scene := { opponentIsAI := false, trophyPosition := playerTile, monsters := [] } }

/-- Two moves, a first trophy and a checksum that comes too late. -/
def firstMoves : List Message :=
  [.position playerTile, .scoring 1 opponentTile, .checksum "", .position opponentTile]

theorem first_moves_keep_meaning : ∃ after, deliver Json.utf8 firstMoves justSetUp = .ok after ∧
    after.scene.opponentPosition = opponentTile ∧
    (after.scene.score, after.scene.trophyPosition) = (1, opponentTile) := by
  have fit : ∀ message ∈ firstMoves, message.Fits := by
    simp [firstMoves, Message.Fits, FitsInt]
  have goes : ∀ message ∈ firstMoves, ¬ message.Ends := by
    simp [firstMoves, Message.Ends]
  obtain ⟨after, delivered, -, -, last⟩ :=
    (messages_keep_meaning Json.utf8 firstMoves fit justSetUp rfl).2
  exact ⟨after, delivered, last goes⟩

end PvPGameScene

/-! ### Bytes of any kind -/

/-- A device with the displays that its `info` has opened. -/
structure DisplayedScene where
  device : PvPGameScene
  display : MenuDisplay

namespace DisplayedScene
variable (coder : Json.Coder)

/-- `addChild` raises an exception for a node that has a parent. -/
def added : Option MenuDisplay → Except Fault MenuDisplay
  | some display => .ok display
  | none => .error .nodeHasParent

/-- `session(_:didReceive:fromPeer:)` with the nodes that its calls of `info` add;
    the display of a lost round is added by a block that runs later. -/
def sessionDidReceive (data : Json.Bytes) (scene : DisplayedScene) :
    Except Fault DisplayedScene :=
  if !scene.device.startUpdateFlag then
    match coder.decodeAs ChecksumPacket.codec data with
    | some checksum =>
        .ok { scene with device := { scene.device with checksumHash := checksum.hash } }
    | none => .ok scene
  else
    match GridPosition.decode coder data with
    | some gridPos => do
        let newPos ← mapPlace gridPos
        return { scene with device := scene.device.receivePosition newPos }
    | none =>
        match ScoringPacket.decode coder data with
        | some packet => do
            let newPos ← mapPlace packet.pos
            return {
              device := scene.device.receiveScoring packet.score newPos
              display := scene.display.checkOpponentWin packet.score }
        | none => do
            let value ← indexed data.head?
            if value = 1 then
              let display ← added scene.display.roundWinDisplay
              return { device := scene.device.receiveDeath, display }
            else
              return scene

/-- Where the handler returns it does to the device what it does without displays. -/
theorem session_device (data : Json.Bytes) (scene after : DisplayedScene)
    (ran : scene.sessionDidReceive coder data = .ok after) :
    PvPGameScene.sessionDidReceive coder data scene.device = .ok after.device := by
  -- Both follow the same three attempts; only the byte 1 adds nodes here.
  rw [sessionDidReceive] at ran
  rw [PvPGameScene.sessionDidReceive]
  split at ran
  · rename_i waiting
    rw [if_pos waiting]
    split at ran <;> (obtain rfl := Except.ok.inj ran; simp_all only)
  · rename_i playing
    rw [if_neg playing]
    cases position : GridPosition.decode coder data with
    | some gridPos =>
        simp only [position, run_bind_iff] at ran ⊢
        obtain ⟨newPos, found, same⟩ := ran
        obtain rfl := Except.ok.inj same
        exact ⟨newPos, found, rfl⟩
    | none =>
        simp only [position] at ran ⊢
        cases scoring : ScoringPacket.decode coder data with
        | some packet =>
            simp only [scoring, run_bind_iff] at ran ⊢
            obtain ⟨newPos, found, same⟩ := ran
            obtain rfl := Except.ok.inj same
            exact ⟨newPos, found, rfl⟩
        | none =>
            simp only [scoring, run_bind_iff] at ran ⊢
            obtain ⟨value, first, ran⟩ := ran
            refine ⟨value, first, ?_⟩
            split at ran
            · rename_i death
              obtain ⟨display, -, same⟩ := (run_bind_iff _ _ _).mp ran
              obtain rfl := Except.ok.inj same
              rw [if_pos death, run_pure]
            · rename_i other
              obtain rfl := Except.ok.inj ran
              rw [if_neg other, run_pure]

/-- Bytes of a position or a scoring packet on the map, and the death notice. -/
def Meaningful (data : Json.Bytes) : Prop :=
  (∃ pos : MapPlace, GridPosition.decode coder data = some pos.1) ∨
    (∃ score, ∃ pos : MapPlace, ScoringPacket.decode coder data = some ⟨score, pos.1⟩) ∨
    data = [1]

/-- The handler returns, and other bytes change nothing that the match is about. -/
def Withstands (data : Json.Bytes) (scene : DisplayedScene) : Prop :=
  ∃ after, scene.sessionDidReceive coder data = .ok after ∧
    (¬ Meaningful coder data →
      after.device.scene.opponentPosition = scene.device.scene.opponentPosition ∧
      after.device.scene.score = scene.device.scene.score ∧
      after.device.scene.trophyPosition = scene.device.scene.trophyPosition)

/-- No node of the win display has a parent. -/
def WinFits (display : MenuDisplay) : Prop :=
  Disjoint Screen.won.nodes.toFinset display.children

/-- What the first decoder to succeed reads is on the map; where none does there is
    a byte to read, and the byte 1 finds room for the win display. -/
def InBounds (data : Json.Bytes) (display : MenuDisplay) : Prop :=
  match GridPosition.decode coder data with
  | some gridPos => OnMap gridPos
  | none =>
      match ScoringPacket.decode coder data with
      | some packet => OnMap packet.pos
      | none => data ≠ [] ∧ (data.head? = some 1 → WinFits display)

theorem win_fits (display : MenuDisplay) :
    (∃ opened, display.roundWinDisplay = some opened) ↔ WinFits display := by
  rw [Menus.win_display_eq, MenuDisplay.addChildren, SceneTree.add_children_eq _ (by decide),
    WinFits]
  split
  · rename_i apart
    exact iff_of_true ⟨_, rfl⟩ apart
  · rename_i shared
    refine iff_of_false ?_ shared
    rintro ⟨opened, fits⟩
    cases fits

/-- In every run of the menus of a match the win display fits exactly when nothing
    covers the game. -/
theorem win_fits_over_game (events : List MenuEvent) (display start : MenuDisplay)
    (ready : MenuDisplay.setup false = some start)
    (ran : events.foldlM MenuDisplay.step start = some display) :
    WinFits display ↔ (Runs.run Menus.step {} events).screen = .game := by
  obtain ⟨first, began, laid⟩ := Menus.setup_laid false
  obtain rfl := Option.some.inj (ready.symm.trans began)
  have shows := Menus.run_laid events laid ran
  rw [WinFits, shows.children]
  exact Menus.display_fits _ .won (by decide)

section Bytes
variable {coder} {data : Json.Bytes} {scene : DisplayedScene}

/-- A decoded tile is an index before it is anything else. -/
theorem tile_withstood (place : GridPosition) (effect : MapPlace → DisplayedScene)
    (handled : scene.sessionDidReceive coder data = (mapPlace place).map effect)
    (meant : OnMap place → Meaningful coder data) :
    Withstands coder data scene ↔ OnMap place := by
  rw [Withstands, handled]
  by_cases onMap : OnMap place
  · rw [mapPlace, dif_pos onMap]
    exact iff_of_true ⟨_, rfl, fun stray => absurd (meant onMap) stray⟩ onMap
  · rw [mapPlace, dif_neg onMap]
    refine iff_of_false ?_ onMap
    rintro ⟨after, ran, -⟩
    cases ran

theorem position_withstood (playing : scene.device.startUpdateFlag = true)
    (gridPos : GridPosition) (decoded : GridPosition.decode coder data = some gridPos) :
    Withstands coder data scene ↔ OnMap gridPos := by
  refine tile_withstood gridPos
    (fun newPos => { scene with device := scene.device.receivePosition newPos }) ?_
    fun onMap => Or.inl ⟨⟨gridPos, onMap⟩, decoded⟩
  simp only [sessionDidReceive, playing, decoded]
  cases mapPlace gridPos <;> rfl

theorem scoring_withstood (playing : scene.device.startUpdateFlag = true)
    (packet : ScoringPacket) (missed : GridPosition.decode coder data = none)
    (decoded : ScoringPacket.decode coder data = some packet) :
    Withstands coder data scene ↔ OnMap packet.pos := by
  refine tile_withstood packet.pos (fun newPos => {
      device := scene.device.receiveScoring packet.score newPos
      display := scene.display.checkOpponentWin packet.score }) ?_
    fun onMap => Or.inr (Or.inl ⟨packet.score, ⟨packet.pos, onMap⟩, decoded⟩)
  simp only [sessionDidReceive, playing, missed, decoded]
  cases mapPlace packet.pos <;> rfl

/-- The byte 1 opens the win display, and any other one does nothing. -/
theorem byte_withstood (playing : scene.device.startUpdateFlag = true)
    (missed : GridPosition.decode coder data = none)
    (missed' : ScoringPacket.decode coder data = none) :
    Withstands coder data scene ↔
      data ≠ [] ∧ (data.head? = some 1 → WinFits scene.display) := by
  simp only [Withstands, sessionDidReceive, playing, missed, missed']
  cases data with
  | nil => simp [indexed, bind, Except.bind]
  | cons value rest =>
      simp only [List.head?_cons, indexed, run_ok, Option.some.injEq, ne_eq, reduceCtorEq,
        not_false_eq_true, true_and]
      by_cases death : value = 1
      · simp only [death, true_imp_iff, ← win_fits]
        cases opened : scene.display.roundWinDisplay with
        | some display => exact iff_of_true ⟨_, rfl, fun _ => ⟨rfl, rfl, rfl⟩⟩ ⟨display, rfl⟩
        | none =>
            refine iff_of_false ?_ (by simp)
            rintro ⟨after, ran, -⟩
            cases ran
      · simp only [death, false_imp_iff, iff_true]
        exact ⟨_, rfl, fun _ => ⟨rfl, rfl, rfl⟩⟩

end Bytes

/-- A playing device withstands the bytes it receives exactly when the tile that
    the first fitting decoder reads is on the map, the data is not empty, and its
    byte 1 finds no display open. -/
theorem received_data_withstood_iff (data : Json.Bytes) (scene : DisplayedScene)
    (playing : scene.device.startUpdateFlag = true) :
    Withstands coder data scene ↔ InBounds coder data scene.display := by
  rw [InBounds]
  cases position : GridPosition.decode coder data with
  | some gridPos => exact position_withstood playing gridPos position
  | none =>
      cases scoring : ScoringPacket.decode coder data with
      | some packet => exact scoring_withstood playing packet position scoring
      | none => exact byte_withstood playing position scoring

/-- A device that has just been set up, with nothing over the game. -/
def justShown : DisplayedScene := ⟨PvPGameScene.justSetUp, {}⟩

theorem death_withstood_iff :
    Withstands Json.utf8 [1] justShown ↔ InBounds Json.utf8 [1] justShown.display :=
  received_data_withstood_iff Json.utf8 [1] justShown rfl

/-- A position in the column 40, which no map has. -/
def strayPosition : Json.Bytes := Json.utf8.encodeAs GridPosition.codec ⟨40, 1⟩

theorem stray_position_traps : ¬ ∀ (coder : Json.Coder) (data : Json.Bytes)
    (scene : DisplayedScene), scene.device.startUpdateFlag = true →
    Withstands coder data scene := by
  intro withstands
  have decoded : GridPosition.decode Json.utf8 strayPosition = some ⟨40, 1⟩ := by
    rw [GridPosition.decode, strayPosition, Json.decode_encode_as]
    rfl
  have inside := (position_withstood rfl ⟨40, 1⟩ decoded).mp
    (withstands Json.utf8 strayPosition justShown rfl)
  exact absurd inside (by decide)

end DisplayedScene
end RelicRace
