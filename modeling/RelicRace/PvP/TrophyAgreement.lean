import RelicRace.PvP.Device

/-!
The trophy's tile on the two devices. Every collection writes the own trophy
and sends the tile, every scoring packet overwrites the trophy of its receiver:
a register that both parties write, so the law of registers decides when two
quiet devices show the same tile.
-/

namespace RelicRace
open Library Duplex

/-- The trophy's tile that a message carries. -/
def Message.trophy : Message → Option MapPlace
  | .scoring _ pos => some pos
  | _ => none

namespace PvPGameScene

@[simp] theorem check_opponent_win_trophy (scene : GameScene) :
    scene.checkOpponentWin.trophyPosition = scene.trophyPosition := by
  rw [GameScene.checkOpponentWin]
  split <;> rfl

theorem collected_trophy (draw : MapPlace) (scene : GameScene) :
    (collected draw scene).trophyPosition = draw := by
  rw [collected, GameScene.player_response_eq]
  split <;> rfl

theorem receive_started (message : Message) (device : PvPGameScene)
    (playing : device.startUpdateFlag = true) :
    (device.receive message).startUpdateFlag = true := by
  cases message with
  | checksum hash => simp [receive, playing]
  | position pos => simp [receive, playing, receivePosition]
  | scoring score pos =>
      simp only [receive, playing, if_true]
      exact (receive_scoring_frame score pos device).1.trans playing
  | death => simp [receive, playing, receiveDeath]

/-- Collections only: an event is the tile that is drawn. -/
def collections : Party PvPGameScene Message MapPlace := party.comap Event.collect

def trophyRegister : Register collections MapPlace where
  live device := device.startUpdateFlag = true
  read device := device.scene.trophyPosition
  carry := Message.trophy
  wrote draw := draw
  act_law draw device after messages playing acted := by
    simp only [collections, Party.comap, party, Event.allowed, playing, if_true,
      collect_perform, Option.some.injEq, Prod.mk.injEq] at acted
    obtain ⟨rfl, rfl⟩ := acted
    exact ⟨rfl, collected_trophy draw device.scene, _, rfl, rfl⟩
  receive_law message device playing := by
    refine ⟨receive_started message device playing, fun pos carried => ?_⟩
    cases message with
    | scoring score pos' =>
        obtain rfl := Option.some.inj carried
        change (device.receive (.scoring score pos')).scene.trophyPosition = pos'
        simp only [receive, playing, if_true, receive_scoring_eq, check_opponent_win_trophy]
    | _ => simp [Message.trophy] at carried

/-- Both devices have heard the other one last, and the tiles they drew last differ. -/
def Crossed (schedule : List (Action MapPlace)) : Prop :=
  (∀ side, heard side schedule.reverse = true) ∧
    lastWrite id .first schedule.reverse ≠ lastWrite id .second schedule.reverse

/-- Two quiet devices that started with one trophy tile agree on the trophy
    exactly when their last collections have not crossed with different tiles. -/
theorem trophies_agree (network final : Network PvPGameScene Message)
    (playing : ∀ side, (network.state side).startUpdateFlag = true)
    (agreed : (network.state .first).scene.trophyPosition =
      (network.state .second).scene.trophyPosition)
    (quiet : network.Quiescent) (schedule : List (Action MapPlace))
    (ran : run collections network schedule = some final) (quiet' : final.Quiescent) :
    (final.state .first).scene.trophyPosition = (final.state .second).scene.trophyPosition ↔
      ¬ Crossed schedule := by
  apply registers_agree trophyRegister (network.state .first).scene.trophyPosition schedule network
    final playing ?_ quiet ran quiet'
  intro side
  cases side
  · rfl
  · exact agreed.symm

/-- Two devices in the middle of a match. -/
def playingAt (trophy : MapPlace) : Network PvPGameScene Message where
  state _ := { scene := { opponentIsAI := false, trophyPosition := trophy, monsters := [] },
               startUpdateFlag := true }
  inbox _ := []

/-- One collection whose packet is delivered. -/
theorem trophies_agree_after_one : ∃ final,
    run collections (playingAt playerTile) [.act .first opponentTile, .deliver .second] =
        some final ∧
      ((final.state .first).scene.trophyPosition = (final.state .second).scene.trophyPosition ↔
        ¬ Crossed [.act .first opponentTile, .deliver .second]) :=
  ⟨_, rfl, trophies_agree (playingAt playerTile) _ (fun _ => rfl) rfl (fun _ => rfl) _ rfl
    (fun side => by cases side <;> rfl)⟩

/-- Both devices collect the same trophy before they hear of each other. -/
theorem trophies_cross : ¬ ∀ (network final : Network PvPGameScene Message)
    (schedule : List (Action MapPlace)),
    (∀ side, (network.state side).startUpdateFlag = true) →
    (network.state .first).scene.trophyPosition = (network.state .second).scene.trophyPosition →
    network.Quiescent → run collections network schedule = some final → final.Quiescent →
    (final.state .first).scene.trophyPosition = (final.state .second).scene.trophyPosition := by
  intro always
  have equal := always (playingAt playerTile) _
    [.act .first playerTile, .act .second opponentTile, .deliver .first, .deliver .second]
    (fun _ => rfl) rfl (fun _ => rfl) rfl (fun side => by cases side <;> rfl)
  exact absurd equal (by decide)

end PvPGameScene
end RelicRace
