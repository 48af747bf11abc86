import RelicRace.PvP.TrophyAgreement

/-!
The outcome of a match on its two devices. An orderly match has two phases:
both devices play, and then one has won while its fifth packet is still on the
way to the other or the other has lost.
-/

namespace RelicRace
open Library Duplex

/-- The packet of a fifth trophy. -/
def Message.fifth : Message → Bool
  | .scoring score _ => 5 ≤ score
  | _ => false

def Message.isDeath : Message → Bool
  | .death => true
  | _ => false

namespace PvPGameScene

def ended (device : PvPGameScene) : Prop := .endGame ∈ device.scene.trace

def shownWin (device : PvPGameScene) : Prop := .roundWinDisplay "player" ∈ device.scene.trace

instance (device : PvPGameScene) : Decidable device.ended := inferInstanceAs (Decidable (_ ∈ _))

instance (device : PvPGameScene) : Decidable device.shownWin := inferInstanceAs (Decidable (_ ∈ _))

/-- Neither device has ended its round, or both have and exactly one was shown a win. -/
def OutcomeAgreed (network : Network PvPGameScene Message) : Prop :=
  (∀ side, ¬ (network.state side).ended) ∨
    ((∀ side, (network.state side).ended) ∧
      ∃ side, (network.state side).shownWin ∧ ¬ (network.state side.other).shownWin)

/-- The two devices after their `setupGame`. -/
def begun (trophy : Side → MapPlace) (monsters : Side → List String) :
    Network PvPGameScene Message where
  state side := setupGame (trophy side) (monsters side)
    { scene := { opponentIsAI := false, trophyPosition := trophy side, monsters := [] } }
  inbox _ := []

/-- The steps after which the two devices can still agree. A fifth trophy is not
    collected by a device that has lost or that the other's fifth packet is on
    its way to; a last life is only lost to a device that has won. -/
def Orderly (network : Network PvPGameScene Message) : Action Event → Prop
  | .act side (.collect _) => (network.state side).scene.player_Score = 4 →
      (∀ message ∈ network.inbox side, message.fifth = false) ∧
        ¬ ((network.state side).ended ∧ ¬ (network.state side).shownWin)
  | .act side .monsterHit => (network.state side).scene.player_Health ≤ 1 →
      (network.state side.other).shownWin ∧ ¬ (network.state side).shownWin
  | .act _ (.setupGame _ _) => True
  | .act _ (.sendPosition _) => True
  | .deliver _ => True

instance (network : Network PvPGameScene Message) :
    (action : Action Event) → Decidable (Orderly network action)
  | .act _ (.collect _) => inferInstanceAs (Decidable (_ → _))
  | .act _ .monsterHit => inferInstanceAs (Decidable (_ → _))
  | .act _ (.setupGame _ _) => inferInstanceAs (Decidable True)
  | .act _ (.sendPosition _) => inferInstanceAs (Decidable True)
  | .deliver _ => inferInstanceAs (Decidable True)

/-! ### The phases of a match -/

structure Running (device : PvPGameScene) : Prop where
  started : device.startUpdateFlag = true
  short : device.scene.player_Score ≤ 4
  playing : ¬ device.ended
  unshown : ¬ device.shownWin

structure Won (device : PvPGameScene) : Prop where
  started : device.startUpdateFlag = true
  finished : device.ended
  shown : device.shownWin

structure Lost (device : PvPGameScene) : Prop where
  started : device.startUpdateFlag = true
  short : device.scene.player_Score ≤ 4
  finished : device.ended
  unshown : ¬ device.shownWin

/-- `news` says that the loser plays on only while a fifth packet is on its way. -/
inductive Phase (network : Network PvPGameScene Message) : Prop where
  | running (devices : ∀ side, Running (network.state side))
      (calm : ∀ side, ∀ message ∈ network.inbox side,
        message.fifth = false ∧ message.isDeath = false)
  | settled (winner : Side) (won : Won (network.state winner))
      (behind : ∀ message ∈ network.inbox winner, message.fifth = false)
      (alive : ∀ message ∈ network.inbox winner.other, message.isDeath = false)
      (news : Lost (network.state winner.other) ∨ (Running (network.state winner.other) ∧
        ∃ message ∈ network.inbox winner.other, message.fifth = true))

/-! ### One device -/

section Device
variable {device : PvPGameScene}

theorem collect_fifth (draw : MapPlace) (started : device.startUpdateFlag = true)
    (four : device.scene.player_Score = 4) : Won (afterCollect draw device) := by
  refine ⟨started, ?_, ?_⟩
  · simp [ended, afterCollect, collected, four, GameScene.onPlayerWin, GameScene.endGame,
      GameScene.call]
  · simp [shownWin, afterCollect, collected, four, GameScene.onPlayerWin, GameScene.call]

/-- A collection that is not the fifth only raises the score. -/
theorem collect_short (draw : MapPlace) (device : PvPGameScene)
    (other : device.scene.player_Score ≠ 4) :
    (afterCollect draw device).scene.player_Score = device.scene.player_Score + 1 ∧
      ((afterCollect draw device).ended ↔ device.ended) ∧
      ((afterCollect draw device).shownWin ↔ device.shownWin) := by
  rw [ended, shownWin, afterCollect, collected, if_neg other, GameScene.player_response_eq]
  cases ai : device.scene.opponentIsAI <;>
    simp [ended, shownWin, GameScene.placementCalls, ai]

theorem collect_keeps_won (draw : MapPlace) (won : Won device) :
    Won (afterCollect draw device) := by
  by_cases four : device.scene.player_Score = 4
  · exact collect_fifth draw won.started four
  · obtain ⟨-, finished, shown⟩ := collect_short draw device four
    exact ⟨won.started, finished.mpr won.finished, shown.mpr won.shown⟩

theorem collect_keeps_running (draw : MapPlace) (running : Running device)
    (other : device.scene.player_Score ≠ 4) : Running (afterCollect draw device) := by
  obtain ⟨score, finished, shown⟩ := collect_short draw device other
  have short := running.short
  exact ⟨running.started, by omega, fun ended => running.playing (finished.mp ended),
    fun win => running.unshown (shown.mp win)⟩

theorem collect_keeps_lost (draw : MapPlace) (lost : Lost device)
    (other : device.scene.player_Score ≠ 4) : Lost (afterCollect draw device) := by
  obtain ⟨score, finished, shown⟩ := collect_short draw device other
  have short := lost.short
  exact ⟨lost.started, by omega, finished.mpr lost.finished, fun win => lost.unshown (shown.mp win)⟩

/-- What a change that ends nothing leaves as it was. -/
structure SameRoundOf (before after : PvPGameScene) : Prop where
  started : after.startUpdateFlag = before.startUpdateFlag
  player_Score : after.scene.player_Score = before.scene.player_Score
  trace : after.scene.trace = before.scene.trace

namespace SameRoundOf
variable {before after : PvPGameScene}

theorem running (same : SameRoundOf before after) (running : Running before) : Running after :=
  ⟨same.started.trans running.started, same.player_Score ▸ running.short,
    by simpa only [ended, same.trace] using running.playing,
    by simpa only [shownWin, same.trace] using running.unshown⟩

theorem won (same : SameRoundOf before after) (won : Won before) : Won after :=
  ⟨same.started.trans won.started, by simpa only [ended, same.trace] using won.finished,
    by simpa only [shownWin, same.trace] using won.shown⟩

theorem lost (same : SameRoundOf before after) (lost : Lost before) : Lost after :=
  ⟨same.started.trans lost.started, same.player_Score ▸ lost.short,
    by simpa only [ended, same.trace] using lost.finished,
    by simpa only [shownWin, same.trace] using lost.unshown⟩

end SameRoundOf

theorem receive_calm (message : Message) (started : device.startUpdateFlag = true)
    (calm : message.fifth = false) (alive : message.isDeath = false) :
    SameRoundOf device (device.receive message) := by
  cases message with
  | checksum hash => simp only [receive, started, if_true]; exact ⟨rfl, rfl, rfl⟩
  | position pos => simp only [receive, started, if_true]; exact ⟨rfl, rfl, rfl⟩
  | scoring score pos =>
      have short : ¬ score ≥ 5 := by simpa [Message.fifth] using calm
      simp only [receive, started, if_true]
      obtain ⟨-, own, trace⟩ := receive_scoring_short score pos device short
      exact ⟨(receive_scoring_frame score pos device).1, own, trace⟩
  | death => simp [Message.isDeath] at alive

theorem receive_keeps_won (message : Message) (won : Won device) (behind : message.fifth = false) :
    Won (device.receive message) := by
  cases alive : message.isDeath with
  | false => exact (receive_calm message won.started behind alive).won won
  | true =>
      cases message with
      | death =>
          have finished := won.finished
          have shown := won.shown
          refine ⟨receive_started _ _ won.started, ?_, ?_⟩ <;>
            simp_all [receive, won.started, receiveDeath, ended, shownWin]
      | _ => simp [Message.isDeath] at alive

/-- The fifth packet of the other one ends the round without a win. -/
theorem receive_fifth (message : Message) (started : device.startUpdateFlag = true)
    (fifth : message.fifth = true) (unshown : ¬ device.shownWin) :
    Lost (device.receive message) := by
  cases message with
  | scoring score pos =>
      have five : score ≥ 5 := by simpa [Message.fifth] using fifth
      obtain ⟨own, trace⟩ := receive_scoring_fifth score pos device five
      have started' := receive_started (.scoring score pos) device started
      simp only [receive, started, if_true] at started' ⊢
      refine ⟨started', by rw [own]; decide, ?_, ?_⟩
      · simp [ended, trace]
      · simpa [shownWin, trace] using unshown
  | _ => simp [Message.fifth] at fifth

theorem hit_same (life : ¬ device.scene.player_Health ≤ 1) :
    (Event.perform device .monsterHit).2 = [] ∧
      SameRoundOf device (Event.perform device .monsterHit).1 := by
  have fewer := GameScene.lose_life_left device.scene (by omega)
  have left : ¬ device.scene.loseLife.player_Health = 0 := by omega
  rw [hit_life_left left]
  exact ⟨rfl, rfl, (GameScene.lose_life_scores device.scene).1,
    GameScene.lose_life_trace device.scene⟩

/-- A hit on a device that was not shown a win: its round may end, without one. -/
theorem hit_unshown (unshown : ¬ device.shownWin) (started : device.startUpdateFlag = true) :
    (∀ message ∈ (Event.perform device .monsterHit).2, message.fifth = false) ∧
      (Lost (Event.perform device .monsterHit).1 ∨
        SameRoundOf device (Event.perform device .monsterHit).1) := by
  by_cases last : device.scene.loseLife.player_Health = 0
  · have trace : device.scene.loseLife.onMonsterWin.trace =
        .playerDiedDisplay :: .endGame :: .onMonsterWin :: device.scene.trace := by
      simp [GameScene.onMonsterWin, GameScene.endGame, GameScene.lose_life_trace]
    rw [hit_last_life last]
    refine ⟨by simp [Message.fifth], Or.inl ⟨started, (by decide : (0 : Int) ≤ 4), ?_, ?_⟩⟩
    · simp [ended, trace]
    · simpa [shownWin, trace] using unshown
  · rw [hit_life_left last]
    exact ⟨by simp, Or.inr ⟨rfl, (GameScene.lose_life_scores device.scene).1,
      GameScene.lose_life_trace device.scene⟩⟩

/-- Whether the news has come or not, the loser was never shown a win. -/
theorem behind_device {told : Prop} (news : Lost device ∨ (Running device ∧ told)) :
    device.startUpdateFlag = true ∧ device.scene.player_Score ≤ 4 ∧ ¬ device.shownWin := by
  rcases news with lost | ⟨running, -⟩
  · exact ⟨lost.started, lost.short, lost.unshown⟩
  · exact ⟨running.started, running.short, running.unshown⟩

end Device

/-! ### One step of the match -/

section Steps
variable (network : Network PvPGameScene Message) (side : Side)

theorem all_sides (holds : Side → Prop) (here : holds side) (there : holds side.other) :
    ∀ side, holds side := by
  intro other
  rcases eq_or_other side other with rfl | rfl
  · exact here
  · exact there

/-- A collection. -/
theorem collect_phase (draw : MapPlace) (phase : Phase network)
    (orderly : Orderly network (.act side (.collect draw))) :
    Phase ((network.put side (afterCollect draw (network.state side))).enqueue side.other
      (network.inbox side.other ++
        [.scoring ((network.state side).scene.player_Score + 1) draw])) := by
  have packet (short : (network.state side).scene.player_Score ≤ 4)
      (other : (network.state side).scene.player_Score ≠ 4) :
      (Message.scoring ((network.state side).scene.player_Score + 1) draw).fifth = false := by
    simp only [Message.fifth, decide_eq_false_iff_not]
    omega
  cases phase with
  | running devices calm =>
      by_cases four : (network.state side).scene.player_Score = 4
      · refine .settled side ?_ ?_ ?_ (Or.inr ⟨?_, ?_⟩)
        · simpa using collect_fifth draw (devices side).started four
        · simpa using fun message member => (calm side message member).1
        · simp only [enqueue_inbox, List.forall_mem_append, List.forall_mem_singleton]
          exact ⟨fun message member => (calm side.other message member).2, rfl⟩
        · simpa using devices side.other
        · exact ⟨_, by simp only [enqueue_inbox]; exact List.mem_append_right _ List.mem_cons_self,
            by simp [Message.fifth, four]⟩
      · refine .running (all_sides side _ ?_ ?_) (all_sides side _ ?_ ?_)
        · simpa using collect_keeps_running draw (devices side) four
        · simpa using devices side.other
        · simpa using calm side
        · simp only [enqueue_inbox, List.forall_mem_append, List.forall_mem_singleton]
          exact ⟨calm side.other, packet (devices side).short four, rfl⟩
  | settled winner won behind alive news =>
      rcases eq_or_other winner side with rfl | rfl
      · refine .settled side ?_ ?_ ?_ ?_
        · simpa using collect_keeps_won draw won
        · simpa using behind
        · simp only [enqueue_inbox, List.forall_mem_append, List.forall_mem_singleton]
          exact ⟨alive, rfl⟩
        · simp only [enqueue_state, put_state_other, enqueue_inbox]
          rcases news with lost | ⟨running, message, member, fifth⟩
          · exact Or.inl lost
          · exact Or.inr ⟨running, message, List.mem_append_left _ member, fifth⟩
      · have other : (network.state winner.other).scene.player_Score ≠ 4 := by
          intro four
          obtain ⟨none, unlost⟩ := orderly four
          rcases news with lost | ⟨running, message, member, fifth⟩
          · exact unlost ⟨lost.finished, lost.unshown⟩
          · simp [none message member] at fifth
        refine .settled winner ?_ ?_ ?_ ?_
        · simpa using won
        · have short := (behind_device news).2.1
          simp only [other_other, enqueue_inbox, List.forall_mem_append, List.forall_mem_singleton]
          exact ⟨behind, packet short other⟩
        · simpa using alive
        · simp only [other_other, enqueue_state, put_state, enqueue_inbox_other, put_inbox]
          rcases news with lost | ⟨running, fifth⟩
          · exact Or.inl (collect_keeps_lost draw lost other)
          · exact Or.inr ⟨collect_keeps_running draw running other, by simpa using fifth⟩

/-- A monster's hit. -/
theorem hit_phase (phase : Phase network) (orderly : Orderly network (.act side .monsterHit)) :
    Phase ((network.put side (Event.perform (network.state side) .monsterHit).1).enqueue side.other
      (network.inbox side.other ++ (Event.perform (network.state side) .monsterHit).2)) := by
  cases phase with
  | running devices calm =>
      have life : ¬ (network.state side).scene.player_Health ≤ 1 :=
        fun last => (devices side.other).unshown (orderly last).1
      obtain ⟨silent, same⟩ := hit_same life
      rw [silent, List.append_nil]
      refine .running (all_sides side _ ?_ ?_) (all_sides side _ ?_ ?_)
      · simpa using same.running (devices side)
      · simpa using devices side.other
      · simpa using calm side
      · simpa using calm side.other
  | settled winner won behind alive news =>
      rcases eq_or_other winner side with rfl | rfl
      · have life : ¬ (network.state side).scene.player_Health ≤ 1 :=
          fun last => (orderly last).2 won.shown
        obtain ⟨silent, same⟩ := hit_same life
        rw [silent, List.append_nil]
        refine .settled side ?_ ?_ ?_ ?_
        · simpa using same.won won
        · simpa using behind
        · simpa using alive
        · simpa using news
      · obtain ⟨started, -, unshown⟩ := behind_device news
        obtain ⟨sent, hit⟩ := hit_unshown unshown started
        refine .settled winner ?_ ?_ ?_ ?_
        · simpa using won
        · simp only [other_other, enqueue_inbox, List.forall_mem_append]
          exact ⟨behind, sent⟩
        · simpa using alive
        · simp only [other_other, enqueue_state, put_state, enqueue_inbox_other, put_inbox]
          rcases hit with lost | same
          · exact Or.inl lost
          · rcases news with lost | ⟨running, fifth⟩
            · exact Or.inl (same.lost lost)
            · exact Or.inr ⟨same.running running, by simpa using fifth⟩

/-- A position neither ends nor wins a round. -/
theorem position_phase (sendPos : MapPlace) (phase : Phase network) :
    Phase ((network.put side { network.state side with outbox := [] }).enqueue side.other
      (network.inbox side.other ++ [.position sendPos])) := by
  have same : SameRoundOf (network.state side) { network.state side with outbox := [] } :=
    ⟨rfl, rfl, rfl⟩
  cases phase with
  | running devices calm =>
      refine .running (all_sides side _ ?_ ?_) (all_sides side _ ?_ ?_)
      · simpa using same.running (devices side)
      · simpa using devices side.other
      · simpa using calm side
      · simp only [enqueue_inbox, List.forall_mem_append, List.forall_mem_singleton]
        exact ⟨calm side.other, rfl, rfl⟩
  | settled winner won behind alive news =>
      rcases eq_or_other winner side with rfl | rfl
      · refine .settled side ?_ ?_ ?_ ?_
        · simpa using same.won won
        · simpa using behind
        · simp only [enqueue_inbox, List.forall_mem_append, List.forall_mem_singleton]
          exact ⟨alive, rfl⟩
        · simp only [enqueue_state, put_state_other, enqueue_inbox]
          rcases news with lost | ⟨running, message, member, fifth⟩
          · exact Or.inl lost
          · exact Or.inr ⟨running, message, List.mem_append_left _ member, fifth⟩
      · refine .settled winner ?_ ?_ ?_ ?_
        · simpa using won
        · simp only [other_other, enqueue_inbox, List.forall_mem_append, List.forall_mem_singleton]
          exact ⟨behind, rfl⟩
        · simpa using alive
        · simp only [other_other, enqueue_state, put_state, enqueue_inbox_other, put_inbox]
          rcases news with lost | ⟨running, fifth⟩
          · exact Or.inl (same.lost lost)
          · exact Or.inr ⟨same.running running, by simpa using fifth⟩

/-- The delivery of the oldest message. -/
theorem deliver_phase (phase : Phase network) (message : Message) (rest : List Message)
    (queue : network.inbox side = message :: rest) :
    Phase ((network.put side ((network.state side).receive message)).enqueue side rest) := by
  cases phase with
  | running devices calm =>
      have here := calm side
      rw [queue, List.forall_mem_cons] at here
      have same := receive_calm message (devices side).started here.1.1 here.1.2
      refine .running (all_sides side _ ?_ ?_) (all_sides side _ ?_ ?_)
      · simpa using same.running (devices side)
      · simpa using devices side.other
      · simpa using here.2
      · simpa using calm side.other
  | settled winner won behind alive news =>
      rcases eq_or_other winner side with rfl | rfl
      · rw [queue, List.forall_mem_cons] at behind
        refine .settled side ?_ ?_ ?_ ?_
        · simpa using receive_keeps_won message won behind.1
        · simpa using behind.2
        · simpa using alive
        · simpa using news
      · rw [queue, List.forall_mem_cons] at alive
        refine .settled winner ?_ ?_ ?_ ?_
        · simpa using won
        · simpa using behind
        · simpa using alive.2
        · simp only [enqueue_state, put_state, enqueue_inbox]
          cases fifth : message.fifth with
          | true =>
              -- The news arrives: the other device has lost now.
              obtain ⟨started, -, unshown⟩ := behind_device news
              exact Or.inl (receive_fifth message started fifth unshown)
          | false =>
              rcases news with lost | ⟨running, waiting⟩
              · exact Or.inl ((receive_calm message lost.started fifth alive.1).lost lost)
              · have calm := receive_calm message running.started fifth alive.1
                refine Or.inr ⟨calm.running running, ?_⟩
                obtain ⟨other, member, isFifth⟩ := waiting
                rw [queue] at member
                rcases List.mem_cons.mp member with rfl | later
                · simp [fifth] at isFifth
                · exact ⟨other, later, isFifth⟩

end Steps

theorem phase_started (network : Network PvPGameScene Message) (phase : Phase network)
    (side : Side) :
    (network.state side).startUpdateFlag = true := by
  cases phase with
  | running devices calm => exact (devices side).started
  | settled winner won behind alive news =>
      rcases eq_or_other winner side with rfl | rfl
      · exact won.started
      · exact (behind_device news).1

theorem step_phase (network : Network PvPGameScene Message) (action : Action Event)
    (after : Network PvPGameScene Message) (phase : Phase network)
    (orderly : Orderly network action) (stepped : step party network action = some after) :
    Phase after := by
  cases action with
  | deliver side =>
      obtain ⟨message, rest, queue, rfl⟩ := (step_deliver_iff party network after side).mp stepped
      exact deliver_phase network side phase message rest queue
  | act side event =>
      obtain ⟨state, messages, acted, rfl⟩ :=
        (step_act_iff party network after side event).mp stepped
      have started := phase_started network phase side
      rcases act_cases acted with ⟨_, _, -, idle, -⟩ | ⟨draw, rfl, -, rfl, rfl⟩ |
          ⟨rfl, -, rfl, rfl⟩ | ⟨sendPos, rfl, -, rfl, rfl⟩
      · simp [started] at idle
      · exact collect_phase network side draw phase orderly
      · exact hit_phase network side phase orderly
      · exact position_phase network side sendPos phase

theorem phase_agreed (network : Network PvPGameScene Message) (phase : Phase network)
    (quiet : network.Quiescent) : OutcomeAgreed network := by
  cases phase with
  | running devices => exact Or.inl fun side => (devices side).playing
  | settled winner won behind alive news =>
      rcases news with lost | ⟨-, message, member, -⟩
      · exact Or.inr
          ⟨all_sides winner _ won.finished lost.finished, winner, won.shown, lost.unshown⟩
      · simp [quiet winner.other] at member

/-- In every quiet state that an orderly schedule reaches, the devices agree on
    the outcome. -/
theorem outcomes_agree (trophy : Side → MapPlace) (monsters : Side → List String)
    (schedule : List (Action Event))
    (orderly : Meets party Orderly (begun trophy monsters) schedule)
    (final : Network PvPGameScene Message)
    (ran : run party (begun trophy monsters) schedule = some final) (quiet : final.Quiescent) :
    OutcomeAgreed final := by
  have start : Phase (begun trophy monsters) := by
    refine .running (fun side => ⟨rfl, (by decide : (0 : Int) ≤ 4), ?_, ?_⟩)
      (fun side message member => ?_)
    · simp [ended, begun, setupGame]
    · simp [shownWin, begun, setupGame]
    · simp [begun] at member
  exact phase_agreed final
    (meets_keeps party Orderly Phase step_phase schedule _ final start orderly ran) quiet

/-- The first device wins a match in which both collect. -/
def wonMatch : List (Action Event) :=
  [.act .second (.collect playerTile), .act .first .monsterHit, .deliver .first] ++
    (List.replicate 5 (.act .first (.collect opponentTile))) ++
    (List.replicate 5 (.deliver .second))

theorem outcomes_agree_when_won : ∃ final,
    run party (begun (fun _ => playerTile) (fun _ => [])) wonMatch = some final ∧
      final.Quiescent ∧ OutcomeAgreed final ∧ (final.state .first).shownWin :=
  ⟨_, rfl, fun side => by cases side <;> rfl,
    outcomes_agree (fun _ => playerTile) (fun _ => []) wonMatch (by decide) _ rfl
      (fun side => by cases side <;> rfl), by decide⟩

/-- The third hit on the first device: it ends its round and tells the second
    one, which is shown a win and plays on. -/
theorem outcomes_differ : ¬ ∀ (trophy : Side → MapPlace) (monsters : Side → List String)
    (schedule : List (Action Event)) (final : Network PvPGameScene Message),
    run party (begun trophy monsters) schedule = some final → final.Quiescent →
      OutcomeAgreed final := by
  intro always
  have agreed := always (fun _ => playerTile) (fun _ => [])
    [.act .first .monsterHit, .act .first .monsterHit, .act .first .monsterHit, .deliver .second]
    _ rfl (fun side => by cases side <;> rfl)
  rcases agreed with playing | ⟨finished, -⟩
  · exact playing .first (by decide)
  · exact absurd (finished .second) (by decide)

end PvPGameScene
end RelicRace
