import RelicRace.PvP.Outcome

/-!
The scores on the two devices from the tap on Next on. A packet that reaches a
device before its `setupGame` is read as a checksum and lost; the last scoring
packet decides the score, so a score is lost exactly when that one came too early.
-/

namespace RelicRace
open Library Duplex

namespace PvPGameScene

/-- After the tap on Next: the checksum is on its way and nobody has started. -/
def tapped (generator : Side) (hash : String) (blank : GameScene) :
    Network PvPGameScene Message where
  state _ := { scene := { blank with player_Score := 0, score := 0, trace := [] } }
  inbox side := if side = generator.other then [.checksum hash] else []

def ScoresAgree (network : Network PvPGameScene Message) : Prop :=
  ∀ side, (network.state side).scene.score = (network.state side.other).scene.player_Score

/-! ### What the deliveries tell (newest first) -/

/-- The receiver of the last scoring packet to a side, as the packet found it. -/
def lastScored (side : Side) :
    List (Delivery PvPGameScene Message) → Option PvPGameScene
  | [] => none
  | reached :: earlier =>
      if reached.side = side ∧ reached.message.scoring?.isSome then some reached.state
      else lastScored side earlier

/-- Each side that a scoring packet has reached was set up when the last one came. -/
def AllHeard (log : List (Delivery PvPGameScene Message)) : Prop :=
  ∀ side, ∀ found ∈ lastScored side log, found.startUpdateFlag = true

/-- What a device knows of its peer, and what is still on its way to it. -/
structure Line (side : Side) (log : List (Delivery PvPGameScene Message))
    (device peer : PvPGameScene) (queue : List Message) : Prop where
  counted : 0 ≤ device.scene.player_Score
  idle : device.startUpdateFlag = false → device.scene.player_Score = 0
  early : device.startUpdateFlag = false →
    ∀ found ∈ lastScored side log, found.startUpdateFlag = false
  deaf : (∀ found ∈ lastScored side log, found.startUpdateFlag = false) → device.scene.score = 0
  silent : peer.scene.player_Score = 0 →
    queue.filterMap Message.scoring? = [] ∧ lastScored side log = none
  newest : ∀ packet, (queue.filterMap Message.scoring?).getLast? = some packet →
    packet.1 = peer.scene.player_Score
  reached : queue.filterMap Message.scoring? = [] → 0 < peer.scene.player_Score →
    ∃ found, lastScored side log = some found
  current : queue.filterMap Message.scoring? = [] → ∀ found ∈ lastScored side log,
    found.startUpdateFlag = true → device.scene.score = peer.scene.player_Score
  alive : ∀ message ∈ queue, message.isDeath = false

def Tallied (log : List (Delivery PvPGameScene Message))
    (network : Network PvPGameScene Message) : Prop :=
  ∀ side, Line side log (network.state side) (network.state side.other) (network.inbox side)

/-- A round has ended somewhere, or the scores are tallied. -/
def EndedOrTallied (log : List (Delivery PvPGameScene Message))
    (network : Network PvPGameScene Message) : Prop :=
  (∃ side, (network.state side).startUpdateFlag = true ∧ (network.state side).ended) ∨
    Tallied log network

/-- The line reads three fields of the device and one of its peer. -/
theorem Line.same {side : Side} {log : List (Delivery PvPGameScene Message)}
    {device peer device' peer' : PvPGameScene} {queue : List Message}
    (line : Line side log device peer queue)
    (started : device'.startUpdateFlag = device.startUpdateFlag)
    (own : device'.scene.player_Score = device.scene.player_Score)
    (score : device'.scene.score = device.scene.score)
    (other : peer'.scene.player_Score = peer.scene.player_Score) :
    Line side log device' peer' queue where
  counted := own ▸ line.counted
  idle := by rw [started, own]; exact line.idle
  early := by rw [started]; exact line.early
  deaf := by rw [score]; exact line.deaf
  silent := by rw [other]; exact line.silent
  newest := by rw [other]; exact line.newest
  reached := by rw [other]; exact line.reached
  current := by rw [score, other]; exact line.current
  alive := line.alive

/-- A message that is no scoring packet may join the queue. -/
theorem Line.queued {side : Side} {log : List (Delivery PvPGameScene Message)}
    {device peer : PvPGameScene} {queue : List Message} (line : Line side log device peer queue)
    (message : Message) (plain : message.scoring? = none) (alive : message.isDeath = false) :
    Line side log device peer (queue ++ [message]) := by
  have same : (queue ++ [message]).filterMap Message.scoring? =
      queue.filterMap Message.scoring? := by
    simp [plain]
  refine ⟨line.counted, line.idle, line.early, line.deaf, ?_, ?_, ?_, ?_, ?_⟩
  · rw [same]
    exact line.silent
  · rw [same]
    exact line.newest
  · rw [same]
    exact line.reached
  · rw [same]
    exact line.current
  · simp only [List.forall_mem_append, List.forall_mem_singleton]
    exact ⟨line.alive, alive⟩

/-- A delivery to the other side leaves the line as it is. -/
theorem Line.elsewhere {side : Side} {log : List (Delivery PvPGameScene Message)}
    {device peer : PvPGameScene} {queue : List Message} (line : Line side.other log device peer
      queue) (found : PvPGameScene) (message : Message) :
    Line side.other (⟨side, found, message⟩ :: log) device peer queue := by
  have same : lastScored side.other (⟨side, found, message⟩ :: log) =
      lastScored side.other log := by
    simp [lastScored]
  refine ⟨line.counted, line.idle, ?_, ?_, ?_, line.newest, ?_, ?_, line.alive⟩
  · rw [same]
    exact line.early
  · rw [same]
    exact line.deaf
  · rw [same]
    exact line.silent
  · rw [same]
    exact line.reached
  · rw [same]
    exact line.current

/-! ### One device -/

section Device
variable {device : PvPGameScene}

theorem collect_keeps_ended (draw : MapPlace) (started : device.startUpdateFlag = true)
    (finished : device.ended) : (afterCollect draw device).ended := by
  by_cases four : device.scene.player_Score = 4
  · exact (collect_fifth draw started four).finished
  · exact (collect_short draw device four).2.1.mpr finished

/-- A hit ends the round with the last life, or changes nothing that counts. -/
theorem hit_ends_or_same (device : PvPGameScene) :
    ((Event.perform device .monsterHit).1.startUpdateFlag = device.startUpdateFlag ∧
      (Event.perform device .monsterHit).1.ended) ∨
    ((Event.perform device .monsterHit).2 = [] ∧
      (Event.perform device .monsterHit).1.scene.score = device.scene.score ∧
      SameRoundOf device (Event.perform device .monsterHit).1) := by
  by_cases last : device.scene.loseLife.player_Health = 0
  · left
    rw [hit_last_life last]
    exact ⟨rfl, by simp [ended, GameScene.onMonsterWin, GameScene.endGame]⟩
  · right
    obtain ⟨own, other⟩ := GameScene.lose_life_scores device.scene
    rw [hit_life_left last]
    exact ⟨rfl, other, rfl, own, GameScene.lose_life_trace device.scene⟩

theorem receive_keeps_ended (message : Message) (started : device.startUpdateFlag = true)
    (finished : device.ended) : (device.receive message).ended := by
  rw [ended] at finished ⊢
  cases message with
  | checksum hash => simpa [receive, started] using finished
  | position pos => simpa [receive, started, receivePosition] using finished
  | scoring score pos =>
      simp only [receive, started, if_true]
      by_cases five : score ≥ 5
      · simp [(receive_scoring_fifth score pos device five).2]
      · simpa [(receive_scoring_short score pos device five).2.2] using finished
  | death => simpa [receive, started, receiveDeath] using finished

/-- What a delivery that ends nothing does to the scores. -/
structure Received (message : Message) (before after : PvPGameScene) : Prop where
  started : after.startUpdateFlag = before.startUpdateFlag
  player_Score : after.scene.player_Score = before.scene.player_Score
  dropped : before.startUpdateFlag = false → after.scene.score = before.scene.score
  plain : message.scoring? = none → after.scene.score = before.scene.score
  scoring : before.startUpdateFlag = true →
    ∀ packet, message.scoring? = some packet → after.scene.score = packet.1

theorem receive_unstarted (message : Message) (idle : device.startUpdateFlag = false) :
    Received message device (device.receive message) := by
  cases message with
  | checksum hash =>
      simp only [receive, idle, Bool.false_eq_true, if_false]
      exact ⟨idle.symm ▸ rfl, rfl, fun _ => rfl, fun _ => rfl,
        fun started => by simp [idle] at started⟩
  | _ =>
      simp only [receive, idle, Bool.false_eq_true, if_false]
      exact ⟨rfl, rfl, fun _ => rfl, fun _ => rfl, fun started => by simp [idle] at started⟩

theorem receive_ends_or_tells (message : Message) (started : device.startUpdateFlag = true)
    (alive : message.isDeath = false) :
    (device.receive message).ended ∨ Received message device (device.receive message) := by
  cases message with
  | checksum hash =>
      simp only [receive, started, if_true]
      exact Or.inr ⟨rfl, rfl, fun _ => rfl, fun _ => rfl, fun _ packet same => by cases same⟩
  | position pos =>
      simp only [receive, started, if_true]
      exact Or.inr ⟨rfl, rfl, fun _ => rfl, fun _ => rfl, fun _ packet same => by cases same⟩
  | scoring score pos =>
      simp only [receive, started, if_true]
      by_cases five : score ≥ 5
      · exact Or.inl (by simp [ended, (receive_scoring_fifth score pos device five).2])
      · obtain ⟨set, own, -⟩ := receive_scoring_short score pos device five
        refine Or.inr ⟨(receive_scoring_frame score pos device).1, own, ?_, ?_, ?_⟩
        · intro idle
          simp [started] at idle
        · intro plain
          cases plain
        · rintro - packet same
          cases same
          exact set
  | death => simp [Message.isDeath] at alive

end Device

/-! ### One step -/

section Steps
variable (log : List (Delivery PvPGameScene Message)) (network : Network PvPGameScene Message)
  (side : Side)

theorem set_up_tallied (trophy : MapPlace) (monsters : List String)
    (tallied : Tallied log network) (idle : (network.state side).startUpdateFlag = false) :
    Tallied log
      (network.put side { (network.state side).setupGame trophy monsters with outbox := [] }) := by
  have line := tallied side
  have line' := tallied side.other
  rw [other_other] at line'
  refine all_sides side _ ?_ ?_
  · simp only [put_state, put_state_other, put_inbox]
    refine ⟨le_rfl, fun _ => rfl, fun new => ?_, fun _ => rfl, line.silent, line.newest,
      line.reached, fun _ found member started => ?_, line.alive⟩
    · simp [setupGame] at new
    -- Every packet so far has found the device waiting.
    · rw [line.early idle found member] at started
      cases started
  · simp only [other_other, put_state, put_state_other, put_inbox]
    exact line'.same rfl rfl rfl (line.idle idle).symm

/-- A collection that is not the fifth. -/
theorem collect_tallied (draw : MapPlace) (tallied : Tallied log network)
    (started : (network.state side).startUpdateFlag = true)
    (other : (network.state side).scene.player_Score ≠ 4) :
    Tallied log
      ((network.put side (afterCollect draw (network.state side))).enqueue side.other
        (network.inbox side.other ++
          [.scoring ((network.state side).scene.player_Score + 1) draw])) := by
  have line := tallied side
  have line' := tallied side.other
  rw [other_other] at line'
  have raised := (collect_short draw (network.state side) other).1
  have kept : (afterCollect draw (network.state side)).scene.score =
      (network.state side).scene.score := by
    rw [afterCollect, collected, if_neg other, GameScene.player_response_eq]
  have positive := line.counted
  refine all_sides side _ ?_ ?_
  · simp only [enqueue_state, put_state, put_state_other, enqueue_other_inbox, put_inbox]
    refine ⟨by rw [raised]; omega, fun idle => ?_, line.early, ?_, line.silent, line.newest,
      line.reached, ?_, line.alive⟩
    · exact absurd (started.symm.trans idle) (by decide)
    · rw [kept]
      exact line.deaf
    · rw [kept]
      exact line.current
  · simp only [enqueue_state, put_state_other, other_other, put_state, enqueue_inbox]
    have waiting : (network.inbox side.other ++
        [Message.scoring ((network.state side).scene.player_Score + 1) draw]).filterMap
          Message.scoring? = (network.inbox side.other).filterMap Message.scoring? ++
            [((network.state side).scene.player_Score + 1, draw)] := by
      simp [Message.scoring?]
    refine ⟨line'.counted, line'.idle, line'.early, line'.deaf, ?_, ?_, ?_, ?_, ?_⟩
    · rw [raised]
      omega
    · intro packet last
      rw [waiting, List.getLast?_concat] at last
      rw [← Option.some.inj last, raised]
    · rw [waiting]
      exact fun empty => absurd empty (by simp)
    · rw [waiting]
      exact fun empty => absurd empty (by simp)
    · simp only [List.forall_mem_append, List.forall_mem_singleton]
      exact ⟨line'.alive, rfl⟩

/-- A hit that ends nothing. -/
theorem hit_tallied (device : PvPGameScene) (tallied : Tallied log network)
    (score : device.scene.score = (network.state side).scene.score)
    (same : SameRoundOf (network.state side) device) :
    Tallied log (network.put side device) := by
  have line := tallied side
  have line' := tallied side.other
  rw [other_other] at line'
  refine all_sides side _ ?_ ?_
  · rw [put_state, put_state_other, put_inbox]
    exact line.same same.started same.player_Score score rfl
  · rw [put_state_other, other_other, put_state, put_inbox]
    exact line'.same rfl rfl rfl same.player_Score

theorem position_tallied (sendPos : MapPlace) (tallied : Tallied log network) :
    Tallied log ((network.put side { network.state side with outbox := [] }).enqueue side.other
      (network.inbox side.other ++ [.position sendPos])) := by
  have line := tallied side
  have line' := tallied side.other
  rw [other_other] at line'
  refine all_sides side _ ?_ ?_
  · simp only [enqueue_state, put_state, put_state_other, enqueue_other_inbox, put_inbox]
    exact line.same rfl rfl rfl rfl
  · simp only [enqueue_state, put_state_other, other_other, put_state, enqueue_inbox]
    exact (line'.queued (.position sendPos) rfl rfl).same rfl rfl rfl rfl

section Delivered
variable {rest : List Message} {message : Message} {before after peer : PvPGameScene}

/-- A message that is no packet leaves the packets as they were. -/
theorem plain_line (line : Line side log before peer (message :: rest))
    (received : Received message before after) (plain : message.scoring? = none) :
    Line side (⟨side, before, message⟩ :: log) after peer rest := by
  have same : lastScored side (⟨side, before, message⟩ :: log) = lastScored side log := by
    simp [lastScored, plain]
  have behind : rest.filterMap Message.scoring? =
      (message :: rest).filterMap Message.scoring? := by
    rw [List.filterMap_cons_none plain]
  have kept := line.same received.started received.player_Score (received.plain plain) rfl
  constructor
  case counted => exact kept.counted
  case idle => exact kept.idle
  case early =>
    rw [same]
    exact kept.early
  case deaf =>
    rw [same]
    exact kept.deaf
  case silent =>
    rw [same, behind]
    exact kept.silent
  case newest =>
    rw [behind]
    exact kept.newest
  case reached =>
    rw [same, behind]
    exact kept.reached
  case current =>
    rw [same, behind]
    exact kept.current
  case alive => exact (List.forall_mem_cons.mp line.alive).2

/-- A packet finds the device waiting, and is lost on it, or sets its score. -/
theorem packet_line {packet : Int × MapPlace} (line : Line side log before peer (message :: rest))
    (received : Received message before after) (scored : message.scoring? = some packet) :
    Line side (⟨side, before, message⟩ :: log) after peer rest := by
  have found : lastScored side (⟨side, before, message⟩ :: log) = some before := by
    simp [lastScored, scored]
  have front : (message :: rest).filterMap Message.scoring? =
      packet :: rest.filterMap Message.scoring? := by
    rw [List.filterMap_cons_some scored]
  have newest := line.newest
  rw [front] at newest
  constructor
  case counted => exact received.player_Score ▸ line.counted
  case idle =>
    rw [received.started, received.player_Score]
    exact line.idle
  case early =>
    rw [received.started, found]
    rintro idle _ ⟨⟩
    exact idle
  case deaf =>
    rw [found]
    intro waiting
    have idle := waiting before rfl
    exact (received.dropped idle).trans (line.deaf (line.early idle))
  case silent =>
    intro none
    have empty := (line.silent none).1
    rw [front] at empty
    cases empty
  case newest =>
    intro last isLast
    exact newest last (by rw [List.getLast?_cons, isLast]; rfl)
  case reached => exact fun _ _ => ⟨before, found⟩
  case current =>
    rw [found]
    rintro empty _ ⟨⟩ started
    rw [received.scoring started packet scored]
    exact newest packet (by rw [empty]; rfl)
  case alive => exact (List.forall_mem_cons.mp line.alive).2

/-- The line of the receiver after a delivery that ends nothing. -/
theorem received_line (line : Line side log before peer (message :: rest))
    (received : Received message before after) :
    Line side (⟨side, before, message⟩ :: log) after peer rest := by
  cases packet : message.scoring? with
  | none => exact plain_line log side line received packet
  | some value => exact packet_line log side line received packet

end Delivered

/-- A delivery that ends nothing. -/
theorem deliver_tallied (message : Message) (rest : List Message) (device : PvPGameScene)
    (tallied : Tallied log network) (queue : network.inbox side = message :: rest)
    (received : Received message (network.state side) device) :
    Tallied (⟨side, network.state side, message⟩ :: log)
      ((network.put side device).enqueue side rest) := by
  have line' := tallied side.other
  rw [other_other] at line'
  refine all_sides side _ ?_ ?_
  · simp only [enqueue_state, put_state, put_state_other, enqueue_inbox]
    have line := tallied side
    rw [queue] at line
    exact received_line log side line received
  · simp only [enqueue_state, put_state_other, other_other, put_state, enqueue_inbox_other,
      put_inbox]
    exact (line'.same rfl rfl rfl received.player_Score).elsewhere _ message

end Steps

section Runs
variable {log : List (Delivery PvPGameScene Message)}
  {network after : Network PvPGameScene Message}

/-- An event of a started device that has ended its round leaves it so. -/
theorem act_keeps_ended {event : Event} {device state : PvPGameScene} {messages : List Message}
    (acted : party.act event device = some (state, messages))
    (started : device.startUpdateFlag = true) (finished : device.ended) :
    state.startUpdateFlag = true ∧ state.ended := by
  rcases act_cases acted with ⟨_, _, -, idle, -⟩ | ⟨draw, -, -, rfl, -⟩ | ⟨-, -, rfl, -⟩ |
      ⟨sendPos, -, -, rfl, -⟩
  · simp [started] at idle
  · exact ⟨started, collect_keeps_ended draw started finished⟩
  · rcases hit_ends_or_same device with ⟨same, ended⟩ | ⟨-, -, same⟩
    · exact ⟨same.trans started, ended⟩
    · refine ⟨same.started.trans started, ?_⟩
      simpa only [PvPGameScene.ended, same.trace] using finished
  · exact ⟨started, finished⟩

theorem act_ended_or_tallied (log : List (Delivery PvPGameScene Message))
    (network : Network PvPGameScene Message) (side : Side) (event : Event) (state : PvPGameScene)
    (messages : List Message) (kept : EndedOrTallied log network)
    (acted : party.act event (network.state side) = some (state, messages)) :
    EndedOrTallied log ((network.put side state).enqueue side.other
      (network.inbox side.other ++ messages)) := by
  rcases kept with ⟨finisher, started, finished⟩ | tallied
  · refine Or.inl ⟨finisher, ?_⟩
    rcases eq_or_other side finisher with rfl | rfl
    · simpa using act_keeps_ended acted started finished
    · simpa using ⟨started, finished⟩
  · rcases act_cases acted with ⟨trophy, monsters, rfl, idle, rfl, rfl⟩ |
        ⟨draw, rfl, started, rfl, rfl⟩ | ⟨rfl, started, rfl, rfl⟩ | ⟨sendPos, rfl, -, rfl, rfl⟩
    · right
      rw [List.append_nil, ← put_inbox, enqueue_same]
      exact set_up_tallied log network side trophy monsters tallied idle
    · by_cases four : (network.state side).scene.player_Score = 4
      · refine Or.inl ⟨side, ?_, ?_⟩
        · simpa [afterCollect] using started
        · simpa using (collect_fifth draw started four).finished
      · exact Or.inr (collect_tallied log network side draw tallied started four)
    · rcases hit_ends_or_same (network.state side) with ⟨same, finished⟩ | ⟨silent, score, same⟩
      · refine Or.inl ⟨side, ?_, ?_⟩
        · simpa using same.trans started
        · simpa using finished
      · right
        rw [silent, List.append_nil, ← put_inbox, enqueue_same]
        exact hit_tallied log network side _ tallied score same
    · exact Or.inr (position_tallied log network side sendPos tallied)

theorem deliver_ended_or_tallied (log : List (Delivery PvPGameScene Message))
    (network : Network PvPGameScene Message) (side : Side) (message : Message)
    (rest : List Message) (kept : EndedOrTallied log network)
    (queue : network.inbox side = message :: rest) :
    EndedOrTallied (⟨side, network.state side, message⟩ :: log)
      ((network.put side ((network.state side).receive message)).enqueue side rest) := by
  rcases kept with ⟨finisher, started, finished⟩ | tallied
  · refine Or.inl ⟨finisher, ?_⟩
    rcases eq_or_other side finisher with rfl | rfl
    · simp only [enqueue_state, put_state]
      exact ⟨receive_started message _ started, receive_keeps_ended message started finished⟩
    · simpa using ⟨started, finished⟩
  · have alive : message.isDeath = false := (tallied side).alive message (by simp [queue])
    cases started : (network.state side).startUpdateFlag with
    | false =>
        exact Or.inr (deliver_tallied log network side message rest _ tallied queue
          (receive_unstarted message started))
    | true =>
        rcases receive_ends_or_tells message started alive with finished | received
        · refine Or.inl ⟨side, ?_, ?_⟩
          · simpa using receive_started message _ started
          · simpa using finished
        · exact Or.inr (deliver_tallied log network side message rest _ tallied queue received)

end Runs

theorem tapped_tallied (generator : Side) (hash : String) (blank : GameScene) :
    Tallied [] (tapped generator hash blank) := by
  intro side
  have onlyHash : ∀ message ∈ (tapped generator hash blank).inbox side,
      message = .checksum hash := by
    intro message member
    simp only [tapped] at member
    split at member
    · exact List.mem_singleton.mp member
    · cases member
  have plain : ((tapped generator hash blank).inbox side).filterMap Message.scoring? = [] := by
    rw [List.filterMap_eq_nil_iff]
    intro message member
    rw [onlyHash message member]
    rfl
  have none (found : PvPGameScene) : found ∉ lastScored side [] := by simp [lastScored]
  refine ⟨le_rfl, fun _ => rfl, fun _ found member => absurd member (none found), fun _ => rfl,
    fun _ => ⟨plain, rfl⟩, ?_, fun _ positive => absurd positive (lt_irrefl 0),
    fun _ found member => absurd member (none found), ?_⟩
  · rw [plain]
    intro packet last
    cases last
  · intro message member
    rw [onlyHash message member]
    rfl

/-- Two devices in a round that has not ended, with no message on its way: the
    scores agree exactly when the last scoring packet to each of them, if there
    was one, came after its own `setupGame`. -/
theorem scores_agree (generator : Side) (hash : String) (blank : GameScene)
    (schedule : List (Action Event)) (final : Network PvPGameScene Message)
    (ran : run party (tapped generator hash blank) schedule = some final) (quiet : final.Quiescent)
    (playing : ∀ side, ¬ (final.state side).ended) :
    ScoresAgree final ↔
      AllHeard (deliveries party [] (tapped generator hash blank) schedule) := by
  have kept := run_keeps_deliveries party EndedOrTallied act_ended_or_tallied
    deliver_ended_or_tallied [] schedule _ final (Or.inr (tapped_tallied generator hash blank)) ran
  rcases kept with ⟨side, -, finished⟩ | tallied
  · exact absurd finished (playing side)
  constructor
  · -- A packet that found the device waiting leaves it at 0, and its sender is past that.
    intro agree side found member
    by_contra unheard
    have line := tallied side
    have zero : (final.state side).scene.score = 0 := by
      refine line.deaf fun other also => ?_
      obtain rfl := Option.some.inj (member.symm.trans also)
      simpa using unheard
    have none := (line.silent ((agree side).symm.trans zero)).2
    rw [none] at member
    cases member
  · intro heard side
    have line := tallied side
    have empty : (final.inbox side).filterMap Message.scoring? = [] := by
      rw [quiet side, List.filterMap_nil]
    -- Without a point of the sender there was no packet; otherwise the last one told all.
    rcases (tallied side.other).counted.eq_or_lt with zero | positive
    · refine (line.deaf fun found member => ?_).trans zero
      rw [(line.silent zero.symm).2] at member
      cases member
    · obtain ⟨found, member⟩ := line.reached empty positive
      exact line.current empty found member (heard side found member)

/-- The generator collects while the other device sets up, sends its position
    and collects once more. -/
def slowSetup : List (Action Event) :=
  [.deliver .second, .act .first (.setupGame playerTile []), .act .first (.collect opponentTile),
    .deliver .second, .act .second (.setupGame playerTile []),
    .act .first (.sendPosition opponentTile), .deliver .second,
    .act .first (.collect playerTile), .deliver .second]

def beforeSetup : GameScene :=
  { opponentIsAI := false, trophyPosition := playerTile, monsters := [] }

theorem scores_agree_after_slow_setup : ∃ final,
    run party (tapped .first "" beforeSetup) slowSetup = some final ∧ final.Quiescent ∧
      (∀ side, (final.state side).startUpdateFlag = true) ∧
      (ScoresAgree final ↔
        AllHeard (deliveries party [] (tapped .first "" beforeSetup) slowSetup)) :=
  ⟨_, rfl, fun side => by cases side <;> rfl, fun side => by cases side <;> rfl,
    scores_agree .first "" beforeSetup slowSetup _ rfl (fun side => by cases side <;> rfl)
      (fun side => by cases side <;> decide)⟩

/-- The first collection of the generator reaches the other device before its
    `setupGame`: it starts with the score 0 against 1, and the position that
    comes next does not change that. -/
theorem early_score_lost : ¬ ∀ (generator : Side) (hash : String) (blank : GameScene)
    (schedule : List (Action Event)) (final : Network PvPGameScene Message),
    run party (tapped generator hash blank) schedule = some final → final.Quiescent →
      (∀ side, (final.state side).startUpdateFlag = true) →
      (∀ side, ¬ (final.state side).ended) → ScoresAgree final := by
  intro always
  have agree := always .first "" beforeSetup (slowSetup.take 7) _ rfl
    (fun side => by cases side <;> rfl) (fun side => by cases side <;> rfl)
    (fun side => by cases side <;> decide)
  exact absurd (agree .second) (by decide)

end PvPGameScene
end RelicRace
