import Mathlib.Logic.Function.Basic
import Mathlib.Tactic.Common

/-!
Two parties joined by two reliable first-in-first-out channels. A party acts on
events of its own, which may send messages, and reacts to the messages that
reach it. A schedule is a list of actions; it decides every interleaving of
local events and deliveries.
-/

namespace Library.Duplex

inductive Side where
  | first
  | second
  deriving DecidableEq, Repr

def Side.other : Side → Side
  | .first => .second
  | .second => .first

@[simp] theorem other_other (side : Side) : side.other.other = side := by cases side <;> rfl

@[simp] theorem other_ne (side : Side) : side.other ≠ side := by cases side <;> decide

@[simp] theorem ne_other (side : Side) : side ≠ side.other := by cases side <;> decide

theorem eq_or_other (side other : Side) : other = side ∨ other = side.other := by
  cases side <;> cases other <;> decide

/-- An event that a state does not allow is `none`. -/
structure Party (State Message Event : Type) where
  act : Event → State → Option (State × List Message)
  receive : Message → State → State

inductive Action (Event : Type) where
  | act (side : Side) (event : Event)
  | deliver (side : Side)

/-- The states of the parties and the messages on their way to them, oldest first. -/
structure Network (State Message : Type) where
  state : Side → State
  inbox : Side → List Message

section Runs
variable {State Message Event : Type}

def Network.Quiescent (network : Network State Message) : Prop := ∀ side, network.inbox side = []

def Network.put (network : Network State Message) (side : Side) (state : State) :
    Network State Message :=
  { network with state := Function.update network.state side state }

def Network.enqueue (network : Network State Message) (side : Side) (messages : List Message) :
    Network State Message :=
  { network with inbox := Function.update network.inbox side messages }

section Parts
variable (network : Network State Message) (side : Side) (state : State) (messages : List Message)

@[simp] theorem put_state : (network.put side state).state side = state := by simp [Network.put]

@[simp] theorem put_state_other :
    (network.put side state).state side.other = network.state side.other := by simp [Network.put]

@[simp] theorem put_other_state :
    (network.put side.other state).state side = network.state side := by simp [Network.put]

@[simp] theorem put_inbox : (network.put side state).inbox = network.inbox := rfl

@[simp] theorem enqueue_inbox : (network.enqueue side messages).inbox side = messages := by
  simp [Network.enqueue]

@[simp] theorem enqueue_inbox_other :
    (network.enqueue side messages).inbox side.other = network.inbox side.other := by
  simp [Network.enqueue]

@[simp] theorem enqueue_other_inbox :
    (network.enqueue side.other messages).inbox side = network.inbox side := by
  simp [Network.enqueue]

@[simp] theorem enqueue_same : network.enqueue side (network.inbox side) = network := by
  simp [Network.enqueue]

@[simp] theorem enqueue_state : (network.enqueue side messages).state = network.state := rfl

end Parts

def step (party : Party State Message Event) (network : Network State Message) :
    Action Event → Option (Network State Message)
  | .act side event => do
      let (state, messages) ← party.act event (network.state side)
      return (network.put side state).enqueue side.other (network.inbox side.other ++ messages)
  | .deliver side =>
      match network.inbox side with
      | [] => none
      | message :: rest =>
          some ((network.put side (party.receive message (network.state side))).enqueue side rest)

def run (party : Party State Message Event) :
    Network State Message → List (Action Event) → Option (Network State Message)
  | network, [] => some network
  | network, action :: rest => (step party network action).bind (run party · rest)

variable (party : Party State Message Event)

theorem step_act_iff (network after : Network State Message) (side : Side) (event : Event) :
    step party network (.act side event) = some after ↔
      ∃ state messages, party.act event (network.state side) = some (state, messages) ∧
        after = (network.put side state).enqueue side.other
          (network.inbox side.other ++ messages) := by
  simp only [step, Option.bind_eq_bind, Option.bind_eq_some_iff, Option.pure_def, Option.some.injEq,
    Prod.exists]
  constructor
  · rintro ⟨state, messages, acted, rfl⟩
    exact ⟨state, messages, acted, rfl⟩
  · rintro ⟨state, messages, acted, rfl⟩
    exact ⟨state, messages, acted, rfl⟩

theorem step_deliver_iff (network after : Network State Message) (side : Side) :
    step party network (.deliver side) = some after ↔
      ∃ message rest, network.inbox side = message :: rest ∧
        after = (network.put side (party.receive message (network.state side))).enqueue side
          rest := by
  simp only [step]
  cases queue : network.inbox side with
  | nil => simp
  | cons message rest =>
      simp only [Option.some.injEq, List.cons.injEq]
      constructor
      · rintro rfl
        exact ⟨message, rest, ⟨rfl, rfl⟩, rfl⟩
      · rintro ⟨_, _, ⟨rfl, rfl⟩, rfl⟩
        rfl

/-- The run rule. An invariant may speak of the history, newest action first;
    every step of the schedule has to re-establish it. -/
theorem run_keeps (keeps : List (Action Event) → Network State Message → Prop)
    (steps : ∀ history action network after, keeps history network →
      step party network action = some after → keeps (action :: history) after)
    (history actions : List (Action Event)) (network final : Network State Message)
    (start : keeps history network) (ran : run party network actions = some final) :
    keeps (actions.reverse ++ history) final := by
  induction actions generalizing history network with
  | nil =>
      obtain rfl := Option.some.inj ran
      exact start
  | cons action rest ih =>
      obtain ⟨middle, first, others⟩ := Option.bind_eq_some_iff.mp ran
      have next := ih (action :: history) middle (steps history action network middle start first)
        others
      simpa using next

/-- Every step of the schedule starts from a network that meets its guard. -/
def Meets (guard : Network State Message → Action Event → Prop)
    (network : Network State Message) : List (Action Event) → Prop
  | [] => True
  | action :: rest => guard network action ∧
      match step party network action with
      | some next => Meets guard next rest
      | none => True

instance decidableMeets (guard : Network State Message → Action Event → Prop)
    [∀ network action, Decidable (guard network action)] (network : Network State Message) :
    (actions : List (Action Event)) → Decidable (Meets party guard network actions)
  | [] => inferInstanceAs (Decidable True)
  | action :: rest =>
      let later : Decidable (match step party network action with
          | some next => Meets party guard next rest
          | none => True) :=
        match step party network action with
        | some next => decidableMeets guard next rest
        | none => inferInstanceAs (Decidable True)
      @instDecidableAnd _ _ _ later

/-- The rule for schedules that meet a guard at every step. -/
theorem meets_keeps (guard : Network State Message → Action Event → Prop)
    (keeps : Network State Message → Prop)
    (steps : ∀ network action after, keeps network → guard network action →
      step party network action = some after → keeps after)
    (actions : List (Action Event)) (network final : Network State Message)
    (start : keeps network) (met : Meets party guard network actions)
    (ran : run party network actions = some final) : keeps final := by
  induction actions generalizing network with
  | nil =>
      obtain rfl := Option.some.inj ran
      exact start
  | cons action rest ih =>
      obtain ⟨middle, first, others⟩ := Option.bind_eq_some_iff.mp ran
      obtain ⟨here, later⟩ := met
      rw [first] at later
      exact ih middle (steps network action middle start here first) later others

/-- A message that has reached a side, with the state that it found there. -/
structure Delivery (State Message : Type) where
  side : Side
  state : State
  message : Message

def delivery? (network : Network State Message) :
    Action Event → Option (Delivery State Message)
  | .act _ _ => none
  | .deliver side =>
      (network.inbox side).head?.map fun message => ⟨side, network.state side, message⟩

/-- The deliveries of a run on top of those in a log, newest first. -/
def deliveries (log : List (Delivery State Message)) (network : Network State Message) :
    List (Action Event) → List (Delivery State Message)
  | [] => log
  | action :: rest =>
      match step party network action with
      | some next => deliveries ((delivery? network action).toList ++ log) next rest
      | none => log

/-- The run rule for invariants that speak of what has been delivered. -/
theorem run_keeps_deliveries
    (keeps : List (Delivery State Message) → Network State Message → Prop)
    (acts : ∀ log network side event state messages, keeps log network →
      party.act event (network.state side) = some (state, messages) →
      keeps log ((network.put side state).enqueue side.other
        (network.inbox side.other ++ messages)))
    (delivers : ∀ log network side message rest, keeps log network →
      network.inbox side = message :: rest →
      keeps (⟨side, network.state side, message⟩ :: log)
        ((network.put side (party.receive message (network.state side))).enqueue side rest))
    (log : List (Delivery State Message)) (actions : List (Action Event))
    (network final : Network State Message) (start : keeps log network)
    (ran : run party network actions = some final) :
    keeps (deliveries party log network actions) final := by
  induction actions generalizing log network with
  | nil =>
      obtain rfl := Option.some.inj ran
      exact start
  | cons action rest ih =>
      obtain ⟨middle, first, others⟩ := Option.bind_eq_some_iff.mp ran
      simp only [deliveries, first]
      refine ih _ middle ?_ others
      cases action with
      | act side event =>
          obtain ⟨state, messages, acted, rfl⟩ :=
            (step_act_iff party network middle side event).mp first
          exact acts log network side event state messages start acted
      | deliver side =>
          obtain ⟨message, queue, waiting, rfl⟩ :=
            (step_deliver_iff party network middle side).mp first
          simp only [delivery?, waiting, List.head?_cons, Option.map_some, Option.toList_some,
            List.singleton_append]
          exact delivers log network side message queue start waiting

/-- The same party with events that stand for some of its own. -/
def Party.comap {Event' : Type} (stands : Event' → Event) : Party State Message Event' where
  act event := party.act (stands event)
  receive := party.receive

end Runs

/-! ### A register that both parties write

Every event writes the register and sends what it wrote; every delivery writes
what it carries. The last write of a side is its own or a delivery. -/

section Registers
variable {State Message Event V : Type}

structure Register (party : Party State Message Event) (V : Type) where
  live : State → Prop
  read : State → V
  carry : Message → Option V
  wrote : Event → V
  act_law : ∀ event state after messages, live state →
    party.act event state = some (after, messages) →
    live after ∧ read after = wrote event ∧ ∃ message, messages = [message] ∧
      carry message = some (wrote event)
  receive_law : ∀ message state, live state → live (party.receive message state) ∧
    ∀ value, carry message = some value → read (party.receive message state) = value

/-- What a side has written last, by its history alone (newest action first). -/
def lastWrite (wrote : Event → V) (side : Side) : List (Action Event) → Option V
  | [] => none
  | .act actor event :: earlier =>
      if actor = side then some (wrote event) else lastWrite wrote side earlier
  | .deliver _ :: earlier => lastWrite wrote side earlier

/-- The last write of a side is a delivery. -/
def heard (side : Side) : List (Action Event) → Bool
  | [] => false
  | .act actor _ :: earlier => if actor = side then false else heard side earlier
  | .deliver receiver :: earlier => if receiver = side then true else heard side earlier

variable {party : Party State Message Event}

/-- What the history tells about the registers while messages are on their way. -/
structure Consistent (register : Register party V) (start : V) (history : List (Action Event))
    (network : Network State Message) : Prop where
  live : ∀ side, register.live (network.state side)
  own : ∀ side, heard side history = false →
    register.read (network.state side) = (lastWrite register.wrote side history).getD start
  foreign : ∀ side, heard side history = true → network.inbox side = [] →
    lastWrite register.wrote side.other history = some (register.read (network.state side))
  newest : ∀ side message, (network.inbox side).getLast? = some message →
    ∃ value, register.carry message = some value ∧
      lastWrite register.wrote side.other history = some value
  told : ∀ side, lastWrite register.wrote side history ≠ none →
    (∃ side, heard side history = true) ∨ ∃ side, network.inbox side ≠ []

theorem act_consistent (register : Register party V) (start : V) (history : List (Action Event))
    (network after : Network State Message) (side : Side) (event : Event)
    (consistent : Consistent register start history network)
    (stepped : step party network (.act side event) = some after) :
    Consistent register start (.act side event :: history) after := by
  obtain ⟨state, messages, acted, rfl⟩ := (step_act_iff party network after side event).mp stepped
  obtain ⟨live, read, message, rfl, carried⟩ :=
    register.act_law event _ state messages (consistent.live side) acted
  refine ⟨?_, ?_, ?_, ?_, ?_⟩
  · intro other
    rcases eq_or_other side other with rfl | rfl
    · simpa using live
    · simpa using consistent.live side.other
  · intro other unheard
    rcases eq_or_other side other with rfl | rfl
    · simp [lastWrite, read]
    · simp only [heard, ne_other, if_false] at unheard
      simpa [lastWrite] using consistent.own side.other unheard
  · intro other known empty
    rcases eq_or_other side other with rfl | rfl
    · simp [heard] at known
    · simp at empty
  · intro other newest last
    rcases eq_or_other side other with rfl | rfl
    · simp only [put_inbox, enqueue_other_inbox] at last
      simpa [lastWrite] using consistent.newest other newest last
    · simp only [enqueue_inbox, List.getLast?_concat, Option.some.injEq] at last
      subst last
      exact ⟨register.wrote event, carried, by simp [lastWrite]⟩
  · intro _ _
    exact Or.inr ⟨side.other, by simp⟩

theorem deliver_consistent (register : Register party V) (start : V)
    (history : List (Action Event)) (network after : Network State Message) (side : Side)
    (consistent : Consistent register start history network)
    (stepped : step party network (.deliver side) = some after) :
    Consistent register start (.deliver side :: history) after := by
  obtain ⟨message, rest, queue, rfl⟩ := (step_deliver_iff party network after side).mp stepped
  obtain ⟨live, reads⟩ := register.receive_law message _ (consistent.live side)
  refine ⟨?_, ?_, ?_, ?_, ?_⟩
  · intro other
    rcases eq_or_other side other with rfl | rfl
    · simpa using live
    · simpa using consistent.live side.other
  · intro other unheard
    rcases eq_or_other side other with rfl | rfl
    · simp [heard] at unheard
    · simp only [heard, ne_other, if_false] at unheard
      simpa [lastWrite] using consistent.own side.other unheard
  · intro other known empty
    rcases eq_or_other side other with rfl | rfl
    -- The last waiting message carries what the other side wrote last.
    · simp only [enqueue_inbox] at empty
      subst empty
      obtain ⟨value, carried, wrote⟩ := consistent.newest other message (by simp [queue])
      simp [lastWrite, wrote, reads value carried]
    · simp only [heard, ne_other, if_false] at known
      simp only [enqueue_inbox_other, put_inbox, enqueue_state, put_state_other] at empty ⊢
      simpa [lastWrite] using consistent.foreign side.other known empty
  · intro other newest last
    rcases eq_or_other side other with rfl | rfl
    · simp only [enqueue_inbox] at last
      have listed : (network.inbox other).getLast? = some newest := by
        rw [queue, List.getLast?_cons, last]
        rfl
      simpa [lastWrite] using consistent.newest other newest listed
    · simp only [enqueue_inbox_other, put_inbox] at last
      simpa [lastWrite] using consistent.newest side.other newest last
  · intro _ _
    exact Or.inl ⟨side, by simp [heard]⟩

theorem begun_consistent (register : Register party V) (start : V)
    (network : Network State Message) (live : ∀ side, register.live (network.state side))
    (reads : ∀ side, register.read (network.state side) = start) (quiet : network.Quiescent) :
    Consistent register start [] network where
  live := live
  own side _ := reads side
  foreign side known := by simp [heard] at known
  newest side message last := by simp [quiet side] at last
  told side wrote := by simp [lastWrite] at wrote

theorem run_consistent (register : Register party V) (start : V)
    (actions : List (Action Event)) (network final : Network State Message)
    (begun : Consistent register start [] network)
    (ran : run party network actions = some final) :
    Consistent register start actions.reverse final := by
  have kept := run_keeps party (Consistent register start) ?_ [] actions network final begun ran
  · rwa [List.append_nil] at kept
  · intro history action network after consistent stepped
    cases action with
    | act side event =>
        exact act_consistent register start history network after side event consistent stepped
    | deliver side =>
        exact deliver_consistent register start history network after side consistent stepped

/-- Two quiet registers agree unless both have heard the other last, with
    different values. -/
theorem quiet_registers_agree (register : Register party V) (start : V)
    (history : List (Action Event)) (network : Network State Message)
    (consistent : Consistent register start history network) (quiet : network.Quiescent) :
    (register.read (network.state .first) = register.read (network.state .second) ↔
      ¬ ((∀ side, heard side history = true) ∧
        lastWrite register.wrote .first history ≠ lastWrite register.wrote .second history)) := by
  have foreignFirst := fun known => consistent.foreign .first known (quiet .first)
  have foreignSecond := fun known => consistent.foreign .second known (quiet .second)
  simp only [Side.other] at foreignFirst foreignSecond
  cases first : heard .first history with
  | true =>
      have readFirst := foreignFirst first
      cases second : heard .second history with
      | true =>
          -- Each side shows what the other wrote last.
          have both : ∀ side, heard side history = true := by
            intro side
            cases side
            · exact first
            · exact second
          rw [readFirst, foreignSecond second]
          simp only [both, implies_true, true_and, ne_eq, not_not, Option.some.injEq]
          exact eq_comm
      | false =>
          have readSecond := consistent.own .second second
          rw [readFirst] at readSecond
          refine iff_of_true (by simp [readSecond]) ?_
          exact fun crossed => absurd (crossed.1 .second) (by simp [second])
  | false =>
      have apart : ¬ ∀ side, heard side history = true :=
        fun both => absurd (both .first) (by simp [first])
      refine iff_of_true ?_ (fun crossed => apart crossed.1)
      have readFirst := consistent.own .first first
      cases second : heard .second history with
      | true =>
          rw [foreignSecond second] at readFirst
          simpa using readFirst
      | false =>
          -- With nothing heard and nothing on its way, nobody has written.
          have silent : ∀ side, lastWrite register.wrote side history = none := by
            intro side
            by_contra wrote
            rcases consistent.told side wrote with ⟨known, heardIt⟩ | ⟨other, waiting⟩
            · cases known
              · exact absurd heardIt (by simp [first])
              · exact absurd heardIt (by simp [second])
            · exact waiting (quiet other)
          rw [readFirst, consistent.own .second second, silent .first, silent .second]

/-- The registers of two quiet parties after a run from a quiet start. -/
theorem registers_agree (register : Register party V) (start : V)
    (actions : List (Action Event)) (network final : Network State Message)
    (live : ∀ side, register.live (network.state side))
    (reads : ∀ side, register.read (network.state side) = start) (quiet : network.Quiescent)
    (ran : run party network actions = some final) (quiet' : final.Quiescent) :
    (register.read (final.state .first) = register.read (final.state .second) ↔
      ¬ ((∀ side, heard side actions.reverse = true) ∧
        lastWrite register.wrote .first actions.reverse ≠
          lastWrite register.wrote .second actions.reverse)) := by
  have begun := begun_consistent register start network live reads quiet
  have ended := run_consistent register start actions network final begun ran
  exact quiet_registers_agree register start actions.reverse final ended quiet'

end Registers

/-! ### A stream of values

Some messages carry a value. Whatever the interleaving, the values that one party
has sent are those that have reached the other and those on their way to it, in
their order: none is lost, none is repeated. -/

section Streams
variable {State Message Event V : Type}

structure Stream (party : Party State Message Event) (V : Type) where
  live : State → Prop
  carry : Message → Option V
  sent : State → List V
  arrived : State → List V
  act_law : ∀ event state after messages, live state →
    party.act event state = some (after, messages) →
    live after ∧ sent after = sent state ++ messages.filterMap carry ∧
      arrived after = arrived state
  receive_law : ∀ message state, live state →
    live (party.receive message state) ∧ sent (party.receive message state) = sent state ∧
      arrived (party.receive message state) = arrived state ++ (carry message).toList

variable {party : Party State Message Event}

/-- Both parties are live and each channel holds what is between their logs. -/
def Stream.InOrder (stream : Stream party V) (network : Network State Message) : Prop :=
  ∀ side, stream.live (network.state side) ∧
    stream.sent (network.state side) =
      stream.arrived (network.state side.other) ++
        (network.inbox side.other).filterMap stream.carry

theorem act_in_order (stream : Stream party V) (network after : Network State Message)
    (side : Side) (event : Event) (order : stream.InOrder network)
    (stepped : step party network (.act side event) = some after) : stream.InOrder after := by
  obtain ⟨state, messages, acted, rfl⟩ := (step_act_iff party network after side event).mp stepped
  obtain ⟨live, sent, arrived⟩ :=
    stream.act_law event _ state messages (order side).1 acted
  intro other
  rcases eq_or_other side other with rfl | rfl
  · refine ⟨by simpa using live, ?_⟩
    simp [sent, (order other).2]
  · refine ⟨by simpa using (order side.other).1, ?_⟩
    simpa [arrived] using (order side.other).2

theorem deliver_in_order (stream : Stream party V) (network after : Network State Message)
    (side : Side) (order : stream.InOrder network)
    (stepped : step party network (.deliver side) = some after) : stream.InOrder after := by
  obtain ⟨message, rest, queue, rfl⟩ := (step_deliver_iff party network after side).mp stepped
  obtain ⟨live, sent, arrived⟩ := stream.receive_law message _ (order side).1
  intro other
  rcases eq_or_other side other with rfl | rfl
  · refine ⟨by simpa using live, ?_⟩
    simpa [sent] using (order other).2
  · refine ⟨by simpa using (order side.other).1, ?_⟩
    have between := (order side.other).2
    simp only [other_other, queue] at between
    cases carried : stream.carry message <;> simp_all

theorem run_in_order (stream : Stream party V) (actions : List (Action Event))
    (network final : Network State Message) (begun : stream.InOrder network)
    (ran : run party network actions = some final) : stream.InOrder final := by
  refine run_keeps party (fun _ => stream.InOrder) ?_ [] actions network final begun ran
  intro _ action network after order stepped
  cases action with
  | act side event => exact act_in_order stream network after side event order stepped
  | deliver side => exact deliver_in_order stream network after side order stepped

/-- The newest value that has arrived, counted from the newest that was sent. -/
theorem newest_arrived (stream : Stream party V) (network : Network State Message)
    (order : stream.InOrder network) (side : Side) (value : V)
    (newest : (stream.arrived (network.state side.other)).getLast? = some value) :
    (stream.sent (network.state side)).reverse[
      ((network.inbox side.other).filterMap stream.carry).length]? = some value := by
  rw [(order side).2, List.reverse_append, List.getElem?_append_right (by simp)]
  simpa [← List.head?_eq_getElem?] using newest

end Streams

end Library.Duplex
