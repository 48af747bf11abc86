import Mathlib.Logic.Basic
import Mathlib.Tactic.Common

/-!
Runs of a machine that takes one event after another. A guard is a condition on
the state before an event; the rules below lift what one event preserves under
its guard to runs, and decide by the guards alone whether a property holds in
every state of a run.
-/

namespace Library.Runs

universe u v w
variable {State : Type u} {Event : Type v} (step : State → Event → State)

def run (state : State) (events : List Event) : State := events.foldl step state

@[simp] theorem run_nil (state : State) : run step state [] = state := rfl

@[simp] theorem run_cons (state : State) (event : Event) (rest : List Event) :
    run step state (event :: rest) = run step (step state event) rest := rfl

/-- Of events that write a part of the state or leave it as it is, a run leaves
    the value that was written last. -/
theorem run_last_write {Value : Type w} (part : State → Value) (write : Event → Option Value)
    (events : List Event)
    (writes : ∀ event ∈ events, ∀ state, part (step state event) = (write event).getD (part state))
    (state : State) :
    part (run step state events) = (events.filterMap write).getLastD (part state) := by
  induction events generalizing state with
  | nil => rfl
  | cons event rest ih =>
      have later := ih (fun other member => writes other (List.mem_cons_of_mem event member))
      have now := writes event List.mem_cons_self state
      rw [run_cons, later, now]
      cases wrote : write event with
      | none => rw [List.filterMap_cons_none wrote, Option.getD_none]
      | some value =>
          rw [List.filterMap_cons_some wrote, List.getLastD_cons, Option.getD_some]

/-- The same of events that write so in the states of an invariant. -/
theorem kept_last_write {Value : Type w} (keeps : State → Prop)
    (steps : ∀ state event, keeps state → keeps (step state event)) (part : State → Value)
    (write : Event → Option Value)
    (writes : ∀ state event, keeps state →
      part (step state event) = (write event).getD (part state))
    (events : List Event) (state : State) (start : keeps state) :
    part (run step state events) = (events.filterMap write).getLastD (part state) := by
  induction events generalizing state with
  | nil => rfl
  | cons event rest ih =>
      rw [run_cons, ih (step state event) (steps state event start), writes state event start]
      cases wrote : write event with
      | none => rw [List.filterMap_cons_none wrote, Option.getD_none]
      | some value =>
          rw [List.filterMap_cons_some wrote, List.getLastD_cons, Option.getD_some]

/-- What the events of a run leave behind, each as the state before it decides. -/
def history {Mark : Type w} (mark : State → Event → Option Mark) : State → List Event → List Mark
  | _, [] => []
  | state, event :: rest => (mark state event).toList ++ history mark (step state event) rest

/-- A relation between states and the marks so far that every event preserves holds at
    the end of a run. -/
theorem history_keeps {Mark : Type w} (mark : State → Event → Option Mark)
    (related : State → List Mark → Prop)
    (steps : ∀ state marks event, related state marks →
      related (step state event) (marks ++ (mark state event).toList))
    (events : List Event) (state : State) (marks : List Mark) (start : related state marks) :
    related (run step state events) (marks ++ history step mark state events) := by
  induction events generalizing state marks with
  | nil => simpa [history] using start
  | cons event rest ih =>
      rw [history, ← List.append_assoc]
      exact ih (step state event) _ (steps state marks event start)

/-- Every event of the run comes in a state that meets its guard. -/
def Meets (guard : State → Event → Prop) : State → List Event → Prop
  | _, [] => True
  | state, event :: rest => guard state event ∧ Meets guard (step state event) rest

instance decidableMeets (guard : State → Event → Prop)
    [∀ state event, Decidable (guard state event)] (state : State) :
    (events : List Event) → Decidable (Meets step guard state events)
  | [] => inferInstanceAs (Decidable True)
  | event :: rest =>
      @instDecidableAnd _ _ _ (decidableMeets guard (step state event) rest)

/-- The property holds in every state of the run. -/
def Always (property : State → Prop) (state : State) (events : List Event) : Prop :=
  ∀ count, property (run step state (events.take count))

theorem always_cons (property : State → Prop) (state : State) (event : Event)
    (rest : List Event) :
    Always step property state (event :: rest) ↔
      property state ∧ Always step property (step state event) rest := by
  constructor
  · intro always
    exact ⟨always 0, fun count => always (count + 1)⟩
  · rintro ⟨start, later⟩ count
    cases count with
    | zero => exact start
    | succ count => exact later count

variable (guard : State → Event → Prop)

/-- What every event preserves under its guard, a run of such events preserves. -/
theorem meets_keeps (keeps : State → Prop)
    (steps : ∀ state event, keeps state → guard state event → keeps (step state event))
    (events : List Event) (state : State) (start : keeps state)
    (met : Meets step guard state events) : keeps (run step state events) := by
  induction events generalizing state with
  | nil => exact start
  | cons event rest ih => exact ih (step state event) (steps state event start met.1) met.2

/-- What every event preserves, every run preserves. -/
theorem run_keeps (keeps : State → Prop)
    (steps : ∀ state event, keeps state → keeps (step state event)) (events : List Event)
    (state : State) (start : keeps state) : keeps (run step state events) := by
  induction events generalizing state with
  | nil => exact start
  | cons event rest ih => exact ih (step state event) (steps state event start)

theorem meets_take (events : List Event) (state : State) (count : Nat)
    (met : Meets step guard state events) : Meets step guard state (events.take count) := by
  induction events generalizing state count with
  | nil => simpa using met
  | cons event rest ih =>
      cases count with
      | zero => trivial
      | succ count => exact ⟨met.1, ih (step state event) count met.2⟩

theorem meets_append (first rest : List Event) (state : State) :
    Meets step guard state (first ++ rest) ↔
      Meets step guard state first ∧ Meets step guard (run step state first) rest := by
  induction first generalizing state with
  | nil => simp [Meets]
  | cons event others ih => simp only [List.cons_append, Meets, ih, run_cons, and_assoc]

/-- In a run of guarded events every state has what the invariant gives. -/
theorem meets_always (property invariant : State → Prop)
    (sound : ∀ state, invariant state → property state)
    (steps : ∀ state event, invariant state → guard state event → invariant (step state event))
    (events : List Event) (state : State) (start : invariant state)
    (met : Meets step guard state events) : Always step property state events := by
  intro count
  exact sound _ (meets_keeps step guard invariant steps (events.take count) state start
    (meets_take step guard events state count met))

/-- A property holds in every state of a run exactly when every event meets its
    guard, if from a state with the invariant the guard decides the next state. -/
theorem always_iff_meets (property invariant : State → Prop)
    (sound : ∀ state, invariant state → property state)
    (steps : ∀ state event, invariant state →
      (property (step state event) ↔ guard state event) ∧
      (guard state event → invariant (step state event)))
    (events : List Event) (state : State) (start : invariant state) :
    Always step property state events ↔ Meets step guard state events := by
  induction events generalizing state with
  | nil =>
      refine iff_of_true ?_ trivial
      intro count
      simpa using sound state start
  | cons event rest ih =>
      obtain ⟨decides, keeps⟩ := steps state event start
      rw [always_cons]
      constructor
      · rintro ⟨-, later⟩
        have met := decides.mp (later 0)
        exact ⟨met, (ih (step state event) (keeps met)).mp later⟩
      · rintro ⟨met, others⟩
        exact ⟨sound state start, (ih (step state event) (keeps met)).mpr others⟩

/-- A run that an event can stop reaches its end exactly when every event meets
    its guard in the run of a model, if related states agree on each event. -/
theorem survives_iff_meets {Model : Type w} (perform : State → Event → Option State)
    (model : Model → Event → Model) (allowed : Model → Event → Prop)
    (related : State → Model → Prop)
    (steps : ∀ state abstract event, related state abstract →
      (allowed abstract event →
        ∃ next, perform state event = some next ∧ related next (model abstract event)) ∧
      (¬ allowed abstract event → perform state event = none))
    (events : List Event) (state : State) (abstract : Model) (start : related state abstract) :
    (events.foldlM perform state).isSome = true ↔ Meets model allowed abstract events := by
  induction events generalizing state abstract with
  | nil => exact iff_of_true rfl trivial
  | cons event rest ih =>
      obtain ⟨goes, stops⟩ := steps state abstract event start
      rw [List.foldlM_cons, Meets]
      by_cases met : allowed abstract event
      · obtain ⟨next, performed, kept⟩ := goes met
        rw [performed]
        exact (ih next (model abstract event) kept).trans (by simp [met])
      · rw [stops met]
        exact iff_of_false (by simp) (fun both => met both.1)

/-- Where a run reaches its end the model has gone along. -/
theorem survives_related {Model : Type w} (perform : State → Event → Option State)
    (model : Model → Event → Model) (allowed : Model → Event → Prop)
    (related : State → Model → Prop)
    (steps : ∀ state abstract event, related state abstract →
      (allowed abstract event →
        ∃ next, perform state event = some next ∧ related next (model abstract event)) ∧
      (¬ allowed abstract event → perform state event = none))
    (events : List Event) (state final : State) (abstract : Model)
    (start : related state abstract) (ran : events.foldlM perform state = some final) :
    related final (run model abstract events) := by
  induction events generalizing state abstract with
  | nil =>
      obtain rfl := Option.some.inj ran
      exact start
  | cons event rest ih =>
      obtain ⟨middle, first, others⟩ := Option.bind_eq_some_iff.mp ran
      obtain ⟨goes, stops⟩ := steps state abstract event start
      have met : allowed abstract event := by
        by_contra unmet
        rw [stops unmet] at first
        cases first
      obtain ⟨next, performed, kept⟩ := goes met
      obtain rfl := Option.some.inj (first.symm.trans performed)
      exact ih middle (model abstract event) kept others

end Library.Runs
