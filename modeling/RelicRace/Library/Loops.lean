import Mathlib.Tactic.Common

/-!
Loops whose rounds can fail. A loop over the numbers below a bound returns
exactly when every round it reaches is allowed; a loop over a list whose rounds
fail for certain items, in whatever state, returns exactly when none of these
items is in the list.
-/

namespace Library.Loops

universe u v w
variable {Failure : Type u} {State : Type v}

theorem bind_ok_iff {Result : Type v} (first : Except Failure State)
    (next : State → Except Failure Result) (result : Result) :
    (first >>= next) = .ok result ↔ ∃ state, first = .ok state ∧ next state = .ok result := by
  cases first with
  | error failure => simp [bind, Except.bind]
  | ok state => simp [bind, Except.bind]

section Counting
variable (round : State → Nat → Except Failure State)

/-- The state in which the round of a number starts. -/
def upTo (start : State) (index : Nat) : Except Failure State :=
  (List.range index).foldlM round start

theorem up_to_zero (start : State) : upTo round start 0 = .ok start := rfl

theorem up_to_succ_iff (start final : State) (index : Nat) :
    upTo round start (index + 1) = .ok final ↔
      ∃ reached, upTo round start index = .ok reached ∧ round reached index = .ok final := by
  rw [upTo, List.range_succ, List.foldlM_append, bind_ok_iff]
  refine exists_congr fun reached => and_congr_right fun _ => ?_
  rw [List.foldlM_cons, bind_ok_iff]
  simp [pure, Except.pure]

variable (keeps : State → Prop) (guard : State → Nat → Prop) (count : Nat)

/-- What every round keeps holds in every state that is reached. -/
theorem up_to_keeps
    (kept : ∀ index < count, ∀ state next, keeps state → round state index = .ok next → keeps next)
    (start : State) (first : keeps start) (index : Nat) (within : index ≤ count)
    (reached : State) (ran : upTo round start index = .ok reached) : keeps reached := by
  induction index generalizing reached with
  | zero =>
      rw [up_to_zero, Except.ok.injEq] at ran
      exact ran ▸ first
  | succ index ih =>
      obtain ⟨middle, before, last⟩ := (up_to_succ_iff round start reached index).mp ran
      exact kept index within middle reached (ih (Nat.le_of_succ_le within) middle before) last

/-- The rounds before a number are reached when the number is. -/
theorem up_to_before (start final : State) (index later : Nat) (order : index ≤ later)
    (ran : upTo round start later = .ok final) :
    ∃ reached, upTo round start index = .ok reached := by
  induction later generalizing final with
  | zero =>
      obtain rfl := Nat.le_zero.mp order
      exact ⟨final, ran⟩
  | succ later ih =>
      rcases Nat.lt_or_eq_of_le order with less | rfl
      · obtain ⟨middle, before, -⟩ := (up_to_succ_iff round start final later).mp ran
        exact ih middle (Nat.le_of_lt_succ less) before
      · exact ⟨final, ran⟩

/-- What each round carries on to the next number holds at every number. -/
theorem up_to_carries (holds : Nat → State → Prop)
    (carried : ∀ index < count, ∀ state, holds index state →
      ∃ next, round state index = .ok next ∧ holds (index + 1) next)
    (start : State) (first : holds 0 start) (index : Nat) (within : index ≤ count) :
    ∃ reached, upTo round start index = .ok reached ∧ holds index reached := by
  induction index with
  | zero => exact ⟨start, up_to_zero round start, first⟩
  | succ index ih =>
      obtain ⟨middle, before, good⟩ := ih (Nat.le_of_succ_le within)
      obtain ⟨next, went, better⟩ := carried index within middle good
      exact ⟨next, (up_to_succ_iff round start next index).mpr ⟨middle, before, went⟩, better⟩

theorem returns_iff
    (kept : ∀ index < count, ∀ state next, keeps state → round state index = .ok next → keeps next)
    (decides : ∀ index < count, ∀ state, keeps state →
      ((∃ next, round state index = .ok next) ↔ guard state index))
    (start : State) (first : keeps start) :
    (∃ final, upTo round start count = .ok final) ↔
      ∀ index < count, ∀ reached, upTo round start index = .ok reached → guard reached index := by
  constructor
  · rintro ⟨final, ran⟩ index within reached before
    have good := up_to_keeps round keeps count kept start first index (Nat.le_of_lt within)
        reached before
    obtain ⟨next, after⟩ := up_to_before round start final (index + 1) count within ran
    obtain ⟨middle, same, went⟩ := (up_to_succ_iff round start next index).mp after
    obtain rfl := Except.ok.inj (before.symm.trans same)
    exact (decides index within reached good).mp ⟨next, went⟩
  · intro allowed
    -- The induction is on the rounds that have been made.
    have progress (index : Nat) (within : index ≤ count) :
        ∃ reached, upTo round start index = .ok reached := by
      induction index with
      | zero => exact ⟨start, rfl⟩
      | succ index ih =>
          obtain ⟨reached, before⟩ := ih (Nat.le_of_succ_le within)
          have good := up_to_keeps round keeps count kept start first index
            (Nat.le_of_succ_le within) reached before
          obtain ⟨next, went⟩ :=
            (decides index within reached good).mpr (allowed index within reached before)
          exact ⟨next, (up_to_succ_iff round start next index).mpr ⟨reached, before, went⟩⟩
    exact progress count (Nat.le_refl count)

end Counting

section Listed
variable {Item : Type w} (round : State → Item → Except Failure State)
variable (keeps : State → Prop) (fine : Item → Prop)

theorem listed_keeps (items : List Item)
    (kept : ∀ item ∈ items, ∀ state next, keeps state → round state item = .ok next → keeps next)
    (start final : State) (first : keeps start) (ran : items.foldlM round start = .ok final) :
    keeps final := by
  induction items generalizing start with
  | nil => exact Except.ok.inj ran ▸ first
  | cons item rest ih =>
      rw [List.foldlM_cons, bind_ok_iff] at ran
      obtain ⟨middle, went, ran⟩ := ran
      exact ih (fun other member => kept other (List.mem_cons_of_mem item member)) middle
        (kept item List.mem_cons_self start middle first went) ran

theorem listed_returns_iff (items : List Item)
    (kept : ∀ item ∈ items, ∀ state next, keeps state → round state item = .ok next → keeps next)
    (decides : ∀ item ∈ items, ∀ state, keeps state →
      ((∃ next, round state item = .ok next) ↔ fine item))
    (start : State) (first : keeps start) :
    (∃ final, items.foldlM round start = .ok final) ↔ ∀ item ∈ items, fine item := by
  induction items generalizing start with
  | nil => exact iff_of_true ⟨start, rfl⟩ (by simp)
  | cons item rest ih =>
      have tail (middle : State) (good : keeps middle) :=
        ih (fun other member => kept other (List.mem_cons_of_mem item member))
          (fun other member => decides other (List.mem_cons_of_mem item member)) middle good
      have head := decides item List.mem_cons_self start first
      simp only [List.foldlM_cons, bind_ok_iff, List.forall_mem_cons]
      constructor
      · rintro ⟨final, middle, went, ran⟩
        have good := kept item List.mem_cons_self start middle first went
        exact ⟨head.mp ⟨middle, went⟩, (tail middle good).mp ⟨final, ran⟩⟩
      · rintro ⟨here, others⟩
        obtain ⟨middle, went⟩ := head.mpr here
        have good := kept item List.mem_cons_self start middle first went
        obtain ⟨final, ran⟩ := (tail middle good).mpr others
        exact ⟨final, middle, went, ran⟩

end Listed

theorem map_returns_iff {Item : Type w} (round : Item → Except Failure State) (items : List Item) :
    (∃ values, items.mapM round = .ok values) ↔
      ∀ item ∈ items, ∃ value, round item = .ok value := by
  induction items with
  | nil => exact iff_of_true ⟨[], rfl⟩ (by simp)
  | cons item rest ih =>
      simp only [List.mapM_cons, bind_ok_iff, List.forall_mem_cons, ← ih]
      constructor
      · rintro ⟨_, value, head, values, tail, -⟩
        exact ⟨⟨value, head⟩, values, tail⟩
      · rintro ⟨⟨value, head⟩, values, tail⟩
        exact ⟨value :: values, value, head, values, tail, rfl⟩

/-- A loop that returns has collected one value for each item. -/
theorem map_collects {Item : Type w} (round : Item → Except Failure State) (items : List Item)
    (values : List State) (ran : items.mapM round = .ok values) :
    values.length = items.length ∧ ∀ value ∈ values, ∃ item ∈ items, round item = .ok value := by
  induction items generalizing values with
  | nil =>
      obtain rfl := Except.ok.inj ran
      exact ⟨rfl, fun value member => absurd member List.not_mem_nil⟩
  | cons item rest ih =>
      rw [List.mapM_cons] at ran
      obtain ⟨first, made, ran⟩ := (bind_ok_iff _ _ _).mp ran
      obtain ⟨others, collected, ran⟩ := (bind_ok_iff _ _ _).mp ran
      obtain rfl := Except.ok.inj ran
      obtain ⟨length, made'⟩ := ih others collected
      refine ⟨congrArg Nat.succ length, fun value member => ?_⟩
      rcases List.mem_cons.mp member with rfl | later
      · exact ⟨item, List.mem_cons_self, made⟩
      · obtain ⟨other, listed, same⟩ := made' value later
        exact ⟨other, List.mem_cons_of_mem item listed, same⟩

end Library.Loops
