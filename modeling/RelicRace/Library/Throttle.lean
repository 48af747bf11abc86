import Mathlib.Algebra.Order.Field.Basic
import Mathlib.Data.List.Chain
import Mathlib.Tactic.Linarith

/-!
A loop that runs at every frame and acts only when the time since it last acted is
due. The samples are the frames at which it acted, newest first. Whatever the frames
are, the samples are spaced, and at the last frame the newest one is not yet due.
-/

namespace Library.Throttle

universe u v
variable {Time : Type u} {Value : Type v}

/-- When the loop acted last; `initial` before it has acted at all. -/
def lastTime (initial : Time) : List (Time × Value) → Time
  | [] => initial
  | sample :: _ => sample.1

section Samples
variable [Sub Time] (due : Time → Prop) [DecidablePred due] (initial : Time)

def sample (samples : List (Time × Value)) (frame : Time × Value) : List (Time × Value) :=
  if due (frame.1 - lastTime initial samples) then frame :: samples else samples

def samples (frames : List (Time × Value)) : List (Time × Value) :=
  frames.foldl (sample due initial) []

theorem samples_snoc (frames : List (Time × Value)) (frame : Time × Value) :
    samples due initial (frames ++ [frame]) =
      sample due initial (samples due initial frames) frame := by
  simp [samples]

/-- The loop acts only at frames, in their order. -/
theorem samples_sublist (frames : List (Time × Value)) :
    (samples due initial frames).reverse.Sublist frames := by
  induction frames using List.reverseRecOn with
  | nil => exact .slnil
  | append_singleton frames frame ih =>
      rw [samples_snoc, sample]
      split
      · rw [List.reverse_cons]
        exact ih.append (List.Sublist.refl _)
      · exact ih.trans (List.sublist_append_left frames [frame])

/-- Between one sample and the next the time is due. -/
theorem samples_spaced (frames : List (Time × Value)) :
    (samples due initial frames).IsChain fun newer older => due (newer.1 - older.1) := by
  induction frames using List.reverseRecOn with
  | nil => exact .nil
  | append_singleton frames frame ih =>
      rw [samples_snoc, sample]
      split
      · rename_i acts
        cases taken : samples due initial frames with
        | nil => exact .singleton _
        | cons newest rest =>
            rw [taken] at ih acts
            exact .cons_cons acts ih
      · exact ih

/-- At the last frame the loop has either acted or was not due. -/
theorem last_frame (frames : List (Time × Value)) (frame : Time × Value) :
    (∃ rest, samples due initial (frames ++ [frame]) = frame :: rest) ∨
      ¬ due (frame.1 - lastTime initial (samples due initial (frames ++ [frame]))) := by
  rw [samples_snoc, sample]
  split
  · exact .inl ⟨_, rfl⟩
  · rename_i waits
    exact .inr waits

end Samples

/-! ### Ages -/

section Ages
variable {K : Type u} [Field K] [LinearOrder K]
variable (due : K → Prop) [DecidablePred due] (initial interval gap : K)

/-- What is not due has waited for the interval at most. -/
def Prompt : Prop := 0 ≤ interval ∧ ∀ elapsed, ¬ due elapsed → elapsed ≤ interval

variable {due interval}

theorem newest_age (prompt : Prompt due interval) (frames : List (K × Value)) (now : K)
    (value : Value) :
    now - lastTime initial (samples due initial (frames ++ [(now, value)])) ≤ interval := by
  rcases last_frame due initial frames (now, value) with ⟨rest, acted⟩ | waits
  · rw [acted]
    simpa [lastTime] using prompt.1
  · exact prompt.2 _ waits

variable [IsStrictOrderedRing K]

/-- Frames that come at least every `gap` are sampled at least every `interval + gap`. -/
theorem samples_frequent (prompt : Prompt due interval) (frames : List (K × Value))
    (close : frames.IsChain fun frame next => next.1 - frame.1 ≤ gap) :
    (samples due initial frames).IsChain fun newer older => newer.1 - older.1 ≤ interval + gap := by
  induction frames using List.reverseRecOn with
  | nil => exact .nil
  | append_singleton frames frame ih =>
      obtain ⟨earlier, -, next⟩ := List.isChain_append.mp close
      rw [samples_snoc, sample]
      split
      · cases taken : samples due initial frames with
        | nil => exact .singleton _
        | cons newest rest =>
            refine .cons_cons ?_ (taken ▸ ih earlier)
            cases frames using List.reverseRecOn with
            | nil => simp [samples] at taken
            | append_singleton older last =>
                have age := newest_age initial prompt older last.1 last.2
                rw [taken] at age
                have step := next last (by simp) frame (by simp)
                simp only [lastTime] at age
                linarith
      · exact ih earlier

theorem chain_span {bound : K} (items : List (K × Value))
    (close : items.IsChain fun newer older => newer.1 - older.1 ≤ bound) (first : K × Value)
    (head : items.head? = some first) (index : Nat) (item : K × Value)
    (hit : items[index]? = some item) : first.1 - item.1 ≤ index * bound := by
  induction items generalizing index first with
  | nil => cases head
  | cons newest rest ih =>
      obtain rfl : newest = first := by simpa using head
      cases index with
      | zero =>
          obtain rfl : newest = item := by simpa using hit
          simp
      | succ index =>
          cases rest with
          | nil => simp at hit
          | cons next others =>
              have step := List.isChain_cons_cons.mp close
              have later := ih step.2 next rfl index (by simpa using hit)
              push_cast
              linarith [step.1]

/-- How old a sample is at the last frame, by the number of samples after it. -/
theorem sample_age (prompt : Prompt due interval) (frames : List (K × Value)) (now : K)
    (value : Value)
    (close : (frames ++ [(now, value)]).IsChain fun frame next => next.1 - frame.1 ≤ gap)
    (index : Nat) (item : K × Value)
    (hit : (samples due initial (frames ++ [(now, value)]))[index]? = some item) :
    now - item.1 ≤ interval + index * (interval + gap) := by
  have frequent := samples_frequent initial gap prompt _ close
  have age := newest_age initial prompt frames now value
  cases taken : samples due initial (frames ++ [(now, value)]) with
  | nil => simp [taken] at hit
  | cons newest rest =>
      rw [taken] at frequent age hit
      have span := chain_span _ frequent newest rfl index item hit
      simp only [lastTime] at age
      linarith

end Ages
end Library.Throttle
