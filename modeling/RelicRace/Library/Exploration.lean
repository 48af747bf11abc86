import Mathlib.Logic.Relation
import Mathlib.Data.Finset.Card
import Mathlib.Data.Finset.Filter

/-!
Stack-based exploration of an arbitrary graph, as an abstract machine. A step
either visits a fresh neighbour of the stack's top and pushes it, or pops a top
that has no fresh neighbour. Which neighbour is taken is left open, so the laws
hold for every order of choices.
-/

namespace Library.Exploration

universe u
variable {V : Type u}

structure Search (V : Type u) where
  visited : V → Prop
  stack : List V

def Search.visit (search : Search V) (next : V) : Search V :=
  ⟨fun vertex => search.visited vertex ∨ vertex = next, next :: search.stack⟩

inductive Step (adjacent : V → V → Prop) : Search V → Search V → Prop where
  | advance {search : Search V} (top : V) (rest : List V) (next : V)
      (head : search.stack = top :: rest) (edge : adjacent top next)
      (fresh : ¬ search.visited next) : Step adjacent search (search.visit next)
  | retreat {search : Search V} (top : V) (rest : List V)
      (head : search.stack = top :: rest)
      (done : ∀ next, adjacent top next → search.visited next) :
      Step adjacent search ⟨search.visited, rest⟩

def initial (root : V) : Search V := ⟨fun vertex => vertex = root, [root]⟩

/-- The frontier law: a vertex can only be left behind when all its neighbours
    are visited, and only vertices joined to the root are ever visited. -/
structure Sound (adjacent : V → V → Prop) (root : V) (search : Search V) : Prop where
  rooted : search.visited root
  stacked : ∀ vertex ∈ search.stack, search.visited vertex
  closed : ∀ vertex, search.visited vertex → vertex ∉ search.stack →
    ∀ next, adjacent vertex next → search.visited next
  reached : ∀ vertex, search.visited vertex → Relation.ReflTransGen adjacent root vertex

theorem initial_sound (adjacent : V → V → Prop) (root : V) :
    Sound adjacent root (initial root) where
  rooted := rfl
  stacked := by
    intro vertex member
    exact List.mem_singleton.mp member
  closed := by
    intro vertex seen absent
    exact absurd (List.mem_singleton.mpr seen) absent
  reached := by
    intro vertex seen
    rw [show vertex = root from seen]

theorem step_sound (adjacent : V → V → Prop) (root : V) {before after : Search V}
    (step : Step adjacent before after) (sound : Sound adjacent root before) :
    Sound adjacent root after := by
  cases step with
  | advance top rest next head edge fresh =>
      have topSeen : before.visited top := sound.stacked top (by simp [head])
      refine ⟨Or.inl sound.rooted, ?_, ?_, ?_⟩
      · intro vertex member
        rcases List.mem_cons.mp member with same | old
        · exact Or.inr same
        · exact Or.inl (sound.stacked vertex old)
      · rintro vertex (seen | same) absent other join
        · have away : vertex ∉ before.stack := fun old => absent (List.mem_cons_of_mem next old)
          exact Or.inl (sound.closed vertex seen away other join)
        · exact absurd (List.mem_cons.mpr (Or.inl same)) absent
      · rintro vertex (seen | same)
        · exact sound.reached vertex seen
        · subst same
          exact (sound.reached top topSeen).tail edge
  | retreat top rest head done =>
      refine ⟨sound.rooted, ?_, ?_, sound.reached⟩
      · intro vertex member
        exact sound.stacked vertex (by simp [head, show vertex ∈ rest from member])
      · intro vertex seen absent next join
        by_cases same : vertex = top
        · subst same
          exact done next join
        · have away : vertex ∉ before.stack := by
            rw [head]
            intro member
            rcases List.mem_cons.mp member with hit | old
            · exact same hit
            · exact absent old
          exact sound.closed vertex seen away next join

/-- An exhausted search has visited everything joined to its root. -/
theorem exhausted_complete (adjacent : V → V → Prop) (root : V) (search : Search V)
    (sound : Sound adjacent root search) (exhausted : search.stack = []) (vertex : V)
    (joined : Relation.ReflTransGen adjacent root vertex) : search.visited vertex := by
  induction joined with
  | refl => exact sound.rooted
  | tail _ edge ih => exact sound.closed _ ih (by simp [exhausted]) _ edge

open Classical in
/-- Steps a search can still make: two for every vertex not yet visited (one to
    push it and one to pop it) and one for every vertex on the stack. -/
noncomputable def budget (vertices : Finset V) (search : Search V) : Nat :=
  2 * (vertices.filter fun vertex => ¬ search.visited vertex).card + search.stack.length

open Classical in
theorem step_budget (adjacent : V → V → Prop) (vertices : Finset V)
    (inventory : ∀ source target, adjacent source target → target ∈ vertices)
    {before after : Search V} (step : Step adjacent before after) :
    budget vertices after < budget vertices before := by
  cases step with
  | advance top rest next head edge fresh =>
      have shrink : (vertices.filter fun vertex => ¬ (before.visit next).visited vertex) ⊂
          vertices.filter fun vertex => ¬ before.visited vertex := by
        refine Finset.ssubset_iff_subset_ne.mpr ⟨?_, ?_⟩
        · intro vertex member
          obtain ⟨listed, unseen⟩ := Finset.mem_filter.mp member
          exact Finset.mem_filter.mpr ⟨listed, fun seen => unseen (Or.inl seen)⟩
        · intro same
          have member : next ∈ vertices.filter fun vertex => ¬ before.visited vertex :=
            Finset.mem_filter.mpr ⟨inventory top next edge, fresh⟩
          rw [← same] at member
          exact (Finset.mem_filter.mp member).2 (Or.inr rfl)
      have fewer := Finset.card_lt_card shrink
      simp only [budget, Search.visit, List.length_cons] at fewer ⊢
      omega
  | retreat top rest head done =>
      simp only [budget, head, List.length_cons]
      omega

end Library.Exploration
