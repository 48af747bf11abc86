import Mathlib.Combinatorics.SimpleGraph.Acyclic

/-!
Forests that grow by hanging a new vertex on an old one. A vertex without an
edge is reached from nowhere, so the edge that hangs it closes no cycle.
-/

namespace Library.Forest
open SimpleGraph

universe u
variable {V : Type u} {graph : SimpleGraph V}

theorem isolated_apart (host leaf : V) (other : host ≠ leaf)
    (isolated : ∀ vertex, ¬ graph.Adj leaf vertex) : ¬ graph.Reachable host leaf := by
  rintro ⟨walk⟩
  cases walk.reverse with
  | nil => exact other rfl
  | cons edge _ => exact isolated _ edge

/-- Hanging a leaf on a forest gives a forest. -/
theorem hang_acyclic (acyclic : graph.IsAcyclic) (host leaf : V) (other : host ≠ leaf)
    (isolated : ∀ vertex, ¬ graph.Adj leaf vertex) : (graph ⊔ edge host leaf).IsAcyclic :=
  acyclic.sup_edge_of_not_reachable (isolated_apart host leaf other isolated)

/-- The same for a leaf on a leaf. -/
theorem hang_two_acyclic (acyclic : graph.IsAcyclic) (host middle leaf : V)
    (first : host ≠ middle) (second : middle ≠ leaf) (third : host ≠ leaf)
    (middleIsolated : ∀ vertex, ¬ graph.Adj middle vertex)
    (leafIsolated : ∀ vertex, ¬ graph.Adj leaf vertex) :
    (graph ⊔ edge host middle ⊔ edge middle leaf).IsAcyclic := by
  refine hang_acyclic (hang_acyclic acyclic host middle first middleIsolated) middle leaf second ?_
  intro vertex joined
  rcases joined with old | new
  · exact leafIsolated vertex old
  · rw [edge_adj] at new
    rcases new.1 with ⟨same, -⟩ | ⟨same, -⟩
    · exact third same.symm
    · exact second same.symm

theorem bare_acyclic (bare : ∀ source target, ¬ graph.Adj source target) : graph.IsAcyclic := by
  have empty : graph = ⊥ := by
    ext source target
    simp [bare]
  rw [empty]
  exact isAcyclic_bot

/-- Between two joined vertices of a forest there is one simple path. -/
theorem one_path (acyclic : graph.IsAcyclic) (source target : V)
    (joined : Relation.ReflTransGen graph.Adj source target) :
    ∃! path : graph.Walk source target, path.IsPath := by
  classical
  obtain ⟨walk⟩ := (reachable_iff_reflTransGen source target).mpr joined
  refine ⟨walk.bypass, walk.bypass_isPath, ?_⟩
  intro other simple
  have unique := acyclic.subsingleton_path source target
  exact congrArg Subtype.val (unique.elim ⟨other, simple⟩ ⟨walk.bypass, walk.bypass_isPath⟩)

end Library.Forest
