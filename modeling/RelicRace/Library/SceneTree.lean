import Mathlib.Data.Finset.SDiff
import Mathlib.Data.Finset.Union

/-!
The children of a node in a scene tree, as far as a program sees them: the set
of nodes that have a parent. Adding a node that has one already stops the
program, so an addition is partial; taking a node out always succeeds.
-/

namespace Library.SceneTree

universe u
variable {Node : Type u} [DecidableEq Node]

def addChild (children : Finset Node) (node : Node) : Option (Finset Node) :=
  if node ∈ children then none else some (insert node children)

def addChildren (children : Finset Node) (nodes : List Node) : Option (Finset Node) :=
  nodes.foldlM addChild children

def removeFromParent (children : Finset Node) (nodes : List Node) : Finset Node :=
  children \ nodes.toFinset

/-- Different nodes are added exactly when none of them has a parent. -/
theorem add_children_eq (nodes : List Node) (distinct : nodes.Nodup) (children : Finset Node) :
    addChildren children nodes =
      if Disjoint nodes.toFinset children then some (nodes.toFinset ∪ children) else none := by
  induction nodes generalizing children with
  | nil => simp [addChildren]
  | cons node rest ih =>
      obtain ⟨fresh, distinct⟩ := List.nodup_cons.mp distinct
      have tail := ih distinct (insert node children)
      have apart : Disjoint rest.toFinset (insert node children) ↔
          Disjoint rest.toFinset children := by
        simp [Finset.disjoint_insert_right, fresh]
      by_cases parented : node ∈ children
      · simp [addChildren, addChild, parented]
      · rw [addChildren] at tail
        simp [addChildren, addChild, parented, tail, apart, Finset.insert_union]

/-- What has been added can be taken out again. -/
theorem remove_added (children : Finset Node) (nodes : List Node)
    (apart : Disjoint nodes.toFinset children) :
    removeFromParent (nodes.toFinset ∪ children) nodes = children :=
  Finset.union_sdiff_cancel_left apart

/-- A pass over nodes that adds those to be shown and takes out the others, each
    only by its own test, ends with the shown ones of them. -/
theorem pass_shows (shown : Node → Prop) [DecidablePred shown]
    (visit : Finset Node → Node → Option (Finset Node))
    (each : ∀ children node, visit children node =
      some (if shown node then insert node children else children.erase node))
    (nodes : List Node) (children : Finset Node) :
    ∃ after, nodes.foldlM visit children = some after ∧
      ∀ node, node ∈ after ↔ if node ∈ nodes then shown node else node ∈ children := by
  induction nodes generalizing children with
  | nil => exact ⟨children, rfl, fun node => by simp⟩
  | cons first rest ih =>
      obtain ⟨after, passed, exact⟩ :=
        ih (if shown first then insert first children else children.erase first)
      refine ⟨after, ?_, fun node => ?_⟩
      · rw [List.foldlM_cons, each]
        exact passed
      · rw [exact]
        by_cases later : node ∈ rest
        · simp [later]
        · by_cases same : node = first
          · subst same
            split_ifs <;> simp_all
          · split_ifs <;> simp_all

end Library.SceneTree
