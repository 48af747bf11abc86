import Mathlib.Data.List.Chain
import Mathlib.Data.List.Nodup
import Mathlib.Tactic.Common

/-!
A patrol through a graph: two arms that leave one start along its edges without
visiting a vertex twice, each walked to its end and back. Where the edges lead
both ways the route is a closed walk, so that it can be repeated forever.
-/

namespace Library.Patrol

universe u
variable {V : Type u}

/-- A walk from the start that visits no vertex twice. -/
structure Arm (adjacent : V → List V) (start : V) (path : List V) : Prop where
  head : path.head? = some start
  linked : path.IsChain fun here next => next ∈ adjacent here
  unique : path.Nodup

section Arms
variable {adjacent : V → List V} {start : V} {path : List V}

theorem arm_single (adjacent : V → List V) (start : V) : Arm adjacent start [start] where
  head := rfl
  linked := List.isChain_singleton start
  unique := List.nodup_singleton start

theorem arm_filled (arm : Arm adjacent start path) : path ≠ [] := by
  rintro rfl
  cases arm.head

theorem arm_extend (arm : Arm adjacent start path) (next : V)
    (edge : next ∈ adjacent (path.getLast (arm_filled arm))) (fresh : next ∉ path) :
    Arm adjacent start (path ++ [next]) where
  head := by rw [List.head?_append_of_ne_nil path (arm_filled arm), arm.head]
  linked := by
    refine arm.linked.append (List.isChain_singleton next) ?_
    intro last isLast first isFirst
    rw [List.getLast?_eq_some_getLast (arm_filled arm), Option.mem_some_iff] at isLast
    rw [List.head?_singleton, Option.mem_some_iff] at isFirst
    rw [← isLast, ← isFirst]
    exact edge
  unique := List.nodup_append.mpr ⟨arm.unique, List.nodup_singleton next, by
    rintro vertex member _ same rfl
    exact fresh (List.mem_singleton.mp same ▸ member)⟩

/-- What holds of the start and follows every edge holds along the arm. -/
theorem arm_members (keeps : V → Prop)
    (closed : ∀ here, keeps here → ∀ next ∈ adjacent here, keeps next)
    (arm : Arm adjacent start path) (first : keeps start) : ∀ vertex ∈ path, keeps vertex := by
  refine List.IsChain.induction keeps path arm.linked ?_ ?_
  · exact fun here next edge good => closed here good next edge
  · intro some'
    have head := arm.head
    rw [List.head?_eq_some_head some', Option.some.injEq] at head
    exact head ▸ first

end Arms

/-! ### A walk drawn step by step -/

section Roaming
variable [DecidableEq V] (adjacent : V → List V) (start : V) (choose : Nat → Nat)

/-- The item that a choice picks of a list. -/
def pick (items : List V) (choice : Nat) : Option V := items[choice % items.length]?

/-- The neighbours of the end of a path that it has not visited. -/
def fresh (path : List V) : List V :=
  match path.getLast? with
  | some here => (adjacent here).filter fun next => next ∉ path
  | none => []

/-- The path after a number of steps; without a fresh neighbour it stays. -/
def roam : Nat → List V
  | 0 => [start]
  | steps + 1 => roam steps ++ (pick (fresh adjacent (roam steps)) (choose steps)).toList

/-- The walk gets so far and has nowhere to go on to. -/
def Cornered (steps : Nat) : Prop :=
  (roam adjacent start choose steps).length = steps + 1 ∧
    fresh adjacent (roam adjacent start choose steps) = []

omit [DecidableEq V] in
theorem pick_none_iff (items : List V) (choice : Nat) : pick items choice = none ↔ items = [] := by
  rw [pick, List.getElem?_eq_none_iff]
  constructor
  · intro beyond
    by_contra filled
    exact absurd (Nat.mod_lt choice (List.length_pos_iff.mpr filled)) (by omega)
  · rintro rfl
    exact Nat.zero_le _

omit [DecidableEq V] in
theorem pick_mem {items : List V} {choice : Nat} {item : V}
    (picked : pick items choice = some item) :
    item ∈ items := List.mem_of_getElem? picked

omit [DecidableEq V] in
/-- Two choices from different items pick one item exactly when they fall on
    one index. -/
theorem pick_same_iff {items : List V} (unique : items.Nodup) (filled : items ≠ [])
    (first second : Nat) : pick items first = pick items second ↔
      first % items.length = second % items.length := by
  have positive := List.length_pos_iff.mpr filled
  have within := Nat.mod_lt first positive
  have within' := Nat.mod_lt second positive
  rw [pick, pick, List.getElem?_eq_getElem within, List.getElem?_eq_getElem within',
    Option.some.injEq]
  exact unique.getElem_inj_iff

theorem roam_length_le (steps : Nat) :
    (roam adjacent start choose steps).length ≤ steps + 1 := by
  induction steps with
  | zero => exact Nat.le_refl 1
  | succ steps ih =>
      rw [roam, List.length_append]
      have one := Option.length_toList_le (o := pick (fresh adjacent
        (roam adjacent start choose steps)) (choose steps))
      omega

/-- A walk gets one step further exactly when it is not cornered before. -/
theorem roam_further_iff (steps : Nat) :
    (roam adjacent start choose (steps + 1)).length = steps + 2 ↔
      (roam adjacent start choose steps).length = steps + 1 ∧
        fresh adjacent (roam adjacent start choose steps) ≠ [] := by
  have bound := roam_length_le adjacent start choose steps
  rw [roam, List.length_append, Ne, ← pick_none_iff _ (choose steps)]
  cases pick (fresh adjacent (roam adjacent start choose steps)) (choose steps) with
  | none =>
      simp only [Option.toList_none, List.length_nil, not_true_eq_false, and_false, iff_false]
      omega
  | some next =>
      simp only [Option.toList_some, List.length_singleton, reduceCtorEq, not_false_eq_true,
        and_true]
      omega

/-- A walk is cornered once: before it has gone on, and after it stays behind. -/
theorem cornered_full {steps further : Nat} (cornered : Cornered adjacent start choose steps)
    (full : (roam adjacent start choose further).length = further + 1) : further ≤ steps := by
  induction further with
  | zero => exact Nat.zero_le _
  | succ further ih =>
      obtain ⟨before, goes⟩ := (roam_further_iff adjacent start choose further).mp full
      rcases Nat.lt_or_eq_of_le (ih before) with less | rfl
      · exact less
      · exact absurd cornered.2 goes

/-- The later path begins with the earlier one. -/
theorem roam_prefix {earlier later : Nat} (order : earlier ≤ later) :
    roam adjacent start choose earlier <+: roam adjacent start choose later := by
  induction later, order using Nat.le_induction with
  | base => exact List.prefix_rfl
  | succ later order ih => exact ih.trans (List.prefix_append _ _)

theorem roam_last (steps : Nat) :
    ∃ here, (roam adjacent start choose steps).getLast? = some here := by
  cases found : (roam adjacent start choose steps).getLast? with
  | some here => exact ⟨here, rfl⟩
  | none =>
      have first := roam_prefix adjacent start choose (Nat.zero_le steps)
      rw [List.getLast?_eq_none_iff.mp found, roam, List.prefix_nil] at first
      cases first

/-- Every vertex of an arm is a fresh neighbour of the arm before it. -/
theorem arm_step_fresh {path : List V} (arm : Arm adjacent start path) (steps : Nat)
    (within : steps + 1 < path.length) :
    path[steps + 1] ∈ fresh adjacent (path.take (steps + 1)) := by
  have last : (path.take (steps + 1)).getLast? = some path[steps] := by
    rw [List.getLast?_take, if_neg (Nat.succ_ne_zero steps), Nat.add_sub_cancel,
      List.getElem?_eq_getElem (Nat.lt_of_succ_lt within), Option.some_or]
  have new : path[steps + 1] ∉ path.take (steps + 1) := by
    intro old
    obtain ⟨index, before, same⟩ := List.mem_take_iff_getElem.mp old
    have equal := (arm.unique.getElem_inj_iff).mp same
    omega
  rw [fresh, last, List.mem_filter, decide_eq_true_eq]
  exact ⟨List.isChain_iff_getElem.mp arm.linked steps (by omega), new⟩

/-- Every arm is drawn by some choices. -/
theorem roam_draws {path : List V} (arm : Arm adjacent start path) :
    ∃ choose, ∀ steps, path.length ≤ steps + 1 → path <+: roam adjacent start choose steps := by
  let choose (steps : Nat) : Nat := (path[steps + 1]?).elim 0 fun next =>
    (fresh adjacent (path.take (steps + 1))).idxOf next
  -- The induction is on the steps: as long as the arm goes on, its next vertex is drawn.
  have drawn (steps : Nat) (within : steps < path.length) :
      roam adjacent start choose steps = path.take (steps + 1) := by
    induction steps with
    | zero =>
        have head := arm.head
        rw [List.head?_eq_getElem?, List.getElem?_eq_getElem within, Option.some.injEq] at head
        rw [roam, List.take_succ_eq_append_getElem within, head]
        rfl
    | succ steps ih =>
        have member := arm_step_fresh adjacent start arm steps within
        have index := List.idxOf_lt_length_of_mem member
        have picked : pick (fresh adjacent (path.take (steps + 1))) (choose steps) =
            some path[steps + 1] := by
          simp only [pick, choose, List.getElem?_eq_getElem within, Option.elim_some]
          rw [Nat.mod_eq_of_lt index, List.getElem?_eq_getElem index, List.getElem_idxOf]
        rw [roam, ih (Nat.lt_of_succ_lt within), picked, Option.toList_some,
          List.take_succ_eq_append_getElem within]
  refine ⟨choose, fun steps enough => ?_⟩
  have positive := List.length_pos_iff.mpr (arm_filled arm)
  have whole := drawn (path.length - 1) (by omega)
  rw [show path.length - 1 + 1 = path.length by omega, List.take_length] at whole
  have order : path.length - 1 ≤ steps := by omega
  have first := roam_prefix adjacent start choose order
  rwa [whole] at first

/-- A cornered walk has gone as far as any walk of its choices. -/
theorem cornered_prefix {path : List V} {last : Nat}
    (cornered : Cornered adjacent start choose last)
    (drawn : ∀ steps, path.length ≤ steps + 1 → path <+: roam adjacent start choose steps) :
    path <+: roam adjacent start choose last := by
  rcases Nat.lt_or_ge (last + 1) path.length with beyond | within
  · -- A longer path would be a full walk that is cornered on its way.
    have bound := roam_length_le adjacent start choose (path.length - 1)
    have least := (drawn (path.length - 1) (by omega)).length_le
    have full : (roam adjacent start choose (path.length - 1)).length = path.length - 1 + 1 := by
      omega
    have order := cornered_full adjacent start choose cornered full
    omega
  · exact drawn last within

section Picked
variable {adjacent start choose} {next : V}

/-- The vertex that a choice picks is the end of the longer path. -/
theorem roam_picked {steps : Nat}
    (picked : pick (fresh adjacent (roam adjacent start choose steps)) (choose steps) =
      some next) :
    roam adjacent start choose (steps + 1) = roam adjacent start choose steps ++ [next] := by
  rw [roam, picked, Option.toList_some]

/-- The first step of every longer walk is the one that was picked first. -/
theorem roam_first_step {steps : Nat} (later : 1 ≤ steps)
    (picked : pick (fresh adjacent [start]) (choose 0) = some next) :
    (roam adjacent start choose steps)[1]? = some next := by
  obtain ⟨rest, same⟩ := roam_prefix adjacent start choose later
  have one : roam adjacent start choose 1 = [start] ++ [next] := roam_picked picked
  rw [← same, one]
  rfl

end Picked
end Roaming

/-! ### The round trip over two arms -/

def roundTrip (path1 path2 : List V) : List V :=
  path1 ++ path1.reverse ++ path2 ++ path2.reverse

theorem mem_round_trip (path1 path2 : List V) (vertex : V) :
    vertex ∈ roundTrip path1 path2 ↔ vertex ∈ path1 ∨ vertex ∈ path2 := by
  simp only [roundTrip, List.mem_append, List.mem_reverse]
  tauto

/-- Staying, or going along an edge. -/
def Move (adjacent : V → List V) (here next : V) : Prop :=
  here = next ∨ next ∈ adjacent here

section Closed
variable {adjacent : V → List V} {start : V} {path path1 path2 : List V}

theorem there_and_back (both : ∀ here next, next ∈ adjacent here → here ∈ adjacent next)
    (arm : Arm adjacent start path) :
    (path ++ path.reverse).IsChain (Move adjacent) ∧ (path ++ path.reverse).head? = some start ∧
      (path ++ path.reverse).getLast? = some start := by
  refine ⟨List.IsChain.append ?_ ?_ ?_, ?_, ?_⟩
  · exact arm.linked.imp fun here next edge => Or.inr edge
  · rw [List.isChain_reverse]
    exact arm.linked.imp fun here next edge => Or.inr (both here next edge)
  -- The turn at the end of the arm stays for one move.
  · intro last isLast first isFirst
    rw [List.head?_reverse] at isFirst
    exact Or.inl (Option.mem_unique isLast isFirst)
  · rw [List.head?_append_of_ne_nil path (arm_filled arm), arm.head]
  · rw [List.getLast?_append, List.getLast?_reverse, arm.head, Option.some_or]

theorem round_trip_closed (both : ∀ here next, next ∈ adjacent here → here ∈ adjacent next)
    (arm1 : Arm adjacent start path1) (arm2 : Arm adjacent start path2) :
    (roundTrip path1 path2).IsChain (Move adjacent) ∧
      (roundTrip path1 path2).head? = some start ∧
      (roundTrip path1 path2).getLast? = some start := by
  obtain ⟨chain1, head1, last1⟩ := there_and_back both arm1
  obtain ⟨chain2, head2, last2⟩ := there_and_back both arm2
  have split : roundTrip path1 path2 = (path1 ++ path1.reverse) ++ (path2 ++ path2.reverse) := by
    rw [roundTrip, List.append_assoc (path1 ++ path1.reverse)]
  rw [split]
  refine ⟨chain1.append chain2 ?_, ?_, ?_⟩
  · intro last isLast first isFirst
    rw [last1, Option.mem_some_iff] at isLast
    rw [head2, Option.mem_some_iff] at isFirst
    exact Or.inl (isLast.symm.trans isFirst)
  · rw [List.head?_append, head1, Option.some_or]
  · rw [List.getLast?_append, last2, Option.some_or]

end Closed

/-! ### A route that is repeated -/

/-- The vertex after a number of moves of the repeated route. -/
def forever (route : List V) (moves : Nat) : Option V := route[moves % route.length]?

theorem forever_map {W : Type u} (place : V → W) (route : List V) (moves : Nat) :
    forever (route.map place) moves = (forever route moves).map place := by
  rw [forever, forever, List.length_map, List.getElem?_map]

/-- A closed route is followed by its relation at every number of moves. -/
theorem forever_steps {relation : V → V → Prop} {route : List V} (filled : route ≠ [])
    (chain : route.IsChain relation)
    (closes : ∀ last ∈ route.getLast?, ∀ first ∈ route.head?, relation last first) (moves : Nat) :
    ∃ here next, forever route moves = some here ∧ forever route (moves + 1) = some next ∧
      relation here next := by
  have positive := List.length_pos_iff.mpr filled
  have within := Nat.mod_lt moves positive
  have successor : (moves + 1) % route.length = (moves % route.length + 1) % route.length :=
    (Nat.mod_add_mod moves route.length 1).symm
  rw [forever, forever, successor, List.getElem?_eq_getElem within]
  by_cases inner : moves % route.length + 1 < route.length
  · rw [Nat.mod_eq_of_lt inner, List.getElem?_eq_getElem inner]
    exact ⟨_, _, rfl, rfl, List.isChain_iff_getElem.mp chain _ inner⟩
  -- After the last vertex the route begins again.
  · have last : moves % route.length + 1 = route.length := by omega
    rw [last, Nat.mod_self, List.getElem?_eq_getElem positive]
    refine ⟨_, _, rfl, rfl, closes _ ?_ _ ?_⟩
    · rw [List.getLast?_eq_getElem?, Nat.sub_eq_of_eq_add last.symm,
        List.getElem?_eq_getElem within]
      rfl
    · rw [List.head?_eq_getElem?, List.getElem?_eq_getElem positive]
      rfl

end Library.Patrol
