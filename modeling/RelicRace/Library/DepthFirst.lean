import Mathlib.Data.List.Chain
import RelicRace.Library.Exploration

/-!
The trees that an exploration grows. Every edge of the graph joins a vertex of the
tree to one on its way to the root, because a vertex is left behind only when all its
neighbours are visited. An exploration that goes along the edges of such a tree first
visits nothing else, so these are exactly the trees that explorations grow.
-/

namespace Library.DepthFirst
open Exploration

universe u
variable {V : Type u}

/-- A way to the root without repetitions, listed as a stack is. -/
structure Route (joined : V → V → Prop) (root : V) (route : List V) : Prop where
  linked : route.IsChain joined
  ends : route.getLast? = some root
  nodup : route.Nodup

/-- The lower vertex has the upper one on its way to the root. -/
def Below (joined : V → V → Prop) (root upper lower : V) : Prop :=
  ∃ route, Route joined root (lower :: route) ∧ upper ∈ route

structure Tree (joined : V → V → Prop) (root : V) (vertices : V → Prop) : Prop where
  symm : ∀ source target, joined source target → joined target source
  inside : ∀ source target, joined source target → vertices source ∧ vertices target
  reached : ∀ vertex, vertices vertex → ∃ route, Route joined root (vertex :: route)
  unique : ∀ vertex first second, Route joined root (vertex :: first) →
    Route joined root (vertex :: second) → first = second

structure DepthFirstTree (adjacent joined : V → V → Prop) (root : V) (vertices : V → Prop) : Prop
    extends Tree joined root vertices where
  edges : ∀ source target, joined source target → adjacent source target
  compared : ∀ source target, adjacent source target → vertices source → vertices target →
    Below joined root source target ∨ Below joined root target source

/-! ### Routes -/

section Routes
variable {joined joined' : V → V → Prop} {root : V}

theorem route_single (joined : V → V → Prop) (root : V) : Route joined root [root] :=
  ⟨List.isChain_singleton root, rfl, List.nodup_singleton root⟩

theorem Route.mono {route : List V} (given : Route joined root route)
    (wider : ∀ source target, joined source target → joined' source target) :
    Route joined' root route :=
  ⟨given.linked.imp wider, given.ends, given.nodup⟩

theorem Route.suffix (before : List V) {after : List V} {vertex : V}
    (given : Route joined root (before ++ vertex :: after)) : Route joined root (vertex :: after) :=
  ⟨given.linked.right_of_append, by simpa using given.ends, given.nodup.of_append_right⟩

theorem Route.extend {top next : V} {rest : List V} (given : Route joined root (top :: rest))
    (edge : joined next top) (fresh : next ∉ top :: rest) :
    Route joined root (next :: top :: rest) :=
  ⟨List.isChain_cons_cons.mpr ⟨edge, given.linked⟩, by simpa using given.ends,
    List.nodup_cons.mpr ⟨fresh, given.nodup⟩⟩

/-- Before the last vertex there is an edge onward. -/
theorem Route.onward (before : List V) {after : List V} {vertex : V}
    (given : Route joined root (before ++ vertex :: after)) (other : vertex ≠ root) :
    ∃ next rest, after = next :: rest ∧ joined vertex next := by
  cases after with
  | nil =>
      have ends := (given.suffix before).ends
      rw [List.getLast?_singleton, Option.some.injEq] at ends
      exact absurd ends other
  | cons next rest =>
      exact ⟨next, rest, rfl, (List.isChain_cons_cons.mp (given.suffix before).linked).1⟩

/-- A stack that is not empty is a route, and stays one when its top is popped. -/
theorem stack_route {stack rest : List V} {top : V}
    (stacked : stack = [] ∨ Route joined root stack) (head : stack = top :: rest) :
    Route joined root (top :: rest) := by
  rcases stacked with empty | given
  · rw [head] at empty
    cases empty
  · exact head ▸ given

theorem popped_route {top : V} {rest : List V} (given : Route joined root (top :: rest)) :
    rest = [] ∨ Route joined root rest := by
  cases rest with
  | nil => exact Or.inl rfl
  | cons next others => exact Or.inr (given.suffix [top])

end Routes

/-! ### A tree that gets one more vertex -/

section Grown
variable {joined joined' : V → V → Prop} {root top next : V} {vertices : V → Prop}

/-- The edges after a visit. -/
def Grown (joined joined' : V → V → Prop) (top next : V) : Prop :=
  ∀ source target, joined' source target ↔ joined source target ∨
    (source = top ∧ target = next) ∨ (source = next ∧ target = top)

theorem Grown.wider (grown : Grown joined joined' top next) :
    ∀ source target, joined source target → joined' source target :=
  fun source target edge => (grown source target).mpr (Or.inl edge)

theorem old_route (grown : Grown joined joined' top next) {route : List V}
    (given : Route joined' root route) (avoids : next ∉ route) : Route joined root route := by
  refine ⟨given.linked.imp_of_mem_imp fun source target member member' edge => ?_, given.ends,
    given.nodup⟩
  rcases (grown source target).mp edge with old | ⟨-, rfl⟩ | ⟨rfl, -⟩
  · exact old
  · exact absurd member' avoids
  · exact absurd member avoids

variable (tree : Tree joined root vertices) (grown : Grown joined joined' top next)
include tree grown

/-- The new vertex has one edge, so a route can only begin with it. -/
theorem new_route (apart : top ≠ next) (rooted : vertices root) (fresh : ¬ vertices next)
    {route : List V} (given : Route joined' root route) (member : next ∈ route) :
    ∃ rest, route = next :: top :: rest := by
  obtain ⟨before, after, rfl⟩ := List.append_of_mem member
  have onlyTop (vertex : V) (edge : joined' next vertex) : vertex = top := by
    rcases (grown next vertex).mp edge with old | ⟨same, -⟩ | ⟨-, same⟩
    · exact absurd (tree.inside next vertex old).1 fresh
    · exact absurd same.symm apart
    · exact same
  have notRoot : next ≠ root := fun same => fresh (same ▸ rooted)
  obtain ⟨vertex, rest, rfl, edge⟩ := given.onward before notRoot
  obtain rfl := onlyTop vertex edge
  rcases List.eq_nil_or_concat before with rfl | ⟨earlier, last, rfl⟩
  · exact ⟨rest, rfl⟩
  · -- The vertex before the new one would be the top again.
    have linked := given.linked
    rw [List.concat_eq_append, List.append_assoc] at linked
    have back := (List.isChain_cons_cons.mp linked.right_of_append).1
    have back' : joined' next last := by
      rcases (grown last next).mp back with old | ⟨same, -⟩ | ⟨same, same'⟩
      · exact absurd (tree.inside last next old).2 fresh
      · exact (grown next last).mpr (Or.inr (Or.inr ⟨rfl, same⟩))
      · exact absurd same'.symm apart
    have repeated := given.nodup
    rw [onlyTop last back', List.concat_eq_append, List.append_assoc] at repeated
    have twice := (List.nodup_cons.mp repeated.of_append_right).1
    exact absurd (List.mem_cons_of_mem next List.mem_cons_self) twice

/-- Hanging a new vertex on the tree gives a tree. -/
theorem grown_tree (apart : top ≠ next) (rooted : vertices root) (inTree : vertices top)
    (fresh : ¬ vertices next) {rest : List V} (stack : Route joined root (top :: rest))
    (seen : ∀ vertex ∈ top :: rest, vertices vertex) :
    Tree joined' root (fun vertex => vertices vertex ∨ vertex = next) where
  symm source target edge := by
    rcases (grown source target).mp edge with old | ⟨rfl, rfl⟩ | ⟨rfl, rfl⟩
    · exact grown.wider _ _ (tree.symm _ _ old)
    · exact (grown _ _).mpr (Or.inr (Or.inr ⟨rfl, rfl⟩))
    · exact (grown _ _).mpr (Or.inr (Or.inl ⟨rfl, rfl⟩))
  inside source target edge := by
    rcases (grown source target).mp edge with old | ⟨rfl, rfl⟩ | ⟨rfl, rfl⟩
    · exact ⟨Or.inl (tree.inside _ _ old).1, Or.inl (tree.inside _ _ old).2⟩
    · exact ⟨Or.inl inTree, Or.inr rfl⟩
    · exact ⟨Or.inr rfl, Or.inl inTree⟩
  reached vertex found := by
    rcases found with old | rfl
    · obtain ⟨route, given⟩ := tree.reached vertex old
      exact ⟨route, given.mono grown.wider⟩
    · exact ⟨top :: rest, (stack.mono grown.wider).extend
        ((grown _ _).mpr (Or.inr (Or.inr ⟨rfl, rfl⟩))) fun member => fresh (seen _ member)⟩
  unique vertex first second one two := by
    have begins (route : List V) (given : Route joined' root (vertex :: route))
        (member : next ∈ vertex :: route) : vertex = next ∧ ∃ others, route = top :: others := by
      obtain ⟨others, same⟩ := new_route tree grown apart rooted fresh given member
      exact ⟨(List.cons.inj same).1, others, (List.cons.inj same).2⟩
    by_cases new : vertex = next
    · subst new
      obtain ⟨-, others, rfl⟩ := begins first one List.mem_cons_self
      obtain ⟨-, others', rfl⟩ := begins second two List.mem_cons_self
      have tail (others : List V) (given : Route joined' root (vertex :: top :: others)) :
          Route joined root (top :: others) :=
        old_route grown (given.suffix [vertex])
          (List.nodup_cons.mp given.nodup).1
      rw [tree.unique top others others' (tail others one) (tail others' two)]
    · have old (route : List V) (given : Route joined' root (vertex :: route)) :
          Route joined root (vertex :: route) :=
        old_route grown given fun member => new (begins route given member).1
      exact tree.unique vertex first second (old first one) (old second two)

end Grown

/-! ### What an exploration grows -/

section Growing
variable {adjacent joined : V → V → Prop} {root : V} {search : Search V}

/-- The edges gone along so far are a depth-first tree of what is visited, and the stack
    is the way from its top to the root. -/
structure Growing (adjacent joined : V → V → Prop) (root : V) (search : Search V) : Prop where
  sound : Sound adjacent root search
  tree : DepthFirstTree adjacent joined root search.visited
  stacked : search.stack = [] ∨ Route joined root search.stack

variable (symm : ∀ source target, adjacent source target → adjacent target source)
variable (irrefl : ∀ vertex, ¬ adjacent vertex vertex)

include irrefl in
theorem growing_initial (bare : ∀ source target, ¬ joined source target) :
    Growing adjacent joined root (initial root) where
  sound := initial_sound adjacent root
  tree := by
    refine ⟨⟨fun source target edge => absurd edge (bare source target),
      fun source target edge => absurd edge (bare source target), ?_, ?_⟩,
      fun source target edge => absurd edge (bare source target), ?_⟩
    · rintro vertex rfl
      exact ⟨[], route_single joined vertex⟩
    · intro vertex first second one two
      have nothing (route : List V) (given : Route joined root (vertex :: route)) :
          route = [] := by
        cases route with
        | nil => rfl
        | cons next rest => exact absurd (List.isChain_cons_cons.mp given.linked).1 (bare _ _)
      rw [nothing first one, nothing second two]
    · rintro source target edge rfl rfl
      exact absurd edge (irrefl _)
  stacked := Or.inr (route_single joined root)

include symm irrefl in
/-- A visited neighbour of a fresh vertex is on the stack, and so above it. -/
theorem growing_visit (growing : Growing adjacent joined root search) {top next : V}
    {rest : List V} (head : search.stack = top :: rest) (edge : adjacent top next)
    (fresh : ¬ search.visited next) {joined' : V → V → Prop}
    (grown : Grown joined joined' top next) :
    Growing adjacent joined' root (search.visit next) := by
  have stack := stack_route growing.stacked head
  have seen : ∀ vertex ∈ top :: rest, search.visited vertex :=
    fun vertex member => growing.sound.stacked vertex (head ▸ member)
  have apart : top ≠ next := fun same => irrefl next (same ▸ edge)
  have stack' : Route joined' root (next :: top :: rest) := (stack.mono grown.wider).extend
    ((grown _ _).mpr (Or.inr (Or.inr ⟨rfl, rfl⟩))) fun member => fresh (seen _ member)
  have above (vertex : V) (old : search.visited vertex) (near : adjacent vertex next) :
      Below joined' root vertex next := by
    refine ⟨top :: rest, stack', ?_⟩
    by_contra absent
    exact fresh (growing.sound.closed vertex old (head ▸ absent) next near)
  refine ⟨step_sound adjacent root (.advance top rest next head edge fresh) growing.sound,
    ⟨grown_tree growing.tree.toTree grown apart growing.sound.rooted
      (seen top List.mem_cons_self) fresh stack seen, ?_, ?_⟩, Or.inr ?_⟩
  · intro source target wired
    rcases (grown source target).mp wired with old | ⟨rfl, rfl⟩ | ⟨rfl, rfl⟩
    · exact growing.tree.edges source target old
    · exact edge
    · exact symm _ _ edge
  · rintro source target near (old | rfl) (old' | rfl)
    · have kept (upper lower : V) (below : Below joined root upper lower) :
          Below joined' root upper lower := by
        obtain ⟨route, given, member⟩ := below
        exact ⟨route, given.mono grown.wider, member⟩
      exact (growing.tree.compared source target near old old').imp (kept _ _) (kept _ _)
    · exact Or.inl (above source old near)
    · exact Or.inr (above target old' (symm _ _ near))
    · exact absurd near (irrefl _)
  · rw [Search.visit, head]
    exact stack'

theorem growing_retreat (growing : Growing adjacent joined root search) {top : V}
    {rest : List V} (head : search.stack = top :: rest)
    (done : ∀ next, adjacent top next → search.visited next) :
    Growing adjacent joined root ⟨search.visited, rest⟩ := by
  exact ⟨step_sound adjacent root (.retreat top rest head done) growing.sound, growing.tree,
    popped_route (stack_route growing.stacked head)⟩

end Growing

/-! ### An exploration along a given tree -/

section Guided
variable {adjacent target : V → V → Prop} {root : V} {vertices : V → Prop} {search : Search V}

/-- The stack is a way of the tree, and what is left behind has been left with all its
    neighbours in the tree visited. -/
structure Guided (target : V → V → Prop) (root : V) (search : Search V) : Prop where
  stacked : search.stack = [] ∨ Route target root search.stack
  closed : ∀ vertex, search.visited vertex → vertex ∉ search.stack →
    ∀ next, target vertex next → search.visited next

theorem guided_initial (target : V → V → Prop) (root : V) : Guided target root (initial root) where
  stacked := Or.inr (route_single target root)
  closed _ seen absent := absurd (List.mem_singleton.mpr seen) absent

theorem guided_retreat (guided : Guided target root search) {top : V} {rest : List V}
    (head : search.stack = top :: rest) (full : ∀ next, target top next → search.visited next) :
    Guided target root ⟨search.visited, rest⟩ := by
  refine ⟨popped_route (stack_route guided.stacked head), fun vertex seen absent next edge => ?_⟩
  by_cases same : vertex = top
  · exact full next (same ▸ edge)
  · refine guided.closed vertex seen (fun member => ?_) next edge
    rw [head] at member
    exact (List.mem_cons.mp member).elim same absent

/-- With the top all its neighbours in the tree are visited, and so is what lies below it. -/
theorem below_visited (guided : Guided target root search) {top : V} {rest : List V}
    (symm : ∀ source target', target source target' → target target' source)
    (head : search.stack = top :: rest) (full : ∀ next, target top next → search.visited next)
    (lower : List V) (route : Route target root (lower ++ top :: rest)) :
    ∀ vertex ∈ lower, search.visited vertex := by
  induction lower with
  | nil => exact fun _ member => absurd member List.not_mem_nil
  | cons vertex others ih =>
      have earlier := route.linked
      have apart := route.nodup
      have shorter : Route target root (others ++ top :: rest) := by
        rcases popped_route route with empty | shorter
        · exact absurd empty (List.append_ne_nil_of_right_ne_nil _ (List.cons_ne_nil _ _))
        · exact shorter
      have seen := ih shorter
      refine List.forall_mem_cons.mpr ⟨?_, seen⟩
      cases others with
      | nil => exact full vertex (symm _ _ (List.isChain_cons_cons.mp earlier).1)
      | cons next more =>
          refine guided.closed next (seen next List.mem_cons_self) ?_ vertex
            (symm _ _ (List.isChain_cons_cons.mp earlier).1)
          intro member
          have twice := (List.nodup_cons.mp shorter.nodup).1
          exact twice (List.mem_append_right more (head ▸ member))

variable (tree : DepthFirstTree adjacent target root vertices)
include tree

theorem guided_visit (guided : Guided target root search) (sound : Sound adjacent root search)
    {top next : V} {rest : List V} (head : search.stack = top :: rest) (edge : target top next)
    (fresh : ¬ search.visited next) : Guided target root (search.visit next) := by
  constructor
  · rw [Search.visit, head]
    exact Or.inr ((stack_route guided.stacked head).extend (tree.symm _ _ edge)
      fun member => fresh (sound.stacked next (head ▸ member)))
  · rintro vertex (old | rfl) absent other wired
    · exact Or.inl (guided.closed vertex old
        (fun member => absent (List.mem_cons_of_mem next member)) other wired)
    · exact absurd List.mem_cons_self absent

/-- In a depth-first tree there is nothing else to visit then. -/
theorem guided_done (guided : Guided target root search) (sound : Sound adjacent root search)
    (inventory : ∀ source target', adjacent source target' → vertices source ∧ vertices target')
    {top : V} {rest : List V} (head : search.stack = top :: rest)
    (full : ∀ next, target top next → search.visited next) (next : V)
    (edge : adjacent top next) : search.visited next := by
  have stack := stack_route guided.stacked head
  obtain ⟨known, known'⟩ := inventory top next edge
  rcases tree.compared top next edge known known' with
    ⟨route, given, member⟩ | ⟨route, given, member⟩
  · obtain ⟨before, after, rfl⟩ := List.append_of_mem member
    have shorter : Route target root (top :: after) := given.suffix (next :: before)
    rw [tree.unique top after rest shorter stack] at given
    exact below_visited guided tree.symm head full (next :: before) given next List.mem_cons_self
  · rw [tree.unique top route rest given stack] at member
    exact sound.stacked next (head ▸ List.mem_cons_of_mem top member)

omit tree in
/-- A tree within another tree on the same vertices is that tree. -/
theorem subtree_same {joined : V → V → Prop} (part : Tree joined root vertices)
    (whole : Tree target root vertices)
    (within : ∀ source target', joined source target' → target source target')
    (source other : V) (apart : source ≠ other) (edge : target source other) :
    joined source other := by
  obtain ⟨route, given⟩ := part.reached source (whole.inside source other edge).1
  by_cases passes : other ∈ route
  · obtain ⟨before, after, rfl⟩ := List.append_of_mem passes
    have rest : Route joined root (other :: after) := given.suffix (source :: before)
    have avoids : source ∉ other :: after := fun member =>
      (List.nodup_cons.mp given.nodup).1 (List.mem_append_right before member)
    have direct := (rest.mono within).extend edge avoids
    have same := whole.unique source _ _ (given.mono within) direct
    rw [same] at given
    exact (List.isChain_cons_cons.mp given.linked).1
  · obtain ⟨route', given'⟩ := part.reached other (whole.inside source other edge).2
    have avoids : other ∉ source :: route := by
      rintro member
      exact (List.mem_cons.mp member).elim (fun same => apart same.symm) passes
    have direct := (given.mono within).extend (whole.symm _ _ edge) avoids
    have same := whole.unique other _ _ (given'.mono within) direct
    rw [same] at given'
    exact part.symm _ _ (List.isChain_cons_cons.mp given'.linked).1

end Guided

/-! ### The branches at the root -/

section Branches
variable {adjacent joined : V → V → Prop} {root : V} {vertices : V → Prop}

/-- The vertex from which a route comes to the root. -/
def branch (route : List V) : Option V := route.dropLast.getLast?

theorem branch_suffix (before after : List V) (vertex : V) (longer : after ≠ []) :
    branch (before ++ vertex :: after) = branch (vertex :: after) := by
  have filled : (vertex :: after).dropLast ≠ [] := by
    cases after with
    | nil => exact absurd rfl longer
    | cons next rest => exact List.cons_ne_nil _ _
  rw [branch, branch, List.dropLast_append_of_ne_nil (List.cons_ne_nil _ _),
    List.getLast?_append_of_ne_nil _ filled]

variable (tree : DepthFirstTree adjacent joined root vertices)
include tree

theorem below_branch {upper lower : V} (other : upper ≠ root)
    (below : Below joined root upper lower) {first second : List V}
    (one : Route joined root (upper :: first)) (two : Route joined root (lower :: second)) :
    branch (upper :: first) = branch (lower :: second) := by
  obtain ⟨route, given, member⟩ := below
  obtain ⟨before, after, rfl⟩ := List.append_of_mem member
  have shorter : Route joined root (upper :: after) := given.suffix (lower :: before)
  obtain ⟨next, rest, rfl, -⟩ := shorter.onward [] other
  rw [tree.unique lower second _ two given, tree.unique upper first _ one shorter]
  exact (branch_suffix (lower :: before) _ upper (List.cons_ne_nil _ _)).symm

/-- Two neighbours of the root in the tree are one, if the graph joins them past the root. -/
theorem one_branch (inventory : ∀ source target, adjacent source target →
      vertices source ∧ vertices target) {first second : V} (edge : joined root first)
    (edge' : joined root second) (way : Relation.ReflTransGen
      (fun source target => adjacent source target ∧ source ≠ root ∧ target ≠ root) first second)
    (apart : first ≠ root) (apart' : second ≠ root) : first = second := by
  have short (child : V) (wired : joined root child) (other : child ≠ root) :
      Route joined root [child, root] :=
    (route_single joined root).extend (tree.symm _ _ wired) (by simpa using other)
  have same (vertex : V) (passes : Relation.ReflTransGen
      (fun source target => adjacent source target ∧ source ≠ root ∧ target ≠ root) first vertex) :
      ∀ route, Route joined root (vertex :: route) → branch (vertex :: route) = some first := by
    induction passes with
    | refl =>
        intro route given
        rw [tree.unique first route [root] given (short first edge apart)]
        rfl
    | tail _ step ih =>
        obtain ⟨near, here, there⟩ := step
        obtain ⟨known, known'⟩ := inventory _ _ near
        obtain ⟨earlier, before⟩ := tree.reached _ known
        intro route given
        rw [← ih earlier before]
        rcases tree.compared _ _ near known known' with below | below
        · exact (below_branch tree here below before given).symm
        · exact below_branch tree there below given before
  have last := same second way [root] (short second edge' apart')
  exact (Option.some.inj last).symm

end Branches
end Library.DepthFirst
