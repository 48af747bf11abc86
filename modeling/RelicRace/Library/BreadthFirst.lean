import Mathlib.Data.List.Chain
import Mathlib.Data.Finset.Card
import Mathlib.Data.Finset.Filter
import Mathlib.Logic.Function.Basic
import Mathlib.Logic.Relation

/-!
Queue-based exploration of an arbitrary graph that labels every vertex with the
number of steps in which it was found. Scanning the neighbours of the queue's
head keeps the queue ordered by label, and the labels of an exhausted search
are the least numbers of steps. Levels that fit the edges certify these numbers
without a search.
-/

namespace Library.BreadthFirst

universe u
variable {V : Type u}

/-- A vertex is reached from the source in exactly so many steps. -/
def Steps (adjacent : V → V → Prop) (source : V) : Nat → V → Prop
  | 0, vertex => vertex = source
  | count + 1, vertex => ∃ middle, Steps adjacent source count middle ∧ adjacent middle vertex

/-- The least number of steps, or none if no number of steps leads there. -/
def IsDistance (adjacent : V → V → Prop) (source vertex : V) (distance : Option Nat) : Prop :=
  (∀ count, distance = some count → Steps adjacent source count vertex) ∧
    ∀ count, Steps adjacent source count vertex → ∃ least, distance = some least ∧ least ≤ count

theorem distance_unique (adjacent : V → V → Prop) (source vertex : V)
    (first second : Option Nat) (isFirst : IsDistance adjacent source vertex first)
    (isSecond : IsDistance adjacent source vertex second) : first = second := by
  cases first with
  | none =>
      cases second with
      | none => rfl
      | some count =>
          obtain ⟨least, found, -⟩ := isFirst.2 count (isSecond.1 count rfl)
          cases found
  | some count =>
      obtain ⟨least, found, below⟩ := isSecond.2 count (isFirst.1 count rfl)
      subst found
      obtain ⟨other, same, above⟩ := isFirst.2 least (isSecond.1 least rfl)
      obtain rfl := Option.some.inj same
      rw [Nat.le_antisymm above below]

/-- Steps depend on the neighbours only. -/
theorem steps_congr (adjacent adjacent' : V → V → Prop)
    (same : ∀ source target, adjacent source target ↔ adjacent' source target) (source : V)
    (count : Nat) (vertex : V) :
    Steps adjacent source count vertex ↔ Steps adjacent' source count vertex := by
  induction count generalizing vertex with
  | zero => rfl
  | succ count ih => simp only [Steps, ih, same]

theorem is_distance_congr (adjacent adjacent' : V → V → Prop)
    (same : ∀ source target, adjacent source target ↔ adjacent' source target)
    (source vertex : V) (distance : Option Nat) :
    IsDistance adjacent source vertex distance ↔ IsDistance adjacent' source vertex distance := by
  simp only [IsDistance, steps_congr adjacent adjacent' same]

theorem steps_of_walk (adjacent : V → V → Prop) (source vertex : V)
    (walk : Relation.ReflTransGen adjacent source vertex) :
    ∃ count, Steps adjacent source count vertex := by
  induction walk with
  | refl => exact ⟨0, rfl⟩
  | tail _ edge ih =>
      obtain ⟨count, steps⟩ := ih
      exact ⟨count + 1, _, steps, edge⟩

theorem walk_of_steps (adjacent : V → V → Prop) (source : V) (count : Nat) (vertex : V)
    (steps : Steps adjacent source count vertex) :
    Relation.ReflTransGen adjacent source vertex := by
  induction count generalizing vertex with
  | zero => exact steps ▸ Relation.ReflTransGen.refl
  | succ count ih =>
      obtain ⟨middle, before, edge⟩ := steps
      exact (ih middle before).tail edge

/-- Along a chain of vertices there is one step less than vertices. -/
theorem steps_of_chain (adjacent : V → V → Prop) (source : V) (rest : List V)
    (linked : (source :: rest).IsChain adjacent) :
    Steps adjacent source rest.length
      ((source :: rest).getLast (List.cons_ne_nil source rest)) := by
  induction rest using List.reverseRecOn with
  | nil => rfl
  | append_singleton before last ih =>
      rw [← List.cons_append, List.isChain_append] at linked
      obtain ⟨chain, -, edge⟩ := linked
      rw [List.length_append, List.length_singleton]
      refine ⟨_, ih chain, ?_⟩
      have final : (source :: (before ++ [last])).getLast (List.cons_ne_nil _ _) = last := by
        simp
      rw [final]
      exact edge _ (List.getLast_mem_getLast? (List.cons_ne_nil source before)) last rfl

theorem chain_of_steps (adjacent : V → V → Prop) (source : V) (count : Nat) (vertex : V)
    (steps : Steps adjacent source count vertex) :
    ∃ rest, (source :: rest).IsChain adjacent ∧ rest.length = count ∧
      (source :: rest).getLast? = some vertex := by
  induction count generalizing vertex with
  | zero =>
      obtain rfl := steps
      exact ⟨[], List.isChain_singleton _, rfl, rfl⟩
  | succ count ih =>
      obtain ⟨middle, before, edge⟩ := steps
      obtain ⟨rest, chain, length, last⟩ := ih middle before
      refine ⟨rest ++ [vertex], ?_, by simp [length],
        by rw [← List.cons_append, List.getLast?_concat]⟩
      rw [← List.cons_append]
      refine chain.append (List.isChain_singleton vertex) ?_
      intro end' isEnd first isFirst
      rw [last, Option.mem_some_iff] at isEnd
      rw [List.head?_singleton, Option.mem_some_iff] at isFirst
      exact isEnd ▸ isFirst ▸ edge

/-! ### The way back -/

theorem steps_before (adjacent : V → V → Prop) (source next : V) (edge : adjacent source next)
    (count : Nat) (vertex : V) (steps : Steps adjacent next count vertex) :
    Steps adjacent source (count + 1) vertex := by
  induction count generalizing vertex with
  | zero =>
      obtain rfl := steps
      exact ⟨source, rfl, edge⟩
  | succ count ih =>
      obtain ⟨middle, before, last⟩ := steps
      exact ⟨middle, ih middle before, last⟩

theorem steps_symm (adjacent : V → V → Prop)
    (symmetric : ∀ source target, adjacent source target → adjacent target source) (source : V)
    (count : Nat) (vertex : V) (steps : Steps adjacent source count vertex) :
    Steps adjacent vertex count source := by
  induction count generalizing vertex with
  | zero => exact Eq.symm steps
  | succ count ih =>
      obtain ⟨middle, before, edge⟩ := steps
      exact steps_before adjacent vertex middle (symmetric _ _ edge) count source (ih middle before)

/-- Where the edges lead both ways, so do the distances. -/
theorem distance_symm (adjacent : V → V → Prop)
    (symmetric : ∀ source target, adjacent source target → adjacent target source)
    (source vertex : V) (distance : Option Nat)
    (least : IsDistance adjacent source vertex distance) :
    IsDistance adjacent vertex source distance :=
  ⟨fun count found => steps_symm adjacent symmetric source count vertex (least.1 count found),
    fun count steps => least.2 count (steps_symm adjacent symmetric vertex count source steps)⟩

/-- There is no distance exactly where no walk leads. -/
theorem distance_none_iff (adjacent : V → V → Prop) (source vertex : V) (distance : Option Nat)
    (least : IsDistance adjacent source vertex distance) :
    distance = none ↔ ¬ Relation.ReflTransGen adjacent source vertex := by
  constructor
  · rintro rfl walk
    obtain ⟨count, steps⟩ := steps_of_walk adjacent source vertex walk
    obtain ⟨_, found, -⟩ := least.2 count steps
    cases found
  · intro missed
    cases distance with
    | none => rfl
    | some count =>
        exact absurd (walk_of_steps adjacent source count vertex (least.1 count rfl)) missed

theorem distance_some_iff (adjacent : V → V → Prop) (source vertex : V) (distance : Option Nat)
    (least : IsDistance adjacent source vertex distance) (count : Nat) :
    distance = some count ↔ Steps adjacent source count vertex ∧
      ∀ fewer, Steps adjacent source fewer vertex → count ≤ fewer := by
  constructor
  · rintro rfl
    refine ⟨least.1 count rfl, fun fewer steps => ?_⟩
    obtain ⟨found, same, below⟩ := least.2 fewer steps
    exact Option.some.inj same ▸ below
  · rintro ⟨steps, below⟩
    obtain ⟨found, rfl, under⟩ := least.2 count steps
    rw [Nat.le_antisymm under (below found (least.1 found rfl))]

/-- Levels that certify distances: along an edge they grow by one at most, and a
    vertex of the region other than the source is one level above a neighbour. -/
structure Levelled (adjacent : V → V → Prop) (source : V) (region : V → Prop)
    (level : V → Nat) : Prop where
  bottom : level source = 0
  slow : ∀ here next, adjacent here next → level next ≤ level here + 1
  falls : ∀ vertex, region vertex → vertex = source ∨
    ∃ before, region before ∧ adjacent before vertex ∧ level vertex = level before + 1

section Levels
variable {adjacent : V → V → Prop} {source : V} {region : V → Prop} {level : V → Nat}

theorem levelled_least (levelled : Levelled adjacent source region level) (count : Nat)
    (vertex : V) (steps : Steps adjacent source count vertex) : level vertex ≤ count := by
  induction count generalizing vertex with
  | zero =>
      obtain rfl := steps
      exact levelled.bottom.le
  | succ count ih =>
      obtain ⟨middle, before, edge⟩ := steps
      exact (levelled.slow middle vertex edge).trans (Nat.succ_le_succ (ih middle before))

theorem levelled_steps (levelled : Levelled adjacent source region level) (count : Nat)
    (vertex : V) (inside : region vertex) (height : level vertex = count) :
    Steps adjacent source count vertex := by
  induction count generalizing vertex with
  | zero =>
      rcases levelled.falls vertex inside with same | ⟨before, -, -, above⟩
      · exact same
      · omega
  | succ count ih =>
      rcases levelled.falls vertex inside with rfl | ⟨before, within, edge, above⟩
      · rw [levelled.bottom] at height
        cases height
      · exact ⟨before, ih before within (by omega), edge⟩

theorem levelled_distance (levelled : Levelled adjacent source region level) (vertex : V)
    (inside : region vertex) : IsDistance adjacent source vertex (some (level vertex)) := by
  constructor
  · intro count same
    exact levelled_steps levelled count vertex inside (Option.some.inj same)
  · intro count steps
    exact ⟨level vertex, rfl, levelled_least levelled count vertex steps⟩

end Levels

/-- The vertices waiting to be scanned and the labels given so far. -/
structure Search (V : Type u) where
  queue : List V
  label : V → Option Nat

section Search
variable [DecidableEq V]

/-- A neighbour of a vertex with the label `near`. -/
def discover (near : Nat) (search : Search V) (next : V) : Search V :=
  if search.label next = none then
    ⟨search.queue ++ [next], Function.update search.label next (some (near + 1))⟩
  else search

def scan (near : Nat) (nexts : List V) (search : Search V) : Search V :=
  nexts.foldl (discover near) search

def initial (source : V) : Search V :=
  ⟨[source], Function.update (fun _ => none) source (some 0)⟩

theorem discover_keeps (near : Nat) (search : Search V) (next vertex : V) (count : Nat)
    (known : search.label vertex = some count) :
    (discover near search next).label vertex = some count := by
  rw [discover]
  split
  · next fresh =>
      have other : vertex ≠ next := by
        rintro rfl
        simp [known] at fresh
      simp [other, known]
  · exact known

/-- A scan appends the unlabelled neighbours, each once, and labels them. -/
theorem scan_fresh (near : Nat) (nexts : List V) (search : Search V) :
    ∃ fresh : List V, (scan near nexts search).queue = search.queue ++ fresh ∧ fresh.Nodup ∧
      (∀ vertex, vertex ∈ fresh ↔ vertex ∈ nexts ∧ search.label vertex = none) ∧
      ∀ vertex, (scan near nexts search).label vertex =
        if vertex ∈ fresh then some (near + 1) else search.label vertex := by
  -- The induction is on the neighbours; a labelled one is skipped, a fresh one is appended.
  induction nexts generalizing search with
  | nil => exact ⟨[], by simp [scan], List.nodup_nil, by simp, by simp [scan]⟩
  | cons next rest ih =>
      obtain ⟨fresh, queue, nodup, members, label⟩ := ih (discover near search next)
      by_cases known : search.label next = none
      · have found : discover near search next = ⟨search.queue ++ [next],
            Function.update search.label next (some (near + 1))⟩ := if_pos known
        rw [found] at queue members label
        have away : next ∉ fresh := by simp [members]
        refine ⟨next :: fresh, ?_, List.nodup_cons.mpr ⟨away, nodup⟩, ?_, ?_⟩
        · simpa [scan, found] using queue
        · intro vertex
          by_cases same : vertex = next
          · simp [same, known]
          · simp [members, same, Function.update_of_ne]
        · intro vertex
          have labelled := label vertex
          by_cases same : vertex = next
          · subst same
            simpa [scan, found, away] using labelled
          · simpa [scan, found, same, Function.update_of_ne] using labelled
      · have kept : discover near search next = search := if_neg known
        rw [kept] at queue members label
        refine ⟨fresh, by simpa [scan, kept] using queue, nodup, ?_,
          by simpa [scan, kept] using label⟩
        intro vertex
        rw [members, List.mem_cons]
        constructor
        · rintro ⟨listed, unknown⟩
          exact ⟨Or.inr listed, unknown⟩
        · rintro ⟨rfl | listed, unknown⟩
          · exact absurd unknown known
          · exact ⟨listed, unknown⟩

/-- The queue is ordered by label, no label exceeds the head's by more than
    one, and a vertex that has left the queue has all its neighbours labelled
    within one step. -/
structure Layered (adjacent : V → List V) (source : V) (search : Search V) : Prop where
  rooted : search.label source = some 0
  walked : ∀ vertex count, search.label vertex = some count →
    Steps (fun here next => next ∈ adjacent here) source count vertex
  queued : ∀ vertex ∈ search.queue, ∃ count, search.label vertex = some count
  ordered : search.queue.Pairwise fun first second => ∀ near far,
    search.label first = some near → search.label second = some far → near ≤ far
  level : ∀ head rest, search.queue = head :: rest → ∀ near, search.label head = some near →
    ∀ vertex count, search.label vertex = some count → count ≤ near + 1
  closed : ∀ vertex count, search.label vertex = some count → vertex ∉ search.queue →
    ∀ next ∈ adjacent vertex, ∃ far, search.label next = some far ∧ far ≤ count + 1

theorem initial_layered (adjacent : V → List V) (source : V) :
    Layered adjacent source (initial source) := by
  have labelled : ∀ vertex count, (initial source).label vertex = some count →
      vertex = source ∧ count = 0 := by
    intro vertex count found
    by_cases same : vertex = source
    · subst same
      simp only [initial, Function.update_self, Option.some.injEq] at found
      exact ⟨rfl, found.symm⟩
    · simp [initial, same] at found
  refine ⟨by simp [initial], ?_, ?_, by simp [initial], ?_, ?_⟩
  · intro vertex count found
    obtain ⟨rfl, rfl⟩ := labelled vertex count found
    rfl
  · intro vertex member
    obtain rfl := List.mem_singleton.mp member
    exact ⟨0, by simp [initial]⟩
  · intro head rest _ near _ vertex count found
    rw [(labelled vertex count found).2]
    exact Nat.zero_le _
  · intro vertex count found absent
    obtain ⟨rfl, -⟩ := labelled vertex count found
    exact absurd (List.mem_singleton.mpr rfl) absent

/-! One scan of the head of a layered queue. -/

section Scan
variable (adjacent : V → List V) (source head : V) (rest : List V) (near : Nat)
  (label : V → Option Nat)

theorem scan_keeps (nexts : List V) (vertex : V) (count : Nat)
    (known : label vertex = some count) :
    (scan near nexts ⟨rest, label⟩).label vertex = some count := by
  obtain ⟨fresh, -, -, members, labels⟩ := scan_fresh near nexts ⟨rest, label⟩
  rw [labels, if_neg (by simp [members, known])]
  exact known

/-- A label is an old one or the new one of a neighbour. -/
theorem scan_label (nexts : List V) (vertex : V) (count : Nat)
    (found : (scan near nexts ⟨rest, label⟩).label vertex = some count) :
    (vertex ∈ nexts ∧ label vertex = none ∧ count = near + 1) ∨ label vertex = some count := by
  obtain ⟨fresh, -, -, members, labels⟩ := scan_fresh near nexts ⟨rest, label⟩
  rw [labels] at found
  split at found
  · next listed =>
      obtain ⟨edge, unknown⟩ := (members vertex).mp listed
      exact Or.inl ⟨edge, unknown, (Option.some.inj found).symm⟩
  · exact Or.inr found

/-- Behind the rest wait the new neighbours, with the new label. -/
theorem scan_ordered (layered : Layered adjacent source ⟨head :: rest, label⟩)
    (here : label head = some near) :
    (scan near (adjacent head) ⟨rest, label⟩).queue.Pairwise fun first second => ∀ low high,
      (scan near (adjacent head) ⟨rest, label⟩).label first = some low →
      (scan near (adjacent head) ⟨rest, label⟩).label second = some high → low ≤ high := by
  obtain ⟨fresh, queue, -, -, labels⟩ := scan_fresh near (adjacent head) ⟨rest, label⟩
  have waits (vertex : V) (member : vertex ∈ rest) (count : Nat)
      (found : (scan near (adjacent head) ⟨rest, label⟩).label vertex = some count) :
      label vertex = some count := by
    obtain ⟨old, known⟩ := layered.queued vertex (List.mem_cons_of_mem head member)
    rw [scan_keeps rest near label (adjacent head) vertex old known] at found
    exact known.trans found
  rw [queue, List.pairwise_append]
  refine ⟨?_, ?_, ?_⟩
  · refine (List.pairwise_cons.mp layered.ordered).2.imp_of_mem ?_
    intro first second member member' order low high found found'
    exact order low high (waits first member low found) (waits second member' high found')
  · refine List.pairwise_of_forall_mem_list ?_
    intro first listed second listed' low high found found'
    rw [labels, if_pos listed] at found
    rw [labels, if_pos listed'] at found'
    rw [← Option.some.inj found, ← Option.some.inj found']
  · intro first waiting second listed low high found found'
    rw [labels, if_pos listed] at found'
    rw [← Option.some.inj found']
    exact layered.level head rest rfl near here first low (waits first waiting low found)

/-- The label of the next head: the one of a vertex that waited behind the old
    head, or the new one. -/
theorem scan_next (layered : Layered adjacent source ⟨head :: rest, label⟩)
    (here : label head = some near) (next : V)
    (waiting : next ∈ (scan near (adjacent head) ⟨rest, label⟩).queue) (count : Nat)
    (found : (scan near (adjacent head) ⟨rest, label⟩).label next = some count) :
    near ≤ count := by
  obtain ⟨fresh, queue, -, -, labels⟩ := scan_fresh near (adjacent head) ⟨rest, label⟩
  rw [queue] at waiting
  rcases List.mem_append.mp waiting with behind | listed
  · obtain ⟨old, known⟩ := layered.queued next (List.mem_cons_of_mem head behind)
    rw [scan_keeps rest near label (adjacent head) next old known] at found
    exact (List.pairwise_cons.mp layered.ordered).1 next behind near count here
      (known.trans found)
  · rw [labels, if_pos listed] at found
    rw [← Option.some.inj found]
    exact Nat.le_succ near

theorem scan_layered (layered : Layered adjacent source ⟨head :: rest, label⟩)
    (here : label head = some near) :
    Layered adjacent source (scan near (adjacent head) ⟨rest, label⟩) := by
  obtain ⟨fresh, queue, -, members, labels⟩ := scan_fresh near (adjacent head) ⟨rest, label⟩
  have kept := scan_keeps rest near label (adjacent head)
  have bound : ∀ vertex count, label vertex = some count → count ≤ near + 1 :=
    layered.level head rest rfl near here
  refine ⟨kept source 0 layered.rooted, ?_, ?_,
    scan_ordered adjacent source head rest near label layered here, ?_, ?_⟩
  · intro vertex count found
    rcases scan_label rest near label (adjacent head) vertex count found with
      ⟨edge, -, rfl⟩ | known
    · exact ⟨head, layered.walked head near here, edge⟩
    · exact layered.walked vertex count known
  · intro vertex member
    rw [queue] at member
    rcases List.mem_append.mp member with waiting | listed
    · obtain ⟨count, known⟩ := layered.queued vertex (List.mem_cons_of_mem head waiting)
      exact ⟨count, kept vertex count known⟩
    · exact ⟨near + 1, by rw [labels, if_pos listed]⟩
  · intro head' rest' split near' found vertex count found'
    have later : near ≤ near' := scan_next adjacent source head rest near label layered here head'
      (by rw [split]; exact List.mem_cons_self) near' found
    rcases scan_label rest near label (adjacent head) vertex count found' with
      ⟨-, -, rfl⟩ | known
    · exact Nat.succ_le_succ later
    · exact le_trans (bound vertex count known) (Nat.succ_le_succ later)
  · intro vertex count found absent next edge
    rw [queue, List.mem_append, not_or] at absent
    rcases scan_label rest near label (adjacent head) vertex count found with
      ⟨edge', unknown, -⟩ | known
    · exact absurd ((members vertex).mpr ⟨edge', unknown⟩) absent.2
    -- Only the head has left the queue just now; its neighbours are labelled by the scan.
    by_cases same : vertex = head
    · subst same
      obtain rfl : near = count := Option.some.inj (here.symm.trans known)
      cases seen : label next with
      | none => exact ⟨near + 1, by rw [labels, if_pos ((members next).mpr ⟨edge, seen⟩)], le_rfl⟩
      | some far => exact ⟨far, kept next far seen, bound next far seen⟩
    · have away : vertex ∉ head :: rest := by simp [same, absent.1]
      obtain ⟨far, seen, within⟩ := layered.closed vertex count known away next edge
      exact ⟨far, kept next far seen, within⟩

end Scan

omit [DecidableEq V] in
/-- The labels of an exhausted search are the distances. -/
theorem exhausted_distance (adjacent : V → List V) (source : V) (search : Search V)
    (layered : Layered adjacent source search) (exhausted : search.queue = []) (vertex : V) :
    IsDistance (fun here next => next ∈ adjacent here) source vertex (search.label vertex) := by
  refine ⟨fun count found => layered.walked vertex count found, ?_⟩
  intro count steps
  induction count generalizing vertex with
  | zero =>
      obtain rfl := steps
      exact ⟨0, layered.rooted, le_rfl⟩
  | succ count ih =>
      obtain ⟨middle, steps, edge⟩ := steps
      obtain ⟨least, known, within⟩ := ih middle steps
      obtain ⟨far, found, near⟩ :=
        layered.closed middle least known (by simp [exhausted]) vertex edge
      exact ⟨far, found, le_trans near (Nat.succ_le_succ within)⟩

/-- Scans a search can still make: one for every vertex without a label and one
    for every vertex on the queue. -/
def budget (vertices : Finset V) (search : Search V) : Nat :=
  (vertices.filter fun vertex => search.label vertex = none).card + search.queue.length

theorem scan_budget (vertices : Finset V) (head : V) (rest : List V) (near : Nat)
    (label : V → Option Nat) (nexts : List V) (inventory : ∀ next ∈ nexts, next ∈ vertices) :
    budget vertices (scan near nexts ⟨rest, label⟩) < budget vertices ⟨head :: rest, label⟩ := by
  obtain ⟨fresh, queue, nodup, members, labels⟩ := scan_fresh near nexts ⟨rest, label⟩
  -- What the scan appends to the queue it takes off the unlabelled vertices.
  have apart : Disjoint (vertices.filter fun vertex =>
      (scan near nexts ⟨rest, label⟩).label vertex = none) fresh.toFinset := by
    rw [Finset.disjoint_left]
    intro vertex unlabelled listed
    have none := (Finset.mem_filter.mp unlabelled).2
    rw [labels, if_pos (List.mem_toFinset.mp listed)] at none
    cases none
  have inside : (vertices.filter fun vertex =>
      (scan near nexts ⟨rest, label⟩).label vertex = none) ∪ fresh.toFinset ⊆
      vertices.filter fun vertex => label vertex = none := by
    intro vertex member
    rcases Finset.mem_union.mp member with unlabelled | listed
    · obtain ⟨present, none⟩ := Finset.mem_filter.mp unlabelled
      rw [labels] at none
      split at none
      · cases none
      · exact Finset.mem_filter.mpr ⟨present, none⟩
    · obtain ⟨next, none⟩ := (members vertex).mp (List.mem_toFinset.mp listed)
      exact Finset.mem_filter.mpr ⟨inventory vertex next, none⟩
  have fewer := Finset.card_le_card inside
  rw [Finset.card_union_of_disjoint apart, List.toFinset_card_of_nodup nodup] at fewer
  simp only [budget, queue, List.length_append, List.length_cons]
  omega

end Search
end Library.BreadthFirst
