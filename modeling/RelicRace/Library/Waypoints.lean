import Mathlib.Algebra.Order.Field.Basic
import Mathlib.Algebra.Order.Floor.Ring
import Mathlib.Data.List.Chain
import Mathlib.Tactic.Linarith
import Mathlib.Tactic.Positivity
import Mathlib.Tactic.Ring

/-!
A walker that is sent along a list of waypoints. It leaves `origin` for the
first of them, takes the same time for every leg and stays where the last one
is. A relation of legs says which points may be left for which; a walker on
course keeps to such legs until it stands on its goal.
-/

namespace Library.Waypoints

universe u v
variable {Point : Type u} {K : Type v}

/-- `elapsed` is the time since the walker has left `origin`. -/
structure Walker (Point : Type u) (K : Type v) where
  origin : Point
  waypoints : List Point
  elapsed : K

variable [Field K] [LinearOrder K] (legTime : K)

/-- The legs that are walked within the time, taken off the waypoints. -/
def settle : Point → List Point → K → Walker Point K
  | origin, [], _ => ⟨origin, [], 0⟩
  | origin, target :: rest, elapsed =>
      if elapsed < legTime then ⟨origin, target :: rest, elapsed⟩
      else settle target rest (elapsed - legTime)

namespace Walker

def advance (time : K) (walker : Walker Point K) : Walker Point K :=
  settle legTime walker.origin walker.waypoints (walker.elapsed + time)

/-- `toward` gives the point that a share of the way from one point to another leads to. -/
def position (toward : Point → Point → K → Point) (walker : Walker Point K) : Point :=
  match walker.waypoints with
  | [] => walker.origin
  | target :: _ => toward walker.origin target (walker.elapsed / legTime)

structure OnCourse (leg : Point → Point → Prop) (goal : Point) (walker : Walker Point K) :
    Prop where
  started : 0 ≤ walker.elapsed
  underway : walker.waypoints ≠ [] → walker.elapsed < legTime
  legs : List.IsChain leg (walker.origin :: walker.waypoints)
  heads : (walker.origin :: walker.waypoints).getLast? = some goal

end Walker

theorem settle_zero (positive : 0 < legTime) (origin : Point) (waypoints : List Point) :
    settle legTime origin waypoints 0 = ⟨origin, waypoints, 0⟩ := by
  cases waypoints with
  | nil => rfl
  | cons target rest => rw [settle, if_pos positive]

variable {legTime} [IsStrictOrderedRing K] {leg : Point → Point → Prop} {goal : Point}

theorem settle_on_course (origin : Point) (waypoints : List Point) (elapsed : K)
    (started : 0 ≤ elapsed) (legs : List.IsChain leg (origin :: waypoints))
    (heads : (origin :: waypoints).getLast? = some goal) :
    (settle legTime origin waypoints elapsed).OnCourse legTime leg goal := by
  induction waypoints generalizing origin elapsed with
  | nil => exact ⟨le_rfl, fun some => absurd rfl some, legs, heads⟩
  | cons target rest ih =>
      rw [settle]
      split
      · rename_i early
        exact ⟨started, fun _ => early, legs, heads⟩
      · rename_i late
        have later : 0 ≤ elapsed - legTime := by linarith [not_lt.mp late]
        exact ih target _ later legs.tail (by simpa using heads)

theorem advance_on_course (walker : Walker Point K) (course : walker.OnCourse legTime leg goal)
    (time : K) (forward : 0 ≤ time) :
    (walker.advance legTime time).OnCourse legTime leg goal :=
  settle_on_course _ _ _ (add_nonneg course.started forward) course.legs course.heads

/-- A walker is on its goal or a share of the way along a leg. -/
theorem on_course_position (walker : Walker Point K) (course : walker.OnCourse legTime leg goal)
    (toward : Point → Point → K → Point) :
    (walker.waypoints = [] ∧ walker.position legTime toward = goal) ∨
      ∃ target share, leg walker.origin target ∧ 0 ≤ share ∧ share ≤ 1 ∧
        walker.position legTime toward = toward walker.origin target share := by
  obtain ⟨started, underway, legs, heads⟩ := course
  rcases walker with ⟨origin, waypoints, elapsed⟩
  cases waypoints with
  | nil => exact Or.inl ⟨rfl, Option.some.inj heads⟩
  | cons target rest =>
      have early : elapsed < legTime := underway (List.cons_ne_nil target rest)
      have positive : 0 < legTime := lt_of_le_of_lt started early
      refine Or.inr ⟨target, elapsed / legTime, (List.isChain_cons_cons.mp legs).1,
        div_nonneg started positive.le, ?_, rfl⟩
      exact (div_le_one positive).mpr early.le

/-! ### The timetable of a walk -/

/-- Walking on from where a time has led to is walking for both times. -/
theorem settle_advance (origin : Point) (waypoints : List Point) (elapsed time : K)
    (forward : 0 ≤ time) :
    (settle legTime origin waypoints elapsed).advance legTime time =
      settle legTime origin waypoints (elapsed + time) := by
  induction waypoints generalizing origin elapsed with
  | nil => rfl
  | cons target rest ih =>
      rw [settle]
      split
      · rfl
      · rename_i late
        have later : ¬ elapsed + time < legTime := by linarith [not_lt.mp late]
        rw [ih, settle, if_neg later, sub_add_eq_add_sub]

theorem settle_advance_all (origin : Point) (waypoints : List Point) (elapsed : K) (times : List K)
    (forward : ∀ time ∈ times, 0 ≤ time) :
    times.foldl (fun walker time => walker.advance legTime time)
        (settle legTime origin waypoints elapsed) =
      settle legTime origin waypoints (elapsed + times.sum) := by
  induction times generalizing elapsed with
  | nil => rw [List.foldl_nil, List.sum_nil, add_zero]
  | cons time rest ih =>
      rw [List.foldl_cons, settle_advance _ _ _ _ (forward time List.mem_cons_self),
        ih _ (fun other member => forward other (List.mem_cons_of_mem time member)),
        List.sum_cons, add_assoc]

/-- A walker that has just left walks for the sum of the times. -/
theorem advance_all (positive : 0 < legTime) (walker : Walker Point K)
    (fresh : walker.elapsed = 0) (times : List K) (forward : ∀ time ∈ times, 0 ≤ time) :
    times.foldl (fun walker time => walker.advance legTime time) walker =
      settle legTime walker.origin walker.waypoints times.sum := by
  rcases walker with ⟨origin, waypoints, elapsed⟩
  obtain rfl : elapsed = 0 := fresh
  rw [← settle_zero _ positive, settle_advance_all _ _ _ _ forward, zero_add,
    settle_zero _ positive]

/-! ### A route that is repeated -/

def rounds (route : List Point) (count : Nat) : List Point := (List.replicate count route).flatten

theorem rounds_add (route : List Point) (first second : Nat) :
    rounds route (first + second) = rounds route first ++ rounds route second := by
  rw [rounds, rounds, rounds, List.replicate_add, List.flatten_append]

/-- What holds along the route and across its end holds along all rounds. -/
theorem rounds_legs (route : List Point) (legs : route.IsChain leg)
    (again : ∀ last ∈ route.getLast?, ∀ first ∈ route.head?, leg last first) (count : Nat) :
    (rounds route count).IsChain leg ∧
      ∀ first ∈ (rounds route count).head?, first ∈ route.head? := by
  induction count with
  | zero => exact ⟨List.isChain_nil, fun first isFirst => by cases isFirst⟩
  | succ count ih =>
      rw [Nat.add_comm, rounds_add, show rounds route 1 = route by simp [rounds]]
      refine ⟨legs.append ih.1 fun last isLast first isFirst => ?_, fun first isFirst => ?_⟩
      · exact again last isLast first (ih.2 first isFirst)
      · cases route with
        | nil => simp [rounds] at isFirst
        | cons here rest => exact isFirst

theorem rounds_ends (route : List Point) (count : Nat) (last : Point)
    (ends : route.getLast? = some last) :
    (rounds route (count + 1)).getLast? = some last := by
  rw [rounds_add, show rounds route 1 = route by simp [rounds], List.getLast?_append, ends,
    Option.some_or]

/-- The legs of a first part are walked in their time. -/
theorem settle_past (positive : 0 < legTime) (origin : Point) (first rest : List Point)
    (elapsed : K) (started : 0 ≤ elapsed) :
    settle legTime origin (first ++ rest) (elapsed + first.length * legTime) =
      settle legTime (first.getLast?.getD origin) rest elapsed := by
  induction first generalizing origin with
  | nil => simp
  | cons target others ih =>
      have time : elapsed + ((target :: others).length : K) * legTime =
          elapsed + (others.length : K) * legTime + legTime := by
        rw [List.length_cons]
        push_cast
        ring
      have legs : 0 ≤ (others.length : K) * legTime :=
        mul_nonneg (Nat.cast_nonneg _) positive.le
      rw [List.cons_append, settle, if_neg (by rw [time]; linarith), time, add_sub_cancel_right,
        ih target, List.getLast?_cons, Option.getD_some]

/-- After whole rounds a walker that started where the route ends is as it was. -/
theorem settle_rounds (positive : 0 < legTime) (origin : Point) (route : List Point)
    (home : route.getLast? = some origin) (count more : Nat) (elapsed : K)
    (started : 0 ≤ elapsed) :
    settle legTime origin (rounds route (count + more))
        (elapsed + count * (route.length * legTime)) =
      settle legTime origin (rounds route more) elapsed := by
  induction count with
  | zero => simp
  | succ count ih =>
      have time : elapsed + ((count + 1 : Nat) : K) * (route.length * legTime) =
          elapsed + count * (route.length * legTime) + route.length * legTime := by
        push_cast
        ring
      have rest : 0 ≤ elapsed + count * (route.length * legTime) := by positivity
      rw [time, show count + 1 + more = 1 + (count + more) by omega, rounds_add,
        show rounds route 1 = route by simp [rounds], settle_past positive origin _ _ _ rest, home,
        Option.getD_some, ih]

variable [FloorRing K]

/-- Each full leg takes one waypoint off. -/
theorem settle_waypoints (positive : 0 < legTime) (origin : Point) (waypoints : List Point)
    (elapsed : K) (started : 0 ≤ elapsed) :
    (settle legTime origin waypoints elapsed).waypoints =
      waypoints.drop ⌊elapsed / legTime⌋₊ := by
  induction waypoints generalizing origin elapsed with
  | nil => rw [List.drop_nil]; rfl
  | cons target rest ih =>
      rw [settle]
      split
      · rename_i early
        have none : ⌊elapsed / legTime⌋₊ = 0 :=
          Nat.floor_eq_zero.mpr ((div_lt_one positive).mpr early)
        rw [none, List.drop_zero]
      · rename_i late
        have full : 1 ≤ elapsed / legTime := (one_le_div positive).mpr (not_lt.mp late)
        have more : ⌊elapsed / legTime⌋₊ = ⌊(elapsed - legTime) / legTime⌋₊ + 1 := by
          rw [sub_div, div_self positive.ne', Nat.floor_sub_one,
            Nat.sub_add_cancel (Nat.le_floor (by simpa using full))]
        rw [ih target _ (by linarith [not_lt.mp late]), more, List.drop_succ_cons]

/-- A walk is over when there has been time for all its legs. -/
theorem walk_over_iff (positive : 0 < legTime) (origin : Point) (waypoints : List Point)
    (elapsed : K) (started : 0 ≤ elapsed) :
    (settle legTime origin waypoints elapsed).waypoints = [] ↔
      (waypoints.length : K) * legTime ≤ elapsed := by
  rw [settle_waypoints positive origin waypoints elapsed started, List.drop_eq_nil_iff,
    Nat.le_floor_iff (div_nonneg started positive.le), le_div_iff₀ positive]

/-- The walker that repeats a route, with more rounds than the time lasts for. -/
def patrol (legTime : K) (origin : Point) (route : List Point) (elapsed : K) :
    Walker Point K :=
  settle legTime origin (rounds route (⌊elapsed / legTime⌋₊ + 1)) elapsed

theorem patrol_on_course (origin : Point) (route : List Point) (home : route.getLast? = some origin)
    (legs : route.IsChain leg) (leaves : ∀ first ∈ route.head?, leg origin first) (elapsed : K)
    (started : 0 ≤ elapsed) :
    (patrol legTime origin route elapsed).OnCourse legTime leg origin := by
  have again : ∀ last ∈ route.getLast?, ∀ first ∈ route.head?, leg last first := by
    intro last isLast
    rw [home, Option.mem_some_iff] at isLast
    exact isLast ▸ leaves
  obtain ⟨chain, first⟩ := rounds_legs route legs again (⌊elapsed / legTime⌋₊ + 1)
  refine settle_on_course _ _ _ started ?_ ?_
  · rw [List.isChain_cons]
    exact ⟨fun next isNext => leaves next (first next isNext), chain⟩
  · rw [List.getLast?_cons, rounds_ends route _ origin home, Option.getD_some]

/-- After whole rounds the walker stands at the end of its route. -/
theorem patrol_home (positive : 0 < legTime) (origin : Point) (route : List Point)
    (home : route.getLast? = some origin) (count : Nat) :
    patrol legTime origin route (count * (route.length * legTime)) =
      settle legTime origin
        (rounds route (⌊(count : K) * (route.length * legTime) / legTime⌋₊ + 1 - count)) 0 := by
  have filled : 1 ≤ route.length := by
    cases route with
    | nil => cases home
    | cons here rest => simp
  have legs : (count : K) * (route.length * legTime) / legTime =
      ((count * route.length : Nat) : K) := by
    rw [← mul_assoc, mul_div_cancel_right₀ _ positive.ne']
    push_cast
    rfl
  have enough : count ≤ ⌊(count : K) * (route.length * legTime) / legTime⌋₊ + 1 := by
    rw [legs, Nat.floor_natCast]
    nlinarith
  have walked := settle_rounds positive origin route home count
    (⌊(count : K) * (route.length * legTime) / legTime⌋₊ + 1 - count) 0 le_rfl
  rw [patrol]
  rwa [Nat.add_sub_cancel' enough, zero_add] at walked

end Library.Waypoints
