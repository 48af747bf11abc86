import Mathlib.Algebra.QuadraticDiscriminant
import RelicRace.Trophy.Circle

/-!
`FindLineCircleIntersections`, in exact arithmetic. The parameters at which the
line through two points meets a circle are the roots of a quadratic equation, and
the sign of its discriminant says how many there are. Points that are almost the
same give no line.
-/

namespace RelicRace
open SquareRoot

section Line
variable {K : Type} [Field K] [LinearOrder K]

/-- The point of the line through two points at a parameter. -/
def linePoint (point1 point2 : CGPoint K) (t : K) : CGPoint K :=
  let dx := point2.x - point1.x
  let dy := point2.y - point1.y
  ⟨point1.x + t * dx, point1.y + t * dy⟩

/-- `0.0000001`. -/
def nearlyOne : K := ((1 : Nat) : K) / ((10000000 : Nat) : K)

namespace Line

/-! The coefficients of the equation for the parameter. -/

def A (point1 point2 : CGPoint K) : K :=
  let dx := point2.x - point1.x
  let dy := point2.y - point1.y
  dx * dx + dy * dy

def B (cx cy : K) (point1 point2 : CGPoint K) : K :=
  let dx := point2.x - point1.x
  let dy := point2.y - point1.y
  2 * (dx * (point1.x - cx) + dy * (point1.y - cy))

def C (cx cy radius : K) (point1 : CGPoint K) : K :=
  (point1.x - cx) * (point1.x - cx) + (point1.y - cy) * (point1.y - cy) - radius * radius

end Line

variable [SquareRoot K]

def findLineCircleIntersections (cx cy radius : K) (point1 point2 : CGPoint K) :
    List (CGPoint K) :=
  let A := Line.A point1 point2
  let B := Line.B cx cy point1 point2
  let C := Line.C cx cy radius point1
  let det := B * B - 4 * A * C
  if A ≤ nearlyOne ∨ det < 0 then []
  else if det = 0 then [linePoint point1 point2 (-B / (2 * A))]
  else [linePoint point1 point2 ((-B + sqrt det) / (2 * A)),
    linePoint point1 point2 ((-B - sqrt det) / (2 * A))]

omit [LinearOrder K] [SquareRoot K] in
/-- A point of the line is on the circle where the equation holds. -/
theorem line_point_through (circle : Circle K) (point1 point2 : CGPoint K) (t : K) :
    circle.Through (linePoint point1 point2 t) ↔
      Line.A point1 point2 * (t * t) + Line.B circle.x circle.y point1 point2 * t +
        Line.C circle.x circle.y circle.r point1 = 0 := by
  rw [Circle.Through, ← sub_eq_zero]
  refine Eq.congr_left ?_
  simp only [linePoint, Line.A, Line.B, Line.C]
  ring

omit [LinearOrder K] [SquareRoot K] in
theorem line_point_inj (point1 point2 : CGPoint K) (apart : Line.A point1 point2 ≠ 0) (t t' : K)
    (same : linePoint point1 point2 t = linePoint point1 point2 t') : t = t' := by
  simp only [linePoint, CGPoint.mk.injEq, add_right_inj, mul_eq_mul_right_iff] at same
  obtain ⟨column | column, row | row⟩ := same
  · exact column
  · exact column
  · exact row
  · exact absurd (by simp [Line.A, column, row]) apart

variable [IsStrictOrderedRing K]

/-- The parameters of the returned points are the roots of the equation. -/
theorem mem_line_circle_iff (circle : Circle K) (point1 point2 point : CGPoint K)
    (apart : nearlyOne < Line.A point1 point2) :
    point ∈ findLineCircleIntersections circle.x circle.y circle.r point1 point2 ↔
      ∃ t, point = linePoint point1 point2 t ∧ circle.Through point := by
  have tiny : (0 : K) ≤ nearlyOne := div_nonneg (Nat.cast_nonneg 1) (Nat.cast_nonneg 10000000)
  have leading : Line.A point1 point2 ≠ 0 := (tiny.trans_lt apart).ne'
  have discriminant : discrim (Line.A point1 point2) (Line.B circle.x circle.y point1 point2)
      (Line.C circle.x circle.y circle.r point1) =
      Line.B circle.x circle.y point1 point2 * Line.B circle.x circle.y point1 point2 -
        4 * Line.A point1 point2 * Line.C circle.x circle.y circle.r point1 := by
    rw [discrim, sq]
  have through (t : K) := line_point_through circle point1 point2 t
  simp only [findLineCircleIntersections, not_le.mpr apart, false_or, ← discriminant]
  split_ifs with negative zero
  · refine iff_of_false List.not_mem_nil ?_
    rintro ⟨t, rfl, meets⟩
    refine quadratic_ne_zero_of_discrim_ne_sq (fun root square => ?_) t ((through t).mp meets)
    exact absurd negative (not_lt.mpr (square ▸ sq_nonneg root))
  · rw [List.mem_singleton]
    constructor
    · rintro rfl
      exact ⟨_, rfl, (through _).mpr ((quadratic_eq_zero_iff_of_discrim_eq_zero leading zero _).mpr
        rfl)⟩
    · rintro ⟨t, rfl, meets⟩
      rw [(quadratic_eq_zero_iff_of_discrim_eq_zero leading zero t).mp ((through t).mp meets)]
  · have roots := fun t => quadratic_eq_zero_iff leading
      (SquareRoot.square _ (not_lt.mp negative)).symm t
    rw [List.mem_pair]
    constructor
    · rintro (rfl | rfl)
      · exact ⟨_, rfl, (through _).mpr ((roots _).mpr (Or.inl rfl))⟩
      · exact ⟨_, rfl, (through _).mpr ((roots _).mpr (Or.inr rfl))⟩
    · rintro ⟨t, rfl, meets⟩
      rcases (roots t).mp ((through t).mp meets) with same | same
      · exact Or.inl (by rw [same])
      · exact Or.inr (by rw [same])

theorem line_circle_nodup (circle : Circle K) (point1 point2 : CGPoint K) :
    (findLineCircleIntersections circle.x circle.y circle.r point1 point2).Nodup := by
  simp only [findLineCircleIntersections]
  split_ifs with missed zero
  · exact List.nodup_nil
  · exact List.nodup_singleton _
  · rw [not_or, not_le, not_lt] at missed
    have tiny : (0 : K) ≤ nearlyOne := div_nonneg (Nat.cast_nonneg 1) (Nat.cast_nonneg 10000000)
    have leading : Line.A point1 point2 ≠ 0 := (tiny.trans_lt missed.1).ne'
    rw [List.nodup_cons, List.mem_singleton]
    refine ⟨fun same => zero ?_, List.nodup_singleton _⟩
    have parameters := line_point_inj point1 point2 leading _ _ same
    rw [div_left_inj' (mul_ne_zero two_ne_zero leading)] at parameters
    have root := SquareRoot.square _ missed.2
    rw [← root, mul_self_eq_zero]
    linarith

/-- Exactly the points of the line that lie on the circle are returned, each once,
    unless the two points that give the line are nearly one. -/
theorem line_circle_exact (circle : Circle K) (point1 point2 : CGPoint K) :
    (findLineCircleIntersections circle.x circle.y circle.r point1 point2).Nodup ∧
      ∀ point, point ∈ findLineCircleIntersections circle.x circle.y circle.r point1 point2 ↔
        nearlyOne < Line.A point1 point2 ∧ (∃ t, point = linePoint point1 point2 t) ∧
          circle.Through point := by
  refine ⟨line_circle_nodup circle point1 point2, fun point => ?_⟩
  by_cases apart : nearlyOne < Line.A point1 point2
  · rw [mem_line_circle_iff circle point1 point2 point apart, and_iff_right apart,
      exists_and_right]
  · refine iff_of_false ?_ fun found => apart found.1
    simp only [findLineCircleIntersections, not_lt.mp apart, true_or, if_true]
    exact List.not_mem_nil

theorem line_circle_exact_unit :
    (findLineCircleIntersections 0 0 1 (⟨0, 0⟩ : CGPoint ℝ) ⟨1, 0⟩).Nodup ∧
      ∀ point, point ∈ findLineCircleIntersections 0 0 1 (⟨0, 0⟩ : CGPoint ℝ) ⟨1, 0⟩ ↔
        nearlyOne < Line.A (⟨0, 0⟩ : CGPoint ℝ) ⟨1, 0⟩ ∧
          (∃ t, point = linePoint ⟨0, 0⟩ ⟨1, 0⟩ t) ∧ Circle.Through ⟨0, 0, 1⟩ point :=
  line_circle_exact ⟨0, 0, 1⟩ ⟨0, 0⟩ ⟨1, 0⟩

end Line
end RelicRace
