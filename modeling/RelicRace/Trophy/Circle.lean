import Mathlib.Algebra.Order.Field.Basic
import Mathlib.Algebra.Order.Group.Unbundled.Abs
import Mathlib.Analysis.Real.Sqrt
import Mathlib.Tactic.Linarith
import Mathlib.Tactic.LinearCombination
import RelicRace.Tiles.TileManager

/-!
`intersectTwoCircles`, in exact arithmetic. The square root belongs to the
number field, with its two laws. The common points of two circles lie on the
line through the crossings of the closed form, at two opposite parameters, and
the circles meet exactly when the square of that parameter is not negative.
-/

namespace RelicRace

class SquareRoot (K : Type) [Field K] [LinearOrder K] where
  sqrt : K → K
  nonneg : ∀ value, 0 ≤ sqrt value
  square : ∀ value, 0 ≤ value → sqrt value * sqrt value = value

noncomputable instance : SquareRoot ℝ where
  sqrt := Real.sqrt
  nonneg := Real.sqrt_nonneg
  square _ := Real.mul_self_sqrt

open SquareRoot

section Circles
variable {K : Type} [Field K] [LinearOrder K]

structure Circle (K : Type) where
  x : K
  y : K
  r : K

variable [SquareRoot K]

def intersectTwoCircles (c1 c2 : Circle K) : List (CGPoint K) :=
  let centerdx := c1.x - c2.x
  let centerdy := c1.y - c2.y
  let R := sqrt (centerdx * centerdx + centerdy * centerdy)
  if ¬ (|c1.r - c2.r| ≤ R ∧ R ≤ c1.r + c2.r) then []
  else
    let R2 := R * R
    let R4 := R2 * R2
    let a := (c1.r * c1.r - c2.r * c2.r) / (2 * R2)
    let r2r2 := c1.r * c1.r - c2.r * c2.r
    let c := sqrt (2 * (c1.r * c1.r + c2.r * c2.r) / R2 - (r2r2 * r2r2) / R4 - 1)
    let fx := (c1.x + c2.x) / 2 + a * (c2.x - c1.x)
    let gx := c * (c2.y - c1.y) / 2
    let ix1 := fx + gx
    let ix2 := fx - gx
    let fy := (c1.y + c2.y) / 2 + a * (c2.y - c1.y)
    let gy := c * (c1.x - c2.x) / 2
    let iy1 := fy + gy
    let iy2 := fy - gy
    if gy = 0 ∧ gx = 0 then [⟨ix1, iy1⟩] else [⟨ix1, iy1⟩, ⟨ix2, iy2⟩]

variable [IsStrictOrderedRing K]

/-- Circles whose centres are further apart than both radii reach do not meet. -/
theorem far_circles_miss (c1 c2 : Circle K)
    (far : (c1.r + c2.r) * (c1.r + c2.r) <
      (c1.x - c2.x) * (c1.x - c2.x) + (c1.y - c2.y) * (c1.y - c2.y)) :
    intersectTwoCircles c1 c2 = [] := by
  have positive : 0 ≤ (c1.x - c2.x) * (c1.x - c2.x) + (c1.y - c2.y) * (c1.y - c2.y) :=
    add_nonneg (mul_self_nonneg _) (mul_self_nonneg _)
  have apart : c1.r + c2.r <
      sqrt ((c1.x - c2.x) * (c1.x - c2.x) + (c1.y - c2.y) * (c1.y - c2.y)) := by
    apply lt_of_mul_self_lt_mul_self₀ (SquareRoot.nonneg _)
    rwa [SquareRoot.square _ positive]
  rw [intersectTwoCircles, if_pos]
  exact fun meets => absurd meets.2 (not_le.mpr apart)

/-! ### The common points of two circles -/

def Circle.Through (circle : Circle K) (point : CGPoint K) : Prop :=
  (point.x - circle.x) * (point.x - circle.x) + (point.y - circle.y) * (point.y - circle.y) =
    circle.r * circle.r

/-- The square of the distance of the centres. -/
def centreSquare (c1 c2 : Circle K) : K :=
  (c1.x - c2.x) * (c1.x - c2.x) + (c1.y - c2.y) * (c1.y - c2.y)

/-- The guard that `intersectTwoCircles` passes when it does not return early. -/
def Meets (c1 c2 : Circle K) : Prop :=
  |c1.r - c2.r| ≤ sqrt (centreSquare c1 c2) ∧ sqrt (centreSquare c1 c2) ≤ c1.r + c2.r

instance (c1 c2 : Circle K) : Decidable (Meets c1 c2) :=
  inferInstanceAs (Decidable (_ ∧ _))

/-- What stands under the square root for `c`. -/
def underRoot (c1 c2 : Circle K) : K :=
  let R := sqrt (centreSquare c1 c2)
  let R2 := R * R
  let R4 := R2 * R2
  let r2r2 := c1.r * c1.r - c2.r * c2.r
  2 * (c1.r * c1.r + c2.r * c2.r) / R2 - (r2r2 * r2r2) / R4 - 1

/-- The point of the closed form for a value of `c`, of either sign. -/
def crossing (c1 c2 : Circle K) (c : K) : CGPoint K :=
  let R := sqrt (centreSquare c1 c2)
  let a := (c1.r * c1.r - c2.r * c2.r) / (2 * (R * R))
  ⟨(c1.x + c2.x) / 2 + a * (c2.x - c1.x) + c * (c2.y - c1.y) / 2,
    (c1.y + c2.y) / 2 + a * (c2.y - c1.y) + c * (c1.x - c2.x) / 2⟩

omit [IsStrictOrderedRing K] in
theorem intersect_early (c1 c2 : Circle K) (apart : ¬ Meets c1 c2) :
    intersectTwoCircles c1 c2 = [] := by
  rw [intersectTwoCircles]
  exact if_pos apart

/-- Past the guard the two crossings are returned, which are one when `c` is zero. -/
theorem mem_intersect_iff (c1 c2 : Circle K) (meets : Meets c1 c2) (point : CGPoint K) :
    point ∈ intersectTwoCircles c1 c2 ↔ point = crossing c1 c2 (sqrt (underRoot c1 c2)) ∨
      point = crossing c1 c2 (-sqrt (underRoot c1 c2)) := by
  have back : crossing c1 c2 (-sqrt (underRoot c1 c2)) =
      ⟨(c1.x + c2.x) / 2 + (c1.r * c1.r - c2.r * c2.r) /
          (2 * (sqrt (centreSquare c1 c2) * sqrt (centreSquare c1 c2))) * (c2.x - c1.x) -
          sqrt (underRoot c1 c2) * (c2.y - c1.y) / 2,
        (c1.y + c2.y) / 2 + (c1.r * c1.r - c2.r * c2.r) /
          (2 * (sqrt (centreSquare c1 c2) * sqrt (centreSquare c1 c2))) * (c2.y - c1.y) -
          sqrt (underRoot c1 c2) * (c1.x - c2.x) / 2⟩ := by
    rw [crossing]
    ext
    · ring
    · ring
  rw [back]
  change point ∈ (if ¬ Meets c1 c2 then _ else _) ↔ _
  rw [if_neg (not_not.mpr meets)]
  change point ∈ (if sqrt (underRoot c1 c2) * (c1.x - c2.x) / 2 = 0 ∧
    sqrt (underRoot c1 c2) * (c2.y - c1.y) / 2 = 0 then _ else _) ↔ _
  split
  · rename_i tangent
    change point ∈ [crossing c1 c2 (sqrt (underRoot c1 c2))] ↔ _
    rw [List.mem_singleton, crossing]
    simp only [tangent.1, tangent.2, add_zero, sub_zero, or_self]
  · rw [List.mem_cons, List.mem_singleton]
    rfl

section Apart
variable {c1 c2 : Circle K}

omit [SquareRoot K] in
theorem centre_square_pos (distinct : c1.x ≠ c2.x ∨ c1.y ≠ c2.y) : 0 < centreSquare c1 c2 := by
  rw [centreSquare]
  rcases distinct with columns | rows
  · exact add_pos_of_pos_of_nonneg (mul_self_pos.mpr (sub_ne_zero.mpr columns))
      (mul_self_nonneg _)
  · exact add_pos_of_nonneg_of_pos (mul_self_nonneg _)
      (mul_self_pos.mpr (sub_ne_zero.mpr rows))

theorem root_square (c1 c2 : Circle K) :
    sqrt (centreSquare c1 c2) * sqrt (centreSquare c1 c2) = centreSquare c1 c2 :=
  SquareRoot.square _ (add_nonneg (mul_self_nonneg _) (mul_self_nonneg _))

/-- The value under the root has the sign of two differences of squares. -/
theorem under_root_factors (distinct : c1.x ≠ c2.x ∨ c1.y ≠ c2.y) :
    underRoot c1 c2 * (centreSquare c1 c2 * centreSquare c1 c2) =
      ((c1.r + c2.r) * (c1.r + c2.r) - centreSquare c1 c2) *
        (centreSquare c1 c2 - (c1.r - c2.r) * (c1.r - c2.r)) := by
  have positive := (centre_square_pos distinct).ne'
  simp only [underRoot, root_square]
  field_simp
  ring

theorem meets_iff_under_root (distinct : c1.x ≠ c2.x ∨ c1.y ≠ c2.y) (first : 0 ≤ c1.r)
    (second : 0 ≤ c2.r) : Meets c1 c2 ↔ 0 ≤ underRoot c1 c2 := by
  have positive := centre_square_pos distinct
  have factors := under_root_factors distinct
  have ordered : (c1.r - c2.r) * (c1.r - c2.r) ≤ (c1.r + c2.r) * (c1.r + c2.r) := by
    have product := mul_nonneg first second
    linarith
  have low : |c1.r - c2.r| ≤ sqrt (centreSquare c1 c2) ↔
      (c1.r - c2.r) * (c1.r - c2.r) ≤ centreSquare c1 c2 := by
    rw [mul_self_le_mul_self_iff (abs_nonneg (c1.r - c2.r)) (SquareRoot.nonneg _),
      abs_mul_abs_self, root_square]
  have high : sqrt (centreSquare c1 c2) ≤ c1.r + c2.r ↔
      centreSquare c1 c2 ≤ (c1.r + c2.r) * (c1.r + c2.r) := by
    rw [mul_self_le_mul_self_iff (SquareRoot.nonneg _) (add_nonneg first second), root_square]
  have sign : 0 ≤ underRoot c1 c2 ↔ 0 ≤ ((c1.r + c2.r) * (c1.r + c2.r) - centreSquare c1 c2) *
      (centreSquare c1 c2 - (c1.r - c2.r) * (c1.r - c2.r)) := by
    rw [← factors]
    exact (mul_nonneg_iff_of_pos_right (mul_pos positive positive)).symm
  rw [Meets, low, high, sign]
  constructor
  · rintro ⟨inner, outer⟩
    exact mul_nonneg (sub_nonneg.mpr outer) (sub_nonneg.mpr inner)
  · intro product
    -- Both differences are negative only if the squares of the radii are in the wrong order.
    rcases mul_nonneg_iff.mp product with ⟨outer, inner⟩ | ⟨outer, inner⟩
    · exact ⟨sub_nonneg.mp inner, sub_nonneg.mp outer⟩
    · have outer := sub_nonpos.mp outer
      have inner := sub_nonpos.mp inner
      exact ⟨ordered.trans outer, inner.trans ordered⟩

/-- The crossings for a square root of that value lie on both circles. -/
theorem crossing_through (distinct : c1.x ≠ c2.x ∨ c1.y ≠ c2.y) (c : K)
    (root : c * c = underRoot c1 c2) :
    c1.Through (crossing c1 c2 c) ∧ c2.Through (crossing c1 c2 c) := by
  have positive := (centre_square_pos distinct).ne'
  obtain ⟨a, share⟩ : ∃ a, a = (c1.r * c1.r - c2.r * c2.r) / (2 * centreSquare c1 c2) := ⟨_, rfl⟩
  have along : 2 * a * centreSquare c1 c2 = c1.r * c1.r - c2.r * c2.r := by
    rw [share]
    field_simp
  have across : c * c * centreSquare c1 c2 = 2 * (c1.r * c1.r + c2.r * c2.r) -
      2 * a * (c1.r * c1.r - c2.r * c2.r) - centreSquare c1 c2 := by
    rw [root, share, underRoot]
    simp only [root_square]
    field_simp
  simp only [Circle.Through, crossing, root_square, ← share]
  simp only [centreSquare] at along across
  constructor
  · linear_combination (1 / 4) * across + (1 + a) / 2 * along
  · linear_combination (1 / 4) * across + (a - 1) / 2 * along

/-- Every common point is a crossing for such a square root. -/
theorem through_crossing (distinct : c1.x ≠ c2.x ∨ c1.y ≠ c2.y) (point : CGPoint K)
    (first : c1.Through point) (second : c2.Through point) :
    ∃ c, c * c = underRoot c1 c2 ∧ point = crossing c1 c2 c := by
  have positive := (centre_square_pos distinct).ne'
  simp only [Circle.Through] at first second
  -- The parts of the point along and across the line of the centres.
  obtain ⟨across, isAcross⟩ : ∃ across, across =
    (point.x - c1.x) * (c2.y - c1.y) - (point.y - c1.y) * (c2.x - c1.x) := ⟨_, rfl⟩
  have along : 2 * ((point.x - c1.x) * (c2.x - c1.x) + (point.y - c1.y) * (c2.y - c1.y)) =
      c1.r * c1.r - c2.r * c2.r + centreSquare c1 c2 := by
    rw [centreSquare]
    linear_combination first - second
  have length : 4 * (across * across) = 4 * (c1.r * c1.r) * centreSquare c1 c2 -
      (c1.r * c1.r - c2.r * c2.r + centreSquare c1 c2) *
        (c1.r * c1.r - c2.r * c2.r + centreSquare c1 c2) := by
    rw [← along, isAcross, ← first, centreSquare]
    ring
  have column : (point.x - c1.x) * centreSquare c1 c2 =
      (c1.r * c1.r - c2.r * c2.r + centreSquare c1 c2) / 2 * (c2.x - c1.x) +
        across * (c2.y - c1.y) := by
    rw [← along, isAcross, centreSquare]
    ring
  have row : (point.y - c1.y) * centreSquare c1 c2 =
      (c1.r * c1.r - c2.r * c2.r + centreSquare c1 c2) / 2 * (c2.y - c1.y) +
        across * (c1.x - c2.x) := by
    rw [← along, isAcross, centreSquare]
    ring
  refine ⟨2 * across / centreSquare c1 c2, ?_, ?_⟩
  · rw [underRoot]
    simp only [root_square]
    field_simp
    linear_combination length
  · rw [crossing]
    simp only [root_square]
    ext
    · field_simp
      linear_combination 2 * column
    · field_simp
      linear_combination 2 * row

end Apart

/-- Circles with one radius that touch return the middle of their centres. -/
theorem touching_circles (c1 c2 : Circle K) (same : c1.r = c2.r) (positive : 0 < c1.r)
    (distinct : c1.x ≠ c2.x ∨ c1.y ≠ c2.y)
    (touch : centreSquare c1 c2 = (c1.r + c2.r) * (c1.r + c2.r)) :
    intersectTwoCircles c1 c2 = [⟨(c1.x + c2.x) / 2, (c1.y + c2.y) / 2⟩] := by
  have square := (centre_square_pos distinct).ne'
  have vanishes : underRoot c1 c2 = 0 := by
    have factors := under_root_factors distinct
    rw [← touch, sub_self, zero_mul] at factors
    exact (mul_eq_zero.mp factors).resolve_right (mul_ne_zero square square)
  have root : sqrt (underRoot c1 c2) = 0 := by
    rw [vanishes]
    exact mul_self_eq_zero.mp (SquareRoot.square 0 le_rfl)
  have meets : Meets c1 c2 := by
    rw [meets_iff_under_root distinct positive.le (same ▸ positive.le), vanishes]
  have middle : crossing c1 c2 (sqrt (underRoot c1 c2)) =
      ⟨(c1.x + c2.x) / 2, (c1.y + c2.y) / 2⟩ := by
    rw [root, crossing]
    simp [same]
  change (if ¬ Meets c1 c2 then [] else if sqrt (underRoot c1 c2) * (c1.x - c2.x) / 2 = 0 ∧
    sqrt (underRoot c1 c2) * (c2.y - c1.y) / 2 = 0 then [crossing c1 c2 (sqrt (underRoot c1 c2))]
    else _) = _
  rw [if_neg (not_not.mpr meets), if_pos (by simp [root]), middle]

/-- For circles with different centres exactly the common points are returned,
    and past the guard no root of a negative number is taken. -/
theorem intersect_two_circles_exact (c1 c2 : Circle K) (first : 0 ≤ c1.r) (second : 0 ≤ c2.r)
    (distinct : c1.x ≠ c2.x ∨ c1.y ≠ c2.y) :
    (∀ point ∈ intersectTwoCircles c1 c2, c1.Through point ∧ c2.Through point) ∧
      (∀ point, c1.Through point → c2.Through point → point ∈ intersectTwoCircles c1 c2) ∧
      (Meets c1 c2 → 0 ≤ underRoot c1 c2) := by
  have sign := meets_iff_under_root distinct first second
  refine ⟨?_, ?_, sign.mp⟩
  · intro point found
    by_cases meets : Meets c1 c2
    · have square := SquareRoot.square (underRoot c1 c2) (sign.mp meets)
      rcases (mem_intersect_iff c1 c2 meets point).mp found with rfl | rfl
      · exact crossing_through distinct _ square
      · exact crossing_through distinct _ (by rw [neg_mul_neg, square])
    · rw [intersect_early c1 c2 meets] at found
      cases found
  · intro point through through'
    obtain ⟨c, root, rfl⟩ := through_crossing distinct point through through'
    have positive : 0 ≤ underRoot c1 c2 := root ▸ mul_self_nonneg c
    rw [mem_intersect_iff c1 c2 (sign.mpr positive)]
    -- The parameter is one of the two square roots.
    rcases mul_self_eq_mul_self_iff.mp (root.trans (SquareRoot.square _ positive).symm) with
      same | opposite
    · exact Or.inl (by rw [same])
    · exact Or.inr (by rw [opposite])

theorem intersect_unit_circles :
    (∀ point ∈ intersectTwoCircles (⟨0, 0, 1⟩ : Circle ℝ) ⟨1, 0, 1⟩,
        Circle.Through ⟨0, 0, 1⟩ point ∧ Circle.Through ⟨1, 0, 1⟩ point) ∧
      (∀ point, Circle.Through (⟨0, 0, 1⟩ : Circle ℝ) point → Circle.Through ⟨1, 0, 1⟩ point →
        point ∈ intersectTwoCircles ⟨0, 0, 1⟩ ⟨1, 0, 1⟩) ∧
      (Meets (⟨0, 0, 1⟩ : Circle ℝ) ⟨1, 0, 1⟩ → 0 ≤ underRoot (⟨0, 0, 1⟩ : Circle ℝ) ⟨1, 0, 1⟩) :=
  intersect_two_circles_exact ⟨0, 0, 1⟩ ⟨1, 0, 1⟩ zero_le_one zero_le_one (Or.inl zero_ne_one)

end Circles
end RelicRace
