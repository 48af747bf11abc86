import RelicRace.Trophy.Computed

/-!
`CircleBasedRandomPositioning` in exact arithmetic. The circles have half the larger
coordinate distance, so they touch when the actors share one coordinate and miss
each other otherwise; two common points never occur. The target is then drawn on
the vertical line through the middle. This is the computed placement with the
operations of a field.
-/

namespace RelicRace
open Library

section Target
variable {K : Type} [Field K] [LinearOrder K] [SquareRoot K]

namespace TrophyScene

/-- The actors differ in exactly one coordinate. -/
def Aligned (scene : TrophyScene K) : Prop :=
  ¬ (scene.player1.x = scene.opponent.x ↔ scene.player1.y = scene.opponent.y)

instance (scene : TrophyScene K) : Decidable scene.Aligned :=
  inferInstanceAs (Decidable (¬ _))

def drawnHeight (scene : TrophyScene K) (draw : TrophyDraw K) : K :=
  -scene.frame.height / 2 + draw.fraction * scene.frame.height

/-- The point at the drawn height on the vertical line through the middle. -/
def drawnPoint (scene : TrophyScene K) (draw : TrophyDraw K) : CGPoint K :=
  ⟨(scene.player1.x + scene.opponent.x) / 2, scene.drawnHeight draw⟩

/-- `newPos`, unless the source defers to the last fallback before. -/
def newPos [FloorRing K] (scene : TrophyScene K) (draw : TrophyDraw K) :
    Except Fault (Option (CGPoint K)) :=
  let circle1 := scene.circles.1
  let circle2 := scene.circles.2
  let solutions := intersectTwoCircles circle1 circle2
  if (circle1.x = circle2.x ∧ circle1.y = circle2.y) ∨ solutions.isEmpty then .ok none
  else do
    let point ← scene.circlePoint solutions draw
    return some point

theorem circle_based_eq [FloorRing K] (scene : TrophyScene K) (draw : TrophyDraw K) :
    scene.circleBasedRandomPositioning draw = (do
      match ← scene.newPos draw with
      | none => scene.ximingsRandomTrophyPositioning draw
      | some point => scene.circleTile point draw) := by
  rw [circleBasedRandomPositioning, newPos]
  split
  · rfl
  · rw [bind_assoc]
    rfl

variable [IsStrictOrderedRing K]

/-- Circles around aligned actors touch in the middle. -/
theorem aligned_circles (scene : TrophyScene K) (aligned : scene.Aligned) :
    intersectTwoCircles scene.circles.1 scene.circles.2 =
      [⟨(scene.player1.x + scene.opponent.x) / 2, (scene.player1.y + scene.opponent.y) / 2⟩] := by
  by_cases column : scene.player1.x = scene.opponent.x
  · have row : scene.player1.y ≠ scene.opponent.y := fun row => aligned (iff_of_true column row)
    have height : 0 < |scene.opponent.y - scene.player1.y| := abs_pos.mpr (sub_ne_zero.mpr row.symm)
    have width : |scene.opponent.x - scene.player1.x| = 0 := by rw [column, sub_self, abs_zero]
    have radius : scene.circles.1.r = |scene.opponent.y - scene.player1.y| / 2 := by
      simp only [circles, width, not_lt.mpr height.le, if_false]
    refine touching_circles _ _ rfl (radius ▸ half_pos height) (Or.inr row) ?_
    have radius' : scene.circles.2.r = |scene.opponent.y - scene.player1.y| / 2 := radius
    rw [radius, radius', add_halves, abs_mul_abs_self]
    simp only [centreSquare, circles, column]
    ring
  · have row : scene.player1.y = scene.opponent.y := by
      by_contra row
      exact aligned (iff_of_false column row)
    have width : 0 < |scene.opponent.x - scene.player1.x| :=
      abs_pos.mpr (sub_ne_zero.mpr (Ne.symm column))
    have height : |scene.opponent.y - scene.player1.y| = 0 := by rw [row, sub_self, abs_zero]
    have radius : scene.circles.1.r = |scene.opponent.x - scene.player1.x| / 2 := by
      simp only [circles, height, width, if_true]
    refine touching_circles _ _ rfl (radius ▸ half_pos width) (Or.inl column) ?_
    have radius' : scene.circles.2.r = |scene.opponent.x - scene.player1.x| / 2 := radius
    rw [radius, radius', add_halves, abs_mul_abs_self]
    simp only [centreSquare, circles, row]
    ring

variable [FloorRing K]

/-- The circles give a point exactly for aligned actors, and always the drawn one. -/
theorem new_pos_eq (scene : TrophyScene K) (draw : TrophyDraw K) :
    scene.newPos draw = .ok (if scene.Aligned then some (scene.drawnPoint draw) else none) := by
  rw [newPos]
  by_cases aligned : scene.Aligned
  · have apart : ¬ (scene.circles.1.x = scene.circles.2.x ∧
        scene.circles.1.y = scene.circles.2.y) := fun same => aligned (iff_of_true same.1 same.2)
    have range : -scene.frame.height / 2 < scene.frame.height / 2 := by
      have tall := scene.frame.tall
      linarith
    have height : -scene.frame.height / 2 + draw.fraction *
        (scene.frame.height / 2 - -scene.frame.height / 2) = scene.drawnHeight draw := by
      rw [drawnHeight]
      ring
    rw [if_pos aligned, aligned_circles scene aligned, if_neg (by simp [apart]), circlePoint,
      TrophyDraw.inRange, if_pos range, run_ok, height]
    rfl
  · rw [if_neg aligned, if_pos]
    by_cases column : scene.player1.x = scene.opponent.x
    · exact Or.inl ⟨column, (not_not.mp aligned).mp column⟩
    · have row : scene.player1.y ≠ scene.opponent.y := fun row =>
        column ((not_not.mp aligned).mpr row)
      exact Or.inr (by rw [circles_miss scene column row]; rfl)

/-! ### The target is fair -/

def distance (first second : CGPoint K) : K :=
  SquareRoot.sqrt ((first.x - second.x) * (first.x - second.x) +
    (first.y - second.y) * (first.y - second.y))

/-- Whenever the circles give a target it is equally far from both actors. -/
def FairTarget (scene : TrophyScene K) (draw : TrophyDraw K) : Prop :=
  ∀ target, scene.newPos draw = .ok (some target) →
    distance target scene.player1 = distance target scene.opponent

omit [IsStrictOrderedRing K] [FloorRing K] in
theorem sqrt_inj {first second : K} (low : 0 ≤ first) (low' : 0 ≤ second) :
    SquareRoot.sqrt first = SquareRoot.sqrt second ↔ first = second := by
  constructor
  · intro same
    rw [← SquareRoot.square first low, ← SquareRoot.square second low', same]
  · exact fun same => same ▸ rfl

/-- A line that is not the perpendicular bisector is right at one height only. -/
theorem fair_target_iff (scene : TrophyScene K) (draw : TrophyDraw K) :
    scene.FairTarget draw ↔
      (scene.player1.x = scene.opponent.x → scene.player1.y ≠ scene.opponent.y →
        scene.drawnHeight draw = (scene.player1.y + scene.opponent.y) / 2) := by
  have fair : distance (scene.drawnPoint draw) scene.player1 =
      distance (scene.drawnPoint draw) scene.opponent ↔ scene.player1.y = scene.opponent.y ∨
        scene.drawnHeight draw = (scene.player1.y + scene.opponent.y) / 2 := by
    rw [distance, distance, sqrt_inj (add_nonneg (mul_self_nonneg _) (mul_self_nonneg _))
      (add_nonneg (mul_self_nonneg _) (mul_self_nonneg _)), drawnPoint, ← sub_eq_zero]
    have factors : ((scene.player1.x + scene.opponent.x) / 2 - scene.player1.x) *
        ((scene.player1.x + scene.opponent.x) / 2 - scene.player1.x) +
        (scene.drawnHeight draw - scene.player1.y) * (scene.drawnHeight draw - scene.player1.y) -
        (((scene.player1.x + scene.opponent.x) / 2 - scene.opponent.x) *
          ((scene.player1.x + scene.opponent.x) / 2 - scene.opponent.x) +
        (scene.drawnHeight draw - scene.opponent.y) *
          (scene.drawnHeight draw - scene.opponent.y)) =
        2 * ((scene.opponent.y - scene.player1.y) *
          (scene.drawnHeight draw - (scene.player1.y + scene.opponent.y) / 2)) := by
      ring
    rw [factors, mul_eq_zero, or_iff_right two_ne_zero, mul_eq_zero, sub_eq_zero, sub_eq_zero,
      eq_comm]
  have targets : scene.FairTarget draw ↔ (scene.Aligned →
      distance (scene.drawnPoint draw) scene.player1 =
        distance (scene.drawnPoint draw) scene.opponent) := by
    rw [FairTarget, new_pos_eq]
    by_cases aligned : scene.Aligned
    · simp [aligned]
    · simp [aligned]
  rw [targets, fair, Aligned]
  tauto

end TrophyScene
end Target

/-! ### The placement in exact arithmetic -/

section Exact
variable (K : Type) [Field K] [LinearOrder K] [FloorRing K] [SquareRoot K]

/-- The exact operations of a field. -/
@[reducible] def CGFloat.exact : CGFloat K where
  toZero := inferInstance
  toAdd := inferInstance
  toSub := inferInstance
  toMul := inferInstance
  toDiv := inferInstance
  toNeg := inferInstance
  toLT := inferInstance
  toLE := inferInstance
  ofNat count := (count : K)
  ofInt whole := (whole : K)
  abs value := |value|
  sqrt := SquareRoot.sqrt
  rounded value := (RelicRace.rounded value : K)
  toInt? value := some (if 0 ≤ value then ⌊value⌋ else ⌈value⌉)
  Same first second := first = second
  decideSame _ _ := inferInstance
  decideLT _ _ := inferInstance
  decideLE _ _ := inferInstance

end Exact

section Agreement
variable {K : Type} [Field K] [LinearOrder K] [FloorRing K] [SquareRoot K]
  [IsStrictOrderedRing K]

attribute [local instance] CGFloat.exact

/-- A number at a fraction of a range lies in it. -/
def TrophyDraw.computed (draw : TrophyDraw K) : Computed.Draw K where
  element := draw.element
  inRange := draw.inRange
  within lower upper value drawn := by
    rw [inRange] at drawn
    split at drawn
    · rename_i range
      have length := sub_pos.mpr range
      have share := mul_lt_of_lt_one_left length draw.high
      obtain rfl := Except.ok.inj drawn
      exact ⟨le_add_of_nonneg_right (mul_nonneg draw.low length.le), by linarith⟩
    · cases drawn

omit [IsStrictOrderedRing K] in
theorem computed_intersect (c1 c2 : Circle K) :
    Computed.intersectTwoCircles c1 c2 = intersectTwoCircles c1 c2 := by
  have one : (CGFloat.ofNat 1 : K) = 1 := Nat.cast_one
  rw [Computed.intersectTwoCircles, one]
  rfl

theorem computed_index (frame : SceneFrame K) (position : CGPoint K) :
    Computed.indexFrom frame position = .ok (frame.indexFrom position) := by
  have whole (value : K) :
      Computed.integer (CGFloat.rounded value) = .ok (rounded value) := by
    have same : CGFloat.toInt? (CGFloat.rounded value) = some (rounded value) := by
      change some (if (0 : K) ≤ (rounded value : K) then ⌊(rounded value : K)⌋
        else ⌈(rounded value : K)⌉) = _
      rw [Int.floor_intCast, Int.ceil_intCast, ite_self]
    rw [Computed.integer, same]
  simp only [Computed.indexFrom, whole, run_ok]
  rfl

theorem computed_point (scene : TrophyScene K) (draw : TrophyDraw K) (first second : CGPoint K) :
    Computed.point scene draw.computed first second = scene.point first second draw := by
  have level (m : K) : CGFloat.Same (CGFloat.rounded m) 0 ↔ rounded m = 0 := Int.cast_eq_zero
  simp only [Computed.point, TrophyScene.point, level]
  rfl

theorem computed_circle_point (scene : TrophyScene K) (draw : TrophyDraw K)
    (solutions : List (CGPoint K)) :
    Computed.circlePoint scene draw.computed solutions = scene.circlePoint solutions draw := by
  rcases solutions with _ | ⟨first, _ | ⟨second, _ | ⟨third, rest⟩⟩⟩
  · rfl
  · rfl
  · exact computed_point scene draw first second
  · rfl

/-- Computed exactly, the placement is the one of the field. -/
theorem computed_circle_based (scene : TrophyScene K) (draw : TrophyDraw K) :
    Computed.circleBasedRandomPositioning scene draw.computed =
      scene.circleBasedRandomPositioning draw := by
  have tile (point : CGPoint K) :
      Computed.circleTile scene draw.computed point = scene.circleTile point draw := by
    rw [Computed.circleTile, computed_index, run_ok]
    rfl
  simp only [Computed.circleBasedRandomPositioning, computed_intersect, computed_circle_point, tile]
  rfl

namespace TrophyScene

/-- The placement leaves the trophy at the centre of a floor tile. -/
def Lands (data : Grid MazeTile) (scene : TrophyScene K) (placed : Except Fault (CGPoint K)) :
    Prop :=
  ∃ place, IsSpace data place ∧ placed = .ok (scene.frame.tilePosition place)

/-- The placement is left to the last fallback unless the actors are aligned; then the
    target is the tile of the drawn point. -/
theorem computed_aligned (scene : TrophyScene K) (draw : TrophyDraw K) :
    (Computed.Defers scene ↔ ¬ scene.Aligned) ∧ (scene.Aligned → ∀ place,
      Computed.Targets scene draw.computed place ↔
        place = scene.frame.indexFrom (scene.drawnPoint draw)) := by
  have solved : Computed.solutions scene = intersectTwoCircles scene.circles.1 scene.circles.2 :=
    computed_intersect _ _
  have defers : Computed.Defers scene ↔ (scene.circles.1.x = scene.circles.2.x ∧
      scene.circles.1.y = scene.circles.2.y) ∨
      (intersectTwoCircles scene.circles.1 scene.circles.2).isEmpty := by
    rw [Computed.Defers, solved, List.isEmpty_iff]
    exact Iff.rfl
  have placed := new_pos_eq scene draw
  rw [newPos] at placed
  by_cases deferred : Computed.Defers scene
  · rw [if_pos (defers.mp deferred), Except.ok.injEq] at placed
    have apart : ¬ scene.Aligned := fun aligned => by simp [aligned] at placed
    exact ⟨iff_of_true deferred apart, fun aligned => absurd aligned apart⟩
  · rw [if_neg (deferred ∘ defers.mpr), run_bind_iff] at placed
    obtain ⟨point, drawn, same⟩ := placed
    have aligned : scene.Aligned := by
      by_contra apart
      simp [apart] at same
    rw [if_pos aligned, run_pure, Except.ok.injEq, Option.some.injEq] at same
    refine ⟨iff_of_false deferred (not_not_intro aligned), fun _ place => ?_⟩
    simp only [Computed.Targets, solved, computed_circle_point, drawn, Except.ok.injEq,
      exists_eq_left', computed_index, same]
    exact eq_comm

variable {data : Grid MazeTile} {manager : TileManager}

/-- In exact arithmetic the target of aligned actors decides. -/
theorem exact_lands_iff (shows : manager.Shows data) (scanned : Maze.Scanned data)
    (scene : TrophyScene K) (managed : scene.tileManager = manager) (draw : TrophyDraw K) :
    Lands data scene (scene.circleBasedRandomPositioning draw) ↔
      (scene.Aligned → IsSpace data (scene.frame.indexFrom (scene.drawnPoint draw)) ∨
        Sheltered data (scene.frame.indexFrom (scene.drawnPoint draw))) := by
  obtain ⟨defers, targets⟩ := computed_aligned scene draw
  have lands := Computed.circle_based_lands_iff shows scanned scene managed draw.computed
  rw [computed_circle_based, defers] at lands
  refine lands.trans ?_
  by_cases aligned : scene.Aligned
  · simp only [aligned, not_true_eq_false, false_or, targets aligned, exists_eq_left, true_imp_iff]
  · exact iff_of_true (Or.inl aligned) fun aligned' => absurd aligned' aligned

end TrophyScene
end Agreement
/-! ### Actors in one column -/

namespace TrophyScene

/-- A scene around the origin whose tiles are unit squares. -/
noncomputable def realFrame : SceneFrame ℝ where
  midX := 0
  midY := 0
  width := (MAX_COLUMNS : ℝ)
  height := (MAX_ROWS : ℝ)
  wide := Nat.cast_pos.mpr (by decide)
  tall := Nat.cast_pos.mpr (by decide)

/-- The target is drawn in the first row of the tiles. -/
noncomputable def firstRowDraw : TrophyDraw ℝ := ⟨0, 1 / 42, by norm_num, by norm_num⟩

/-- Both actors in the first column of rooms, one at each end. -/
noncomputable def oneColumn (manager : TileManager) (graph : GKGridGraph) : TrophyScene ℝ where
  tileManager := manager
  mazeGraph := graph
  frame := realFrame
  player1 := realFrame.tilePosition ⟨1, 19⟩
  opponent := realFrame.tilePosition ⟨1, 1⟩

theorem one_column_aligned (manager : TileManager) (graph : GKGridGraph) :
    (oneColumn manager graph).Aligned := by
  intro same
  have rows := same.mp rfl
  norm_num [oneColumn, realFrame, SceneFrame.tilePosition, MAX_ROWS] at rows

theorem one_column_drawn (manager : TileManager) (graph : GKGridGraph) :
    (oneColumn manager graph).drawnPoint firstRowDraw = realFrame.tilePosition ⟨1, 0⟩ := by
  ext
  · norm_num [oneColumn, drawnPoint, realFrame, SceneFrame.tilePosition, SceneFrame.tileWidth,
      MAX_COLUMNS]
  · norm_num [oneColumn, drawnPoint, drawnHeight, firstRowDraw, realFrame,
      SceneFrame.tilePosition, SceneFrame.tileHeight, MAX_ROWS]

theorem one_column_fair_iff : FairTarget (oneColumn ⟨⟨[]⟩, []⟩ ⟨[]⟩) firstRowDraw ↔
    ((oneColumn ⟨⟨[]⟩, []⟩ ⟨[]⟩).player1.x = (oneColumn ⟨⟨[]⟩, []⟩ ⟨[]⟩).opponent.x →
      (oneColumn ⟨⟨[]⟩, []⟩ ⟨[]⟩).player1.y ≠ (oneColumn ⟨⟨[]⟩, []⟩ ⟨[]⟩).opponent.y →
        (oneColumn ⟨⟨[]⟩, []⟩ ⟨[]⟩).drawnHeight firstRowDraw =
          ((oneColumn ⟨⟨[]⟩, []⟩ ⟨[]⟩).player1.y + (oneColumn ⟨⟨[]⟩, []⟩ ⟨[]⟩).opponent.y) / 2) :=
  fair_target_iff _ _

theorem target_not_fair : ¬ ∀ (draws : Nat → Nat) (maze : Maze) (manager : TileManager),
    Maze.generate MAX_COLUMNS MAX_ROWS (Maze.roundBound MAX_COLUMNS MAX_ROWS) draws = .ok maze →
    TileManager.make maze.graph = .ok manager →
    ∀ (frame : SceneFrame ℝ) (player1 opponent : CGPoint ℝ) (draw : TrophyDraw ℝ),
      FairTarget ⟨manager, maze.graph, frame, player1, opponent⟩ draw := by
  intro fair
  obtain ⟨maze, manager, generated, made, -, -, -⟩ :=
    Maze.generate_with_tiles 0 fun _ => 0
  have drawn : (oneColumn manager maze.graph).newPos firstRowDraw =
      .ok (some (realFrame.tilePosition ⟨1, 0⟩)) := by
    rw [new_pos_eq, if_pos (one_column_aligned _ _), one_column_drawn]
  have same := fair (fun _ => 0) maze manager generated made realFrame _ _ firstRowDraw
    _ drawn
  rw [distance, distance, sqrt_inj (add_nonneg (mul_self_nonneg _) (mul_self_nonneg _))
    (add_nonneg (mul_self_nonneg _) (mul_self_nonneg _))] at same
  norm_num [realFrame, SceneFrame.tilePosition, SceneFrame.tileHeight, MAX_ROWS] at same

end TrophyScene
end RelicRace
