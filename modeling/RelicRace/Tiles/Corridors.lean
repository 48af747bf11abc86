import RelicRace.Maze.WellFormed

/-!
The corridors between the tiles: points on the way from one centre to the next,
the tile that `indexFrom` rounds them to, and the routes that
`GKGraph.findPath` returns.
-/

namespace RelicRace
open Library

/-- Two floor tiles that are connected, or one floor tile twice. -/
def Corridor (data : Grid MazeTile) (first second : GridPosition) : Prop :=
  IsSpace data first ∧ IsSpace data second ∧ (Joined data first second ∨ first = second)

theorem corridor_swap {width height : Nat} {data : Grid MazeTile}
    (laid : WellLaid width height data) {first second : GridPosition}
    (corridor : Corridor data first second) : Corridor data second first := by
  obtain ⟨here, there, linked⟩ := corridor
  exact ⟨there, here, linked.imp (joined_symm laid first second).mp Eq.symm⟩

section Segments
variable {K : Type} [Field K]

/-- The point that a share of the straight way from one point to another leads to. -/
def CGPoint.toward (source target : CGPoint K) (share : K) : CGPoint K :=
  ⟨source.x + share * (target.x - source.x), source.y + share * (target.y - source.y)⟩

theorem toward_start (source target : CGPoint K) : source.toward target 0 = source := by
  simp [CGPoint.toward]

variable [LinearOrder K]

def OnSegment (first second point : CGPoint K) : Prop :=
  ∃ share, 0 ≤ share ∧ share ≤ 1 ∧ point = first.toward second share

/-- The position lies between the centres of two connected floor tiles or on
    the centre of one. -/
def InCorridor (frame : SceneFrame K) (data : Grid MazeTile) (point : CGPoint K) : Prop :=
  ∃ first second, Corridor data first second ∧
    OnSegment (frame.tilePosition first) (frame.tilePosition second) point

variable [IsStrictOrderedRing K]

theorem on_segment_swap {first second point : CGPoint K} (on : OnSegment first second point) :
    OnSegment second first point := by
  obtain ⟨share, low, high, rfl⟩ := on
  refine ⟨1 - share, sub_nonneg.mpr high, sub_le_self 1 low, ?_⟩
  ext
  · simp only [CGPoint.toward]
    ring
  · simp only [CGPoint.toward]
    ring

/-- Who walks from a point of a segment to its end stays on the segment. -/
theorem toward_end_on_segment {first second point : CGPoint K}
    (on : OnSegment first second point) (share : K) (low : 0 ≤ share) (high : share ≤ 1) :
    OnSegment first second (point.toward second share) := by
  obtain ⟨start, startLow, startHigh, rfl⟩ := on
  have behind : 0 ≤ (1 - start) * (1 - share) :=
    mul_nonneg (sub_nonneg.mpr startHigh) (sub_nonneg.mpr high)
  refine ⟨1 - (1 - start) * (1 - share), ?_, sub_le_self 1 behind, ?_⟩
  · have less : (1 - start) * (1 - share) ≤ 1 :=
      mul_le_one₀ (sub_le_self 1 startLow) (sub_nonneg.mpr high) (sub_le_self 1 low)
    exact sub_nonneg.mpr less
  · ext
    · simp only [CGPoint.toward]
      ring
    · simp only [CGPoint.toward]
      ring

theorem on_segment_start (first second : CGPoint K) : OnSegment first second first :=
  ⟨0, le_rfl, zero_le_one, (toward_start first second).symm⟩

/-! ### Rounding on a corridor -/

/-- Before the clamping `indexFrom` rounds the same share between the two tiles. -/
theorem index_on_way (frame : SceneFrame K) (first second : GridPosition) (share : K) :
    (MAX_COLUMNS : K) * (((frame.tilePosition first).toward (frame.tilePosition second) share).x +
        frame.width / 2 - frame.tileWidth / 2) / frame.width =
      (first.column : K) + share * ((second.column : K) - first.column) ∧
    (MAX_ROWS : K) * (((frame.tilePosition first).toward (frame.tilePosition second) share).y +
        frame.height / 2 - frame.tileHeight / 2) / frame.height =
      (first.row : K) + share * ((second.row : K) - first.row) := by
  have widthNe : frame.width ≠ 0 := frame.wide.ne'
  have heightNe : frame.height ≠ 0 := frame.tall.ne'
  constructor
  · simp only [CGPoint.toward, SceneFrame.tilePosition, SceneFrame.tileWidth, MAX_COLUMNS]
    field_simp
    ring
  · simp only [CGPoint.toward, SceneFrame.tilePosition, SceneFrame.tileHeight, MAX_ROWS]
    field_simp
    ring

variable [FloorRing K]

/-- A value from one integer up to the next is rounded to one of the two. -/
theorem rounded_between (base : Int) (value : K) (low : (base : K) ≤ value)
    (high : value ≤ base + 1) : rounded value = base ∨ rounded value = base + 1 := by
  simp only [rounded]
  split
  · have floorLow : base ≤ ⌊value + 1 / 2⌋ := by
      rw [Int.le_floor]
      linarith
    have floorHigh : ⌊value + 1 / 2⌋ < base + 2 := by
      rw [Int.floor_lt]
      push_cast
      linarith
    omega
  · have ceilLow : base - 1 < ⌈value - 1 / 2⌉ := by
      rw [Int.lt_ceil]
      push_cast
      linarith
    have ceilHigh : ⌈value - 1 / 2⌉ ≤ base + 1 := by
      rw [Int.ceil_le]
      push_cast
      linarith
    omega

/-- On the way between neighbouring integers the nearer one is found. -/
theorem rounded_way (first second : Int) (near : second = first + 1 ∨ first = second + 1)
    (share : K) (low : 0 ≤ share) (high : share ≤ 1) :
    rounded ((first : K) + share * ((second : K) - first)) = first ∨
      rounded ((first : K) + share * ((second : K) - first)) = second := by
  rcases near with rfl | rfl
  · have way : (first : K) + share * (((first + 1 : Int) : K) - first) = first + share := by
      push_cast
      ring
    rw [way]
    exact rounded_between first _ (by linarith) (by linarith)
  · have way : ((second + 1 : Int) : K) + share * ((second : K) - ((second + 1 : Int) : K)) =
        second + (1 - share) := by
      push_cast
      ring
    rw [way]
    exact (rounded_between second _ (by linarith) (by linarith)).symm

/-- Between the centres of two neighbouring tiles `indexFrom` finds one of them. -/
theorem index_between_neighbours (frame : SceneFrame K) (first second : GridPosition)
    (beside : EdgeAdjacent first second) (here : OnMap first) (there : OnMap second)
    (point : CGPoint K)
    (on : OnSegment (frame.tilePosition first) (frame.tilePosition second) point) :
    frame.indexFrom point = first ∨ frame.indexFrom point = second := by
  obtain ⟨share, low, high, rfl⟩ := on
  obtain ⟨column, row⟩ := index_on_way frame first second share
  simp only [OnMap, Grid.Inside] at here there
  simp only [SceneFrame.indexFrom, column, row, GridPosition.ext_iff]
  rcases beside with ⟨level, beside⟩ | ⟨level, beside⟩
  · rw [← level, sub_self, mul_zero, add_zero, rounded_int]
    rcases rounded_way first.column second.column beside.symm share low high with found | found
    · rw [found]
      exact Or.inl ⟨if_pos ⟨here.2.2.1, here.2.2.2⟩, if_pos ⟨here.1, here.2.1⟩⟩
    · rw [found]
      exact Or.inr ⟨if_pos ⟨there.2.2.1, there.2.2.2⟩, if_pos ⟨here.1, here.2.1⟩⟩
  · rw [← level, sub_self, mul_zero, add_zero, rounded_int]
    rcases rounded_way first.row second.row beside.symm share low high with found | found
    · rw [found]
      exact Or.inl ⟨if_pos ⟨here.2.2.1, here.2.2.2⟩, if_pos ⟨here.1, here.2.1⟩⟩
    · rw [found]
      exact Or.inr ⟨if_pos ⟨here.2.2.1, here.2.2.2⟩, if_pos ⟨there.1, there.2.1⟩⟩

/-- In a corridor `indexFrom` finds one of its two tiles. -/
theorem index_in_corridor {data : Grid MazeTile} (laid : WellLaid MAX_COLUMNS MAX_ROWS data)
    (frame : SceneFrame K) {first second : GridPosition} (corridor : Corridor data first second)
    {point : CGPoint K}
    (on : OnSegment (frame.tilePosition first) (frame.tilePosition second) point) :
    frame.indexFrom point = first ∨ frame.indexFrom point = second := by
  obtain ⟨here, there, linked | rfl⟩ := corridor
  · exact index_between_neighbours frame first second ((laid.joined first second).mp linked).2.2
      (floor_on_map laid first here) (floor_on_map laid second there) point on
  · obtain ⟨share, -, -, rfl⟩ := on
    have same : (frame.tilePosition first).toward (frame.tilePosition first) share =
        frame.tilePosition first := by simp [CGPoint.toward]
    rw [same]
    exact Or.inl (index_from_tile frame first (floor_on_map laid first here))

end Segments
end RelicRace
