import RelicRace.Library.Forest
import RelicRace.Maze.Openings

/-!
What `carve` leaves, for maps of every size: its floor is the rooms and the
passages between two of them, and its connections are a tree. A fresh opening
hangs two new cells on the tree, one behind the other.
-/

namespace RelicRace
open Library

namespace Maze

/-- The connections of a map, as an undirected graph. -/
def corridors (data : Grid MazeTile) : SimpleGraph GridPosition :=
  SimpleGraph.fromRel (Joined data)

/-- A cell that was carved between two rooms. -/
def CarvedBetween (width height : Nat) (data : Grid MazeTile) (place : GridPosition) : Prop :=
  ∃ room beyond, IsRoom width height room ∧ IsRoom width height beyond ∧
    Straight room place beyond ∧ Joined data room place ∧ Joined data place beyond

structure PerfectMaze (width height : Nat) (data : Grid MazeTile) : Prop where
  floor : ∀ place, IsSpace data place ↔
    IsRoom width height place ∨ CarvedBetween width height data place
  reached : ∀ room, IsRoom width height room →
    Relation.ReflTransGen (Joined data) spawnRoom room
  joined : ∀ source target, (corridors data).Adj source target ↔ Joined data source target
  tree : ∀ source target, IsSpace data source → IsSpace data target →
    ∃! path : (corridors data).Walk source target, path.IsPath

section Laid
variable {width height : Nat} {data before after : Grid MazeTile}

theorem corridors_adj (laid : WellLaid width height data) (source target : GridPosition) :
    (corridors data).Adj source target ↔ Joined data source target := by
  rw [corridors, SimpleGraph.fromRel_adj, joined_symm laid target source, or_self,
    and_iff_right_iff_imp]
  rintro joined rfl
  have beside := ((laid.joined source source).mp joined).2.2
  simp only [EdgeAdjacent] at beside
  omega

theorem wall_isolated (laid : WellLaid width height data) (place : GridPosition)
    (wall : ¬ IsSpace data place) (other : GridPosition) :
    ¬ (corridors data).Adj place other := by
  rw [corridors_adj laid, laid.joined]
  exact fun both => wall both.1

/-- The connections after an opening are the old ones and the two new edges. -/
theorem corridors_opened (laid : WellLaid width height before)
    (laid' : WellLaid width height after) {room passage beyond : GridPosition}
    (near : room ≠ passage) (far : passage ≠ beyond)
    (opened : Opens before after room passage beyond) :
    corridors after =
      corridors before ⊔ SimpleGraph.edge room passage ⊔ SimpleGraph.edge passage beyond := by
  ext source target
  rw [SimpleGraph.sup_adj, SimpleGraph.sup_adj, corridors_adj laid', corridors_adj laid,
    opened.joined, SimpleGraph.edge_adj, SimpleGraph.edge_adj, or_assoc]
  refine or_congr_right (or_congr ?_ ?_)
  · constructor
    · rintro (⟨rfl, rfl⟩ | ⟨rfl, rfl⟩)
      · exact ⟨Or.inl ⟨rfl, rfl⟩, near⟩
      · exact ⟨Or.inr ⟨rfl, rfl⟩, near.symm⟩
    · exact fun edge => edge.1
  · constructor
    · rintro (⟨rfl, rfl⟩ | ⟨rfl, rfl⟩)
      · exact ⟨Or.inl ⟨rfl, rfl⟩, far⟩
      · exact ⟨Or.inr ⟨rfl, rfl⟩, far.symm⟩
    · exact fun edge => edge.1

theorem fresh_opening_acyclic (laid : WellLaid width height before)
    (acyclic : (corridors before).IsAcyclic) (fresh : FreshOpening width height before after) :
    (corridors after).IsAcyclic := by
  obtain ⟨room, passage, beyond, roomOk, beyondOk, start, wall, straight, opened⟩ := fresh
  have laid' := opens_well_laid laid start roomOk beyondOk straight opened
  have near : room ≠ passage := by
    rintro rfl
    simp only [Straight] at straight
    omega
  have far : passage ≠ beyond := by
    rintro rfl
    simp only [Straight] at straight
    omega
  have apart : room ≠ beyond := by
    rintro rfl
    exact wall start
  -- A passage that is floor already would have both its rooms.
  have closed : ¬ IsSpace before passage := by
    intro floor
    exact wall (beside_fresh_room laid passage floor ⟨beyondOk.1, beyondOk.2.1⟩
      (straight_beside straight).2)
  rw [corridors_opened laid laid' near far opened]
  exact Forest.hang_two_acyclic acyclic room passage beyond near far apart
    (wall_isolated laid passage closed) (wall_isolated laid beyond wall)

theorem bare_corridors (bare : ∀ source target, ¬ Joined data source target) :
    (corridors data).IsAcyclic := by
  apply Forest.bare_acyclic
  intro source target edge
  rw [corridors, SimpleGraph.fromRel_adj] at edge
  rcases edge.2 with joined | joined
  · exact bare source target joined
  · exact bare target source joined

/-- A floor cell between two rows or columns of rooms was carved. -/
theorem floor_between (laid : WellLaid width height data) (place : GridPosition)
    (floor : IsSpace data place) (notRoom : ¬ IsRoom width height place) :
    CarvedBetween width height data place := by
  have inner := laid.interior place floor
  have noPillar := laid.noPillar place floor
  have room (other : GridPosition) (open' : IsSpace data other)
      (odd : other.row % 2 = 1 ∧ other.column % 2 = 1) : IsRoom width height other :=
    ⟨odd.1, odd.2, laid.interior other open'⟩
  by_cases even : place.row % 2 = 0
  · obtain ⟨above, below⟩ := laid.upright place floor even
    refine ⟨_, _, room _ above ?_, room _ below ?_, ?_,
      (laid.joined _ _).mpr ⟨above, floor, ?_⟩, (laid.joined _ _).mpr ⟨floor, below, ?_⟩⟩
    · dsimp only; omega
    · dsimp only; omega
    · simp [Straight]
      omega
    · simp [EdgeAdjacent]
    · simp [EdgeAdjacent]
  · have column : place.column % 2 = 0 := by
      by_contra odd
      exact notRoom ⟨by omega, by omega, inner⟩
    obtain ⟨left, right⟩ := laid.sideways place floor column
    refine ⟨_, _, room _ left ?_, room _ right ?_, ?_,
      (laid.joined _ _).mpr ⟨left, floor, ?_⟩, (laid.joined _ _).mpr ⟨floor, right, ?_⟩⟩
    · dsimp only; omega
    · dsimp only; omega
    · simp [Straight]
      omega
    · simp [EdgeAdjacent]
    · simp [EdgeAdjacent]

theorem laid_perfect (laid : WellLaid width height data)
    (rooms : ∀ place, IsRoom width height place → IsSpace data place)
    (acyclic : (corridors data).IsAcyclic) : PerfectMaze width height data where
  floor place := by
    constructor
    · intro floor
      by_cases room : IsRoom width height place
      · exact Or.inl room
      · exact Or.inr (floor_between laid place floor room)
    · rintro (room | ⟨_, _, _, _, _, joined, -⟩)
      · exact rooms place room
      · exact ((laid.joined _ _).mp joined).2.1
  reached room isRoom := laid.reached room (rooms room isRoom)
  joined := corridors_adj laid
  tree source target floor floor' := by
    refine Forest.one_path acyclic source target ?_
    have same : (corridors data).Adj = Joined data := by
      ext first second
      exact corridors_adj laid first second
    rw [same]
    exact floor_connected laid source target floor floor'

end Laid

/-- For every size and every sequence of draws `carve` returns, without a trap,
    a perfect maze. -/
theorem carve_builds_perfect_maze (width height extra : Nat) (draws : Nat → Nat)
    (wide : 3 ≤ width) (tall : 3 ≤ height) :
    ∃ maze, carved width height (roundBound width height + extra) draws = .ok maze ∧
      PerfectMaze width height maze.data := by
  obtain ⟨maze, ran, laid, -, -, rooms, acyclic⟩ := carved_keeps width height _ draws wide tall
    (Nat.le_add_right (roundBound width height) extra) (fun data => (corridors data).IsAcyclic)
    (fun _ => bare_corridors) (fun _ _ => fresh_opening_acyclic)
  exact ⟨maze, ran, laid_perfect laid rooms acyclic⟩

theorem carve_builds_perfect_even_maze : ∃ maze,
    carved 6 4 (roundBound 6 4 + 0) (fun _ => 0) = .ok maze ∧ PerfectMaze 6 4 maze.data :=
  carve_builds_perfect_maze 6 4 0 (fun _ => 0) (by decide) (by decide)

end Maze
end RelicRace
