import RelicRace.Trophy.Neighbours

/-!
`CircleBasedRandomPositioning` as it is computed. A `CGFloat` is rounded, so circles
that touch may come out as apart or as crossing twice, and a drawn point may have no
tile. The placement is modelled once more over a type of numbers with the operations
that the source uses and no law for any of them.
-/

namespace RelicRace
open Library

/-- The operations on `CGFloat`; `toInt?` is `Int(_:)`, which traps on what is too
    large or no number. -/
class CGFloat (K : Type) extends Zero K, Add K, Sub K, Mul K, Div K, Neg K, LT K, LE K where
  ofNat : Nat → K
  ofInt : Int → K
  abs : K → K
  sqrt : K → K
  rounded : K → K
  toInt? : K → Option Int
  Same : K → K → Prop
  decideSame : ∀ first second, Decidable (Same first second)
  decideLT : ∀ first second : K, Decidable (first < second)
  decideLE : ∀ first second : K, Decidable (first ≤ second)

namespace CGFloat

instance (priority := low) {K : Type} [CGFloat K] (first second : K) :
    Decidable (Same first second) := decideSame first second

instance (priority := low) {K : Type} [CGFloat K] (first second : K) :
    Decidable (first < second) := decideLT first second

instance (priority := low) {K : Type} [CGFloat K] (first second : K) :
    Decidable (first ≤ second) := decideLE first second

/-- On the devices a `CGFloat` is a double. -/
instance double : CGFloat Float where
  zero := 0
  ofNat := Float.ofNat
  ofInt := Float.ofInt
  abs := Float.abs
  sqrt := Float.sqrt
  rounded := Float.round
  toInt? value :=
    if -9223372036854775808 ≤ value ∧ value < 9223372036854775808 then some value.toInt64.toInt
    else none
  Same first second := (first == second) = true
  decideSame _ _ := inferInstance
  decideLT _ _ := inferInstance
  decideLE _ _ := inferInstance

end CGFloat

namespace Computed
open CGFloat (ofNat ofInt Same)
variable {K : Type} [CGFloat K]

/-- `random(in: lower..<upper)` gives a number of the range or traps. -/
structure Draw (K : Type) [CGFloat K] where
  element : Nat
  inRange : K → K → Except Fault K
  within : ∀ lower upper value, inRange lower upper = .ok value → lower ≤ value ∧ value < upper

def tileWidth (frame : SceneFrame K) : K := frame.width / ofNat MAX_COLUMNS

def tileHeight (frame : SceneFrame K) : K := frame.height / ofNat MAX_ROWS

def tilePosition (frame : SceneFrame K) (place : GridPosition) : CGPoint K :=
  let ufX := ofInt place.column / ofNat MAX_COLUMNS * frame.width
  let ufY := ofInt place.row / ofNat MAX_ROWS * frame.height
  ⟨ufX - frame.width / ofNat 2 + tileWidth frame / ofNat 2,
    ufY - frame.height / ofNat 2 + tileHeight frame / ofNat 2⟩

def position (frame : SceneFrame K) (tile : TileNode) : CGPoint K :=
  tilePosition frame ⟨tile.column, tile.row⟩

def integer (value : K) : Except Fault Int :=
  match CGFloat.toInt? value with
  | some whole => .ok whole
  | none => .error .noInteger

def indexFrom (frame : SceneFrame K) (position : CGPoint K) : Except Fault GridPosition := do
  let ratioX := position.x + frame.width / ofNat 2 - tileWidth frame / ofNat 2
  let column ← integer (CGFloat.rounded (ofNat MAX_COLUMNS * ratioX / frame.width))
  let ratioY := position.y + frame.height / ofNat 2 - tileHeight frame / ofNat 2
  let row ← integer (CGFloat.rounded (ofNat MAX_ROWS * ratioY / frame.height))
  return ⟨if 0 ≤ column ∧ column < MAX_COLUMNS then column else 0,
    if 0 ≤ row ∧ row < MAX_ROWS then row else 0⟩

def intersectTwoCircles (c1 c2 : Circle K) : List (CGPoint K) :=
  let centerdx := c1.x - c2.x
  let centerdy := c1.y - c2.y
  let R := CGFloat.sqrt (centerdx * centerdx + centerdy * centerdy)
  if ¬ (CGFloat.abs (c1.r - c2.r) ≤ R ∧ R ≤ c1.r + c2.r) then []
  else
    let R2 := R * R
    let R4 := R2 * R2
    let a := (c1.r * c1.r - c2.r * c2.r) / (ofNat 2 * R2)
    let r2r2 := c1.r * c1.r - c2.r * c2.r
    let c := CGFloat.sqrt
      (ofNat 2 * (c1.r * c1.r + c2.r * c2.r) / R2 - (r2r2 * r2r2) / R4 - ofNat 1)
    let fx := (c1.x + c2.x) / ofNat 2 + a * (c2.x - c1.x)
    let gx := c * (c2.y - c1.y) / ofNat 2
    let ix1 := fx + gx
    let ix2 := fx - gx
    let fy := (c1.y + c2.y) / ofNat 2 + a * (c2.y - c1.y)
    let gy := c * (c1.x - c2.x) / ofNat 2
    let iy1 := fy + gy
    let iy2 := fy - gy
    if Same gy 0 ∧ Same gx 0 then [⟨ix1, iy1⟩] else [⟨ix1, iy1⟩, ⟨ix2, iy2⟩]

section Scene
variable (scene : TrophyScene K) (draw : Draw K)

def ximingsCondition (tile : TileNode) : Bool :=
  let position := position scene.frame tile
  let dx1 := CGFloat.abs (position.x - scene.player1.x)
  let dx2 := CGFloat.abs (position.x - scene.opponent.x)
  let dy1 := CGFloat.abs (position.y - scene.player1.y)
  let dy2 := CGFloat.abs (position.y - scene.opponent.y)
  CGFloat.abs (dx1 - dx2) < tileWidth scene.frame * ofNat 7 &&
    CGFloat.abs (dy1 - dy2) < tileHeight scene.frame * ofNat 7 &&
    dx1 > tileWidth scene.frame * ofNat 8 && dy1 > tileHeight scene.frame * ofNat 8

def ximingsRandomTrophyPositioning : Except Fault (CGPoint K) := do
  let tile ← scene.tileManager.getRandomTile (ximingsCondition scene) draw.element
  return position scene.frame tile

/-- `point(from:)`. What it computes about `closenessRadius` it does not use. -/
def point (first second : CGPoint K) : Except Fault (CGPoint K) := do
  let height := scene.frame.height
  let width := scene.frame.width
  if Same first.x second.x then
    let y ← draw.inRange (-height / ofNat 2) (height / ofNat 2)
    return ⟨first.x, y⟩
  else
    let m := (second.y - first.y) / (second.x - first.x)
    let b := first.y - m * first.x
    if Same (CGFloat.rounded m) 0 then
      let x ← draw.inRange (-width / ofNat 2) (width / ofNat 2)
      return ⟨x, first.y⟩
    else
      let topIntVal := ((height / ofNat 2 - tileHeight scene.frame) - b) / m
      let bottomIntVal := ((-height / ofNat 2 + tileHeight scene.frame) - b) / m
      let LIMIT_LEFT := -width / ofNat 2 + tileWidth scene.frame
      let LIMIT_RIGHT := width / ofNat 2 - tileWidth scene.frame
      let limits : K × K :=
        if m > 0 then
          (if LIMIT_LEFT > bottomIntVal then LIMIT_LEFT else bottomIntVal,
            if LIMIT_RIGHT > topIntVal then topIntVal else LIMIT_RIGHT)
        else if m < 0 then
          (if LIMIT_LEFT > topIntVal then LIMIT_LEFT else topIntVal,
            if LIMIT_RIGHT > bottomIntVal then bottomIntVal else LIMIT_RIGHT)
        else (0, 0)
      let x ← draw.inRange limits.1 limits.2
      return ⟨x, m * x + b⟩

/-- The point of `CircleBasedRandomPositioning` for the solutions it has. -/
def circlePoint (solutions : List (CGPoint K)) : Except Fault (CGPoint K) :=
  match solutions with
  | [solution] => do
      let y ← draw.inRange (-scene.frame.height / ofNat 2) (scene.frame.height / ofNat 2)
      return ⟨solution.x, y⟩
  | [first, second] => point scene draw first second
  | _ => .ok ⟨0, 0⟩

/-- The tile at the drawn point, or a neighbour of it. -/
def circleTile (newPos : CGPoint K) : Except Fault (CGPoint K) := do
  let tilePos ← indexFrom scene.frame newPos
  let tile ← scene.tileManager.getTile tilePos.row tilePos.column
  if tile.typeName = "space" then
    return position scene.frame tile
  else
    let tile ← scene.changeToNeighbour tilePos
    if tile.typeName = "wall" then ximingsRandomTrophyPositioning scene draw
    else return position scene.frame tile

def circles : Circle K × Circle K :=
  let dx := CGFloat.abs (scene.opponent.x - scene.player1.x)
  let dy := CGFloat.abs (scene.opponent.y - scene.player1.y)
  let diameter := if dx > dy then dx else dy
  (⟨scene.player1.x, scene.player1.y, diameter / ofNat 2⟩,
    ⟨scene.opponent.x, scene.opponent.y, diameter / ofNat 2⟩)

def circleBasedRandomPositioning : Except Fault (CGPoint K) := do
  let circle1 := (circles scene).1
  let circle2 := (circles scene).2
  let solutions := intersectTwoCircles circle1 circle2
  let sameCircle := Same circle1.x circle2.x ∧ Same circle1.y circle2.y
  if sameCircle ∨ solutions.isEmpty then
    ximingsRandomTrophyPositioning scene draw
  else
    let newPos ← circlePoint scene draw solutions
    circleTile scene draw newPos

/-! ### Where the placement ends -/

def solutions : List (CGPoint K) := intersectTwoCircles (circles scene).1 (circles scene).2

/-- The actors have one position, or their circles do not meet: the last fallback places. -/
def Defers : Prop :=
  (Same scene.player1.x scene.opponent.x ∧ Same scene.player1.y scene.opponent.y) ∨
    solutions scene = []

/-- The tile of the drawn point, where both can be computed. -/
def Targets (place : GridPosition) : Prop :=
  ∃ point, circlePoint scene draw (solutions scene) = .ok point ∧
    indexFrom scene.frame point = .ok place

/-- The placement leaves the trophy at the centre of a floor tile. -/
def Lands (data : Grid MazeTile) (placed : Except Fault (CGPoint K)) : Prop :=
  ∃ place, IsSpace data place ∧ placed = .ok (tilePosition scene.frame place)

end Scene

section Landing
variable {data : Grid MazeTile} {manager : TileManager}

theorem floor_tile_lands (scene : TrophyScene K) {tile : TileNode} (floor : FloorTile data tile) :
    Lands scene data (.ok (position scene.frame tile)) := by
  obtain ⟨-, place, open', row, column⟩ := floor
  exact ⟨place, open', by rw [position, row, column]⟩

theorem ximings_lands (shows : manager.Shows data) (scanned : Maze.Scanned data)
    (scene : TrophyScene K) (managed : scene.tileManager = manager) (draw : Draw K) :
    Lands scene data (ximingsRandomTrophyPositioning scene draw) := by
  obtain ⟨tile, found, floor⟩ :=
    drawn_floor_tile shows scanned (ximingsCondition scene) draw.element
  rw [ximingsRandomTrophyPositioning, managed, found, run_ok, run_pure]
  exact floor_tile_lands scene floor

/-- `indexFrom` names a tile of the map wherever it returns. -/
theorem index_on_map (frame : SceneFrame K) (point : CGPoint K) (place : GridPosition)
    (indexed : indexFrom frame point = .ok place) : OnMap place := by
  simp only [indexFrom, run_bind_iff, run_pure, Except.ok.injEq] at indexed
  obtain ⟨column, -, row, -, rfl⟩ := indexed
  simp only [OnMap, Grid.Inside, MAX_ROWS, MAX_COLUMNS]
  split_ifs <;> omega

/-- Where the drawn point is decides the rest of the placement. -/
theorem circle_tile_lands_iff (shows : manager.Shows data) (scanned : Maze.Scanned data)
    (scene : TrophyScene K) (managed : scene.tileManager = manager) (point : CGPoint K)
    (draw : Draw K) :
    Lands scene data (circleTile scene draw point) ↔
      ∃ place, indexFrom scene.frame point = .ok place ∧
        (IsSpace data place ∨ Sheltered data place) := by
  cases indexed : indexFrom scene.frame point with
  | error fault =>
      refine iff_of_false ?_ (by simp)
      rintro ⟨place, -, landed⟩
      rw [circleTile, indexed] at landed
      cases landed
  | ok place =>
      simp only [circleTile, indexed, run_ok, managed, Except.ok.injEq, exists_eq_left']
      obtain ⟨tile, found, isFloor, isWall⟩ :=
        get_tile_kind shows scanned place (index_on_map _ _ _ indexed)
      rw [found, run_ok]
      by_cases floor : IsSpace data place
      · rw [if_pos (isFloor floor).1, run_pure]
        exact iff_of_true (floor_tile_lands scene (isFloor floor)) (Or.inl floor)
      · rw [if_neg (by simp [isWall floor]), or_iff_right floor]
        rcases scene.change_to_neighbour_iff shows scanned managed place floor with
          ⟨sheltered, near, got, isFloor⟩ | ⟨bare, never⟩
        · -- A neighbour that is found is floor, so the test for a wall after it fails.
          refine iff_of_true ?_ sheltered
          rw [got, run_ok, if_neg (by simp [isFloor.1]), run_pure]
          exact floor_tile_lands scene isFloor
        · refine iff_of_false ?_ bare
          rintro ⟨_, -, landed⟩
          obtain ⟨near, got, -⟩ := (run_bind_iff _ _ _).mp landed
          exact never near got

theorem circle_based_lands_iff (shows : manager.Shows data) (scanned : Maze.Scanned data)
    (scene : TrophyScene K) (managed : scene.tileManager = manager) (draw : Draw K) :
    Lands scene data (circleBasedRandomPositioning scene draw) ↔
      Defers scene ∨ ∃ place, Targets scene draw place ∧
        (IsSpace data place ∨ Sheltered data place) := by
  have defers : ((Same (circles scene).1.x (circles scene).2.x ∧
      Same (circles scene).1.y (circles scene).2.y) ∨ (solutions scene).isEmpty) ↔
      Defers scene := by
    rw [List.isEmpty_iff]
    exact Iff.rfl
  rw [circleBasedRandomPositioning, ← solutions]
  by_cases deferred : Defers scene
  · rw [if_pos (defers.mpr deferred)]
    exact iff_of_true (ximings_lands shows scanned scene managed draw) (Or.inl deferred)
  · rw [if_neg (deferred ∘ defers.mp), or_iff_right deferred]
    cases drawn : circlePoint scene draw (solutions scene) with
    | error fault =>
        refine iff_of_false ?_ ?_
        · rintro ⟨place, -, landed⟩
          cases landed
        · rintro ⟨place, ⟨point, drawn', -⟩, -⟩
          cases drawn.symm.trans drawn'
    | ok point =>
        rw [run_ok, circle_tile_lands_iff shows scanned scene managed]
        simp only [Targets, drawn, Except.ok.injEq, exists_eq_left']

end Landing

end Computed
end RelicRace
