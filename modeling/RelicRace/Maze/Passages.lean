import Mathlib.Logic.Relation
import RelicRace.Maze.Basic

/-!
What a finished or half-finished map looks like, in terms of floor and
connections, and why opening one more passage keeps it that way. `carve` and
`openUpMap` write the same passage in different orders; both orders have the
effect stated here, and the invariant never looks at the stored tiles again.
-/

namespace RelicRace
open Library

theorem tile_after_put (data : Grid MazeTile) (place : GridPosition) (tile old : MazeTile)
    (present : tileAt? data place = some old) (other : GridPosition) :
    tileAt? (data.put place.row place.column tile) other =
      if other = place then some tile else tileAt? data other := by
  have written := Grid.at_put data place.row place.column tile old present other.row other.column
  simpa [tileAt?, GridPosition.ext_iff, and_comm] using written

/-- What a change of `data` adds: floor cells and directed connections. -/
structure Effect (before after : Grid MazeTile) (floor : GridPosition → Prop)
    (wires : GridPosition → GridPosition → Prop) : Prop where
  shape : ∀ rows columns, before.Shape rows columns → after.Shape rows columns
  placed : ∀ place, (tileAt? after place).map (·.node.gridPosition) =
    (tileAt? before place).map (·.node.gridPosition)
  space : ∀ place, IsSpace after place ↔ IsSpace before place ∨ floor place
  joined : ∀ source target, Joined after source target ↔
    Joined before source target ∨ wires source target
  nodup : (∀ place, (links before place).Nodup) → ∀ place, (links after place).Nodup

theorem Effect.trans {first second third : Grid MazeTile} {floor floor' : GridPosition → Prop}
    {wires wires' : GridPosition → GridPosition → Prop}
    (start : Effect first second floor wires) (next : Effect second third floor' wires') :
    Effect first third (fun place => floor place ∨ floor' place)
      (fun source target => wires source target ∨ wires' source target) where
  shape rows columns given := next.shape rows columns (start.shape rows columns given)
  placed place := (next.placed place).trans (start.placed place)
  space place := by rw [next.space, start.space, or_assoc]
  joined source target := by rw [next.joined, start.joined, or_assoc]
  nodup given := next.nodup (start.nodup given)

theorem Effect.present {before after : Grid MazeTile} {floor : GridPosition → Prop}
    {wires : GridPosition → GridPosition → Prop} (effect : Effect before after floor wires)
    (place : GridPosition) (tile : MazeTile) (present : tileAt? before place = some tile) :
    ∃ tile', tileAt? after place = some tile' := by
  have same := effect.placed place
  rw [present] at same
  cases found : tileAt? after place with
  | none => simp [found] at same
  | some tile' => exact ⟨tile', rfl⟩

theorem Effect.weaken {before after : Grid MazeTile} {floor floor' : GridPosition → Prop}
    {wires wires' : GridPosition → GridPosition → Prop} (effect : Effect before after floor wires)
    (sameFloor : ∀ place, floor place ↔ floor' place)
    (sameWires : ∀ source target, wires source target ↔ wires' source target) :
    Effect before after floor' wires' where
  shape := effect.shape
  placed := effect.placed
  space place := by rw [effect.space, sameFloor]
  joined source target := by rw [effect.joined, sameWires]
  nodup := effect.nodup

theorem open_tile_effect (data : Grid MazeTile) (place : GridPosition) (tile : MazeTile)
    (present : tileAt? data place = some tile) :
    ∃ after, updateTile data place MazeTile.opened = .ok after ∧
      Effect data after (· = place) (fun _ _ => False) := by
  refine ⟨data.put place.row place.column tile.opened, by simp [updateTile, present], ?_⟩
  have view := tile_after_put data place tile.opened tile present
  refine ⟨fun rows columns given => Grid.shape_put data rows columns given _ _ _, ?_, ?_, ?_, ?_⟩
  · intro other
    rw [view]
    by_cases same : other = place
    · simp [same, present, MazeTile.opened]
    · simp [same]
  · intro other
    rw [IsSpace, view]
    by_cases same : other = place
    · simp [same, MazeTile.opened]
    · simp [same, IsSpace]
  · intro source target
    rw [Joined, links, view]
    by_cases same : source = place
    · simp [same, Joined, links, present, MazeTile.opened]
    · simp [same, Joined, links]
  · intro unique other
    have old := unique other
    rw [links, view]
    by_cases same : other = place
    · subst same
      simpa [links, present, MazeTile.opened] using old
    · simpa [same, links] using old

theorem connect_effect (data : Grid MazeTile) (place target : GridPosition) (tile : MazeTile)
    (present : tileAt? data place = some tile) :
    ∃ after, updateTile data place (·.connect target) = .ok after ∧
      Effect data after (fun _ => False)
        (fun source other => source = place ∧ other = target) := by
  refine ⟨data.put place.row place.column (tile.connect target), by simp [updateTile, present], ?_⟩
  have view := tile_after_put data place (tile.connect target) tile present
  have nodePlace : (tile.connect target).node.gridPosition = tile.node.gridPosition := by
    simp only [MazeTile.connect, GKGridGraphNode.connect]
    split <;> rfl
  have member (other : GridPosition) : other ∈ (tile.connect target).node.connectedNodes ↔
      other ∈ tile.node.connectedNodes ∨ other = target := by
    simp only [MazeTile.connect, GKGridGraphNode.connect]
    split
    · rename_i known
      exact ⟨Or.inl, fun either => either.elim id (fun same => same ▸ known)⟩
    · simp
  refine ⟨fun rows columns given => Grid.shape_put data rows columns given _ _ _, ?_, ?_, ?_, ?_⟩
  · intro other
    rw [view]
    by_cases same : other = place
    · simp [same, present, nodePlace]
    · simp [same]
  · intro other
    rw [IsSpace, view]
    by_cases same : other = place
    · simp [same, IsSpace, present, MazeTile.connect]
    · simp [same, IsSpace]
  · intro source other
    rw [Joined, links, view]
    by_cases same : source = place
    · simp [same, Joined, links, present, member]
    · simp [same, Joined, links]
  · intro unique other
    have old := unique other
    rw [links, view]
    by_cases same : other = place
    · subst same
      simp only [links, present] at old
      simp only [↓reduceIte, MazeTile.connect, GKGridGraphNode.connect]
      split
      · exact old
      · rename_i fresh
        refine List.nodup_append.mpr ⟨old, by simp, ?_⟩
        intro kept listed added single hit
        rw [List.mem_singleton.mp single] at hit
        exact fresh (hit ▸ listed)
    · simpa [same, links] using old

/-- Both directions between two places. -/
def Wire (first second source target : GridPosition) : Prop :=
  (source = first ∧ target = second) ∨ (source = second ∧ target = first)

theorem add_connections_effect (data : Grid MazeTile) (source target : GridPosition)
    (tile tile' : MazeTile) (present : tileAt? data source = some tile)
    (present' : tileAt? data target = some tile') :
    ∃ after, addConnections data source target = .ok after ∧
      Effect data after (fun _ => False) (Wire source target) := by
  obtain ⟨middle, ran, there⟩ := connect_effect data source target tile present
  obtain ⟨again, found⟩ := there.present target tile' present'
  obtain ⟨after, ran', back⟩ := connect_effect middle target source again found
  refine ⟨after, by simp [addConnections, ran, ran'], ?_⟩
  exact (there.trans back).weaken (by simp) (fun _ _ => by simp [Wire])

/-- `beyond` lies two cells away from `room`, with `passage` in between. -/
def Straight (room passage beyond : GridPosition) : Prop :=
  (passage.row = room.row ∧ beyond.row = room.row ∧
    ((passage.column = room.column + 1 ∧ beyond.column = room.column + 2) ∨
      (passage.column = room.column - 1 ∧ beyond.column = room.column - 2))) ∨
  (passage.column = room.column ∧ beyond.column = room.column ∧
    ((passage.row = room.row + 1 ∧ beyond.row = room.row + 2) ∨
      (passage.row = room.row - 1 ∧ beyond.row = room.row - 2)))

/-- The effect of opening the passage from `room` to `beyond`. -/
def Opens (before after : Grid MazeTile) (room passage beyond : GridPosition) : Prop :=
  Effect before after (fun place => place = passage ∨ place = beyond)
    (fun source target => Wire room passage source target ∨ Wire passage beyond source target)

def Interior (width height : Nat) (place : GridPosition) : Prop :=
  1 ≤ place.row ∧ place.row ≤ (height : Int) - 2 ∧
    1 ≤ place.column ∧ place.column ≤ (width : Int) - 2

/-- The cells `carve` can stand on. -/
def IsRoom (width height : Nat) (place : GridPosition) : Prop :=
  place.row % 2 = 1 ∧ place.column % 2 = 1 ∧ Interior width height place

def spawnRoom : GridPosition := ⟨1, 1⟩

/-- The invariant of the map under construction. A floor cell with an even
    coordinate is a passage, and a passage always has both its rooms; this is
    why no two floor cells can lie side by side without being connected. -/
structure WellLaid (width height : Nat) (data : Grid MazeTile) : Prop where
  shape : data.Shape height width
  placed : ∀ place tile, tileAt? data place = some tile → tile.node.gridPosition = place
  interior : ∀ place, IsSpace data place → Interior width height place
  noPillar : ∀ place, IsSpace data place → place.row % 2 = 1 ∨ place.column % 2 = 1
  upright : ∀ place, IsSpace data place → place.row % 2 = 0 →
    IsSpace data ⟨place.column, place.row - 1⟩ ∧ IsSpace data ⟨place.column, place.row + 1⟩
  sideways : ∀ place, IsSpace data place → place.column % 2 = 0 →
    IsSpace data ⟨place.column - 1, place.row⟩ ∧ IsSpace data ⟨place.column + 1, place.row⟩
  joined : ∀ source target, Joined data source target ↔
    IsSpace data source ∧ IsSpace data target ∧ EdgeAdjacent source target
  nodup : ∀ place, (links data place).Nodup
  reached : ∀ place, IsSpace data place → Relation.ReflTransGen (Joined data) spawnRoom place

/-- A tile in the list of all tiles stands at its place. -/
theorem listed_tile {width height : Nat} (data : Grid MazeTile)
    (laid : WellLaid width height data) (tile : MazeTile) (listed : tile ∈ data.flatten) :
    tileAt? data tile.node.gridPosition = some tile := by
  obtain ⟨row, column, hit⟩ := (Grid.mem_flatten_iff data tile).mp listed
  rw [laid.placed ⟨column, row⟩ tile hit]
  exact hit

section Opening
variable {width height : Nat} {before after : Grid MazeTile} {room passage beyond : GridPosition}

theorem edge_adjacent_symm (source target : GridPosition) :
    EdgeAdjacent source target ↔ EdgeAdjacent target source := by
  simp only [EdgeAdjacent]; omega

/-- A floor cell beside a room that is still a wall would be a passage with a
    missing end. -/
theorem beside_fresh_room (laid : WellLaid width height before) (place : GridPosition)
    (floor : IsSpace before place) (odd : beyond.row % 2 = 1 ∧ beyond.column % 2 = 1)
    (beside : EdgeAdjacent place beyond) : IsSpace before beyond := by
  rcases beside with ⟨sameRow, shift⟩ | ⟨sameColumn, shift⟩
  · have ends := laid.sideways place floor (by omega)
    rcases shift with after | after
    · rw [show beyond = ⟨place.column - 1, place.row⟩ by ext <;> simp <;> omega]
      exact ends.1
    · rw [show beyond = ⟨place.column + 1, place.row⟩ by ext <;> simp <;> omega]
      exact ends.2
  · have ends := laid.upright place floor (by omega)
    rcases shift with after | after
    · rw [show beyond = ⟨place.column, place.row - 1⟩ by ext <;> simp <;> omega]
      exact ends.1
    · rw [show beyond = ⟨place.column, place.row + 1⟩ by ext <;> simp <;> omega]
      exact ends.2

/-- Around a passage there are its two rooms and two pillars. -/
theorem beside_passage (laid : WellLaid width height before) (place : GridPosition)
    (floor : IsSpace before place) (odd : room.row % 2 = 1 ∧ room.column % 2 = 1)
    (straight : Straight room passage beyond) (beside : EdgeAdjacent place passage) :
    place = room ∨ place = beyond := by
  have notPillar := laid.noPillar place floor
  simp only [GridPosition.ext_iff]
  simp only [Straight, EdgeAdjacent] at straight beside
  omega

/-- A passage lies beside both its rooms. -/
theorem straight_beside (straight : Straight room passage beyond) :
    EdgeAdjacent room passage ∧ EdgeAdjacent passage beyond := by
  simp only [Straight, EdgeAdjacent] at straight ⊢
  omega

/-- What was floor stays floor, and the passage and the far room become floor. -/
theorem opens_floor (opened : Opens before after room passage beyond) :
    (∀ place, IsSpace before place → IsSpace after place) ∧ IsSpace after passage ∧
      IsSpace after beyond := by
  refine ⟨fun place old => (opened.space place).mpr (Or.inl old), ?_, ?_⟩
  · exact (opened.space passage).mpr (Or.inr (Or.inl rfl))
  · exact (opened.space beyond).mpr (Or.inr (Or.inr rfl))

/-- Of the rooms only the far one changes. -/
theorem opens_room (odd : room.row % 2 = 1 ∧ room.column % 2 = 1)
    (straight : Straight room passage beyond) (opened : Opens before after room passage beyond)
    (place : GridPosition) (odd' : place.row % 2 = 1 ∧ place.column % 2 = 1) :
    IsSpace after place ↔ IsSpace before place ∨ place = beyond := by
  have notPassage : place ≠ passage := by
    rintro rfl
    simp only [Straight] at straight
    omega
  rw [opened.space]
  simp [notPassage]

/-- A new passage between two rows has its rooms above and below. -/
theorem opens_upright (laid : WellLaid width height before) (start : IsSpace before room)
    (odd : room.row % 2 = 1) (odd' : beyond.row % 2 = 1) (straight : Straight room passage beyond)
    (opened : Opens before after room passage beyond) (place : GridPosition)
    (floor : IsSpace after place) (even : place.row % 2 = 0) :
    IsSpace after ⟨place.column, place.row - 1⟩ ∧ IsSpace after ⟨place.column, place.row + 1⟩ := by
  obtain ⟨keep, -, beyondOpen⟩ := opens_floor opened
  rcases (opened.space place).mp floor with old | rfl | rfl
  · exact ⟨keep _ (laid.upright place old even).1, keep _ (laid.upright place old even).2⟩
  · rcases straight with ⟨flat, -, -⟩ | ⟨sameColumn, column, down | up⟩
    · omega
    · rw [show (⟨place.column, place.row - 1⟩ : GridPosition) = room by ext <;> simp <;> omega,
        show (⟨place.column, place.row + 1⟩ : GridPosition) = beyond by ext <;> simp <;> omega]
      exact ⟨keep room start, beyondOpen⟩
    · rw [show (⟨place.column, place.row - 1⟩ : GridPosition) = beyond by ext <;> simp <;> omega,
        show (⟨place.column, place.row + 1⟩ : GridPosition) = room by ext <;> simp <;> omega]
      exact ⟨beyondOpen, keep room start⟩
  · omega

/-- A new passage between two columns has its rooms on the left and the right. -/
theorem opens_sideways (laid : WellLaid width height before) (start : IsSpace before room)
    (odd : room.column % 2 = 1) (odd' : beyond.column % 2 = 1)
    (straight : Straight room passage beyond) (opened : Opens before after room passage beyond)
    (place : GridPosition) (floor : IsSpace after place) (even : place.column % 2 = 0) :
    IsSpace after ⟨place.column - 1, place.row⟩ ∧ IsSpace after ⟨place.column + 1, place.row⟩ := by
  obtain ⟨keep, -, beyondOpen⟩ := opens_floor opened
  rcases (opened.space place).mp floor with old | rfl | rfl
  · exact ⟨keep _ (laid.sideways place old even).1, keep _ (laid.sideways place old even).2⟩
  · rcases straight with ⟨sameRow, row, right | left⟩ | ⟨flat, -, -⟩
    · rw [show (⟨place.column - 1, place.row⟩ : GridPosition) = room by ext <;> simp <;> omega,
        show (⟨place.column + 1, place.row⟩ : GridPosition) = beyond by ext <;> simp <;> omega]
      exact ⟨keep room start, beyondOpen⟩
    · rw [show (⟨place.column - 1, place.row⟩ : GridPosition) = beyond by ext <;> simp <;> omega,
        show (⟨place.column + 1, place.row⟩ : GridPosition) = room by ext <;> simp <;> omega]
      exact ⟨beyondOpen, keep room start⟩
    · omega
  · omega

/-- Floor cells that lie side by side after the opening are connected: either
    both were floor before, or one of them is the passage and the other one of
    its rooms. -/
theorem opens_joins (laid : WellLaid width height before)
    (odd : room.row % 2 = 1 ∧ room.column % 2 = 1)
    (odd' : beyond.row % 2 = 1 ∧ beyond.column % 2 = 1) (straight : Straight room passage beyond)
    (opened : Opens before after room passage beyond) (source target : GridPosition)
    (floor : IsSpace after source) (floor' : IsSpace after target)
    (beside : EdgeAdjacent source target) : Joined after source target := by
  have settled (place : GridPosition) (old : IsSpace before place)
      (touch : EdgeAdjacent place beyond) : IsSpace before beyond :=
    beside_fresh_room laid place old odd' touch
  have around (place : GridPosition) (old : IsSpace before place)
      (touch : EdgeAdjacent place passage) : place = room ∨ place = beyond :=
    beside_passage laid place old odd straight touch
  refine (opened.joined source target).mpr ?_
  rcases (opened.space source).mp floor with old | rfl | rfl
  · rcases (opened.space target).mp floor' with old' | rfl | rfl
    · exact Or.inl ((laid.joined source target).mpr ⟨old, old', beside⟩)
    · rcases around source old beside with rfl | rfl
      · exact Or.inr (Or.inl (Or.inl ⟨rfl, rfl⟩))
      · exact Or.inr (Or.inr (Or.inr ⟨rfl, rfl⟩))
    · exact Or.inl ((laid.joined source _).mpr ⟨old, settled source old beside, beside⟩)
  · rcases (opened.space target).mp floor' with old' | rfl | rfl
    · rcases around target old' ((edge_adjacent_symm _ _).mp beside) with rfl | rfl
      · exact Or.inr (Or.inl (Or.inr ⟨rfl, rfl⟩))
      · exact Or.inr (Or.inr (Or.inl ⟨rfl, rfl⟩))
    · simp only [EdgeAdjacent] at beside; omega
    · exact Or.inr (Or.inr (Or.inl ⟨rfl, rfl⟩))
  · rcases (opened.space target).mp floor' with old' | rfl | rfl
    · have known := settled target old' ((edge_adjacent_symm _ _).mp beside)
      exact Or.inl ((laid.joined _ target).mpr ⟨known, old', beside⟩)
    · exact Or.inr (Or.inr (Or.inr ⟨rfl, rfl⟩))
    · simp only [EdgeAdjacent] at beside; omega

/-- After the opening the connections are those of neighbours on the floor. -/
theorem opens_joined_iff (laid : WellLaid width height before) (start : IsSpace before room)
    (odd : room.row % 2 = 1 ∧ room.column % 2 = 1)
    (odd' : beyond.row % 2 = 1 ∧ beyond.column % 2 = 1) (straight : Straight room passage beyond)
    (opened : Opens before after room passage beyond) (source target : GridPosition) :
    Joined after source target ↔
      IsSpace after source ∧ IsSpace after target ∧ EdgeAdjacent source target := by
  obtain ⟨near, far⟩ := straight_beside straight
  obtain ⟨keep, passageOpen, beyondOpen⟩ := opens_floor opened
  constructor
  · intro wired
    rcases (opened.joined source target).mp wired with old | (⟨rfl, rfl⟩ | ⟨rfl, rfl⟩) |
        (⟨rfl, rfl⟩ | ⟨rfl, rfl⟩)
    · obtain ⟨floor, floor', beside⟩ := (laid.joined source target).mp old
      exact ⟨keep source floor, keep target floor', beside⟩
    · exact ⟨keep _ start, passageOpen, near⟩
    · exact ⟨passageOpen, keep _ start, (edge_adjacent_symm _ _).mp near⟩
    · exact ⟨passageOpen, beyondOpen, far⟩
    · exact ⟨beyondOpen, passageOpen, (edge_adjacent_symm _ _).mp far⟩
  · rintro ⟨floor, floor', beside⟩
    exact opens_joins laid odd odd' straight opened source target floor floor' beside

/-- The old floor keeps its paths; the passage and the far room extend the one to
    the room. -/
theorem opens_reached (laid : WellLaid width height before) (start : IsSpace before room)
    (opened : Opens before after room passage beyond) (place : GridPosition)
    (floor : IsSpace after place) : Relation.ReflTransGen (Joined after) spawnRoom place := by
  have old (other : GridPosition) (was : IsSpace before other) :
      Relation.ReflTransGen (Joined after) spawnRoom other :=
    Relation.ReflTransGen.mono (fun source target joined =>
      (opened.joined source target).mpr (Or.inl joined)) _ _ (laid.reached other was)
  have outward : Joined after room passage :=
    (opened.joined room passage).mpr (Or.inr (Or.inl (Or.inl ⟨rfl, rfl⟩)))
  have onward : Joined after passage beyond :=
    (opened.joined passage beyond).mpr (Or.inr (Or.inr (Or.inl ⟨rfl, rfl⟩)))
  rcases (opened.space place).mp floor with was | rfl | rfl
  · exact old place was
  · exact (old room start).tail outward
  · exact ((old room start).tail outward).tail onward

/-- Opening a passage between an open room and any room keeps the invariant. -/
theorem opens_well_laid (laid : WellLaid width height before) (start : IsSpace before room)
    (roomOk : IsRoom width height room) (beyondOk : IsRoom width height beyond)
    (straight : Straight room passage beyond) (opened : Opens before after room passage beyond) :
    WellLaid width height after := by
  obtain ⟨roomRow, roomColumn, roomIn⟩ := roomOk
  obtain ⟨beyondRow, beyondColumn, beyondIn⟩ := beyondOk
  refine ⟨opened.shape height width laid.shape, ?_, ?_, ?_,
    opens_upright laid start roomRow beyondRow straight opened,
    opens_sideways laid start roomColumn beyondColumn straight opened,
    opens_joined_iff laid start ⟨roomRow, roomColumn⟩ ⟨beyondRow, beyondColumn⟩ straight opened,
    opened.nodup laid.nodup, opens_reached laid start opened⟩
  · intro place tile found
    have same := opened.placed place
    rw [found] at same
    cases old : tileAt? before place with
    | none => simp [old] at same
    | some tile' =>
        have kept := laid.placed place tile' old
        simpa [old, kept] using same
  · intro place floor
    rcases (opened.space place).mp floor with old | rfl | rfl
    · exact laid.interior place old
    · simp only [Straight, Interior] at straight roomIn beyondIn ⊢; omega
    · exact beyondIn
  · intro place floor
    rcases (opened.space place).mp floor with old | rfl | rfl
    · exact laid.noPillar place old
    · simp only [Straight] at straight; omega
    · exact Or.inl beyondRow

end Opening
end RelicRace
