import RelicRace.Maze.Openings

/-!
Which passages `openUpMap` opens at a dead end. `nodeDirections` reports a
connection to the left as `right` and one to the right as `left`, so the filter
drops the way across the room from a sideways connection and keeps the way back.
The way back is never taken, because its passage has two connections.
-/

namespace RelicRace
open Library

/-- The direction that `nodeDirections` reports in the place of another one. -/
def Direction.mirrored : Direction → Direction
  | .left => .right
  | .right => .left
  | .up => .up
  | .down => .down
  | .none => .none

theorem direction_to_iff (node : GKGridGraphNode) (target : GridPosition)
    (possibility : Direction) (real : possibility ≠ .none) :
    possibility ∈ node.directionTo target ↔
      target = node.gridPosition.towards possibility.mirrored 1 := by
  simp only [GKGridGraphNode.directionTo, GridPosition.ext_iff, GridPosition.towards]
  cases possibility with
  | none => exact absurd rfl real
  | up => split_ifs <;> simp [Direction.mirrored, Direction.offset] <;> omega
  | down => split_ifs <;> simp [Direction.mirrored, Direction.offset] <;> omega
  | left => split_ifs <;> simp [Direction.mirrored, Direction.offset] <;> omega
  | right => split_ifs <;> simp [Direction.mirrored, Direction.offset] <;> omega

theorem node_directions_iff (node : GKGridGraphNode) (possibility : Direction)
    (real : possibility ≠ .none) :
    possibility ∈ node.nodeDirections ↔
      node.gridPosition.towards possibility.mirrored 1 ∈ node.connectedNodes := by
  simp only [GKGridGraphNode.nodeDirections, List.mem_flatMap,
    direction_to_iff node _ possibility real]
  exact exists_eq_right

/-- The cells around a place in different directions are different. -/
theorem towards_apart (place : GridPosition) (first second : Direction) (real : first ≠ .none)
    (real' : second ≠ .none) (apart : first ≠ second) (near far : Int)
    (steps : near = 1 ∨ near = 2) (steps' : far = 1 ∨ far = 2) :
    place.towards first near ≠ place.towards second far := by
  simp only [ne_eq, GridPosition.ext_iff, GridPosition.towards]
  cases first <;> cases second <;> simp only [Direction.offset] <;> first
    | exact absurd rfl real
    | exact absurd rfl real'
    | exact absurd rfl apart
    | omega

theorem towards_away (place : GridPosition) (possibility : Direction) (real : possibility ≠ .none)
    (near : Int) (steps : near = 1 ∨ near = 2) : place.towards possibility near ≠ place := by
  simp only [ne_eq, GridPosition.ext_iff, GridPosition.towards]
  cases possibility <;> simp only [Direction.offset] <;> first
    | exact absurd rfl real
    | omega

namespace Maze

/-- The state of the scan when it comes to a cell. -/
def scanBefore (data : Grid MazeTile) (y x : Nat) : Except Fault (Grid MazeTile) := do
  let data ← Loops.upTo openUpRow data y
  Loops.upTo (fun data x => openUpCell data y x) data x

theorem open_up_map_scans (data : Grid MazeTile) :
    openUpMap data = scanBefore data data.length 0 := by
  rw [scanBefore]
  exact (bind_pure _).symm

/-- The state in which the turn of a direction comes: the candidates that the
    border rule lists before it have been tried. -/
def turnOf (data : Grid MazeTile) (place : GridPosition) (possibility : Direction) :
    Except Fault (Grid MazeTile) := do
  let tile ← indexed (tileAt? data place)
  (((borderRule place.row place.column).takeWhile (· ≠ possibility)).filter
    (· ∉ tile.node.nodeDirections)).foldlM (tryPossibility place) data

/-- An opening that is meant: the cell is a dead end, the border rule lists the
    direction, the cell is not connected that way, and the counts are right when
    the turn of the direction comes. -/
def Meant (data : Grid MazeTile) (place : GridPosition) (possibility : Direction) : Prop :=
  (links data place).length = 1 ∧ possibility ∈ borderRule place.row place.column ∧
    ¬ Joined data place (place.towards possibility 1) ∧
    ∃ turn, turnOf data place possibility = .ok turn ∧ Openable turn place possibility

/-- The passages in the given directions are opened and no other ones. -/
def OpensExactly (before after : Grid MazeTile) (place : GridPosition)
    (directions : Direction → Prop) : Prop :=
  Effect before after
    (fun cell => ∃ possibility, directions possibility ∧
      (cell = place.towards possibility 1 ∨ cell = place.towards possibility 2))
    (fun source target => ∃ possibility, directions possibility ∧
      (Wire place (place.towards possibility 1) source target ∨
        Wire (place.towards possibility 1) (place.towards possibility 2) source target))

/-- What the scan does at a cell is what is meant. -/
def OpensMeant (data : Grid MazeTile) (y x : Nat) : Prop :=
  ∃ after, openUpCell data y x = .ok after ∧
    OpensExactly data after ⟨x, y⟩ (Meant data ⟨x, y⟩)

/-- An inner dead end that is connected on one side and has, two cells away on
    the other side, a room with at most two connections. -/
def FacesAcross (data : Grid MazeTile) (place : GridPosition) : Prop :=
  (links data place).length = 1 ∧
    1 < place.column ∧ place.column < (MAX_COLUMNS : Int) - 2 ∧
    1 < place.row ∧ place.row < (MAX_ROWS : Int) - 2 ∧
    ((Joined data place ⟨place.column - 1, place.row⟩ ∧
        (links data ⟨place.column + 2, place.row⟩).length ≤ 2) ∨
      (Joined data place ⟨place.column + 1, place.row⟩ ∧
        (links data ⟨place.column - 2, place.row⟩).length ≤ 2))

/-! ### One dead end -/

section Cell
variable {width height : Nat} {data before after : Grid MazeTile} {place : GridPosition}

theorem opens_one {possibility : Direction}
    (opened : Opens before after place (place.towards possibility 1)
      (place.towards possibility 2)) :
    OpensExactly before after place (· = possibility) :=
  opened.weaken (by simp) (by simp)

theorem opens_both {last : Grid MazeTile} {directions directions' : Direction → Prop}
    (first : OpensExactly before after place directions)
    (next : OpensExactly after last place directions') :
    OpensExactly before last place (fun possibility =>
      directions possibility ∨ directions' possibility) :=
  (first.trans next).weaken (fun _ => by simp only [or_and_right, exists_or])
    (fun _ _ => by simp only [or_and_right, exists_or])

/-- Lists without repetitions that have the same members have the same length. -/
theorem links_length (unique : (links before place).Nodup) (unique' : (links after place).Nodup)
    (same : ∀ target, Joined after place target ↔ Joined before place target) :
    (links after place).length = (links before place).length :=
  ((List.perm_ext_iff_of_nodup unique' unique).mpr same).length_eq

/-- The counts of a direction change only when its own passage is opened. -/
theorem openable_untouched {directions : Direction → Prop}
    (exact : OpensExactly before after place directions)
    (real : ∀ possibility, directions possibility → possibility ≠ .none)
    (unique : ∀ cell, (links before cell).Nodup) (possibility : Direction)
    (real' : possibility ≠ .none) (fresh : ¬ directions possibility) :
    Openable after place possibility ↔ Openable before place possibility := by
  have untouched (steps : Int) (few : steps = 1 ∨ steps = 2) :
      (links after (place.towards possibility steps)).length =
        (links before (place.towards possibility steps)).length := by
    refine links_length (unique _) (exact.nodup unique _) fun target => ?_
    rw [exact.joined, or_iff_left_iff_imp]
    rintro ⟨other, listed, wired⟩
    have apart (near : Int) (near' : near = 1 ∨ near = 2) :
        place.towards possibility steps ≠ place.towards other near :=
      towards_apart place possibility other real' (real other listed)
        (fun same => fresh (same ▸ listed)) steps near few near'
    have away := towards_away place possibility real' steps few
    have near := apart 1 (Or.inl rfl)
    have far := apart 2 (Or.inr rfl)
    rcases wired with (⟨same, -⟩ | ⟨same, -⟩) | (⟨same, -⟩ | ⟨same, -⟩)
    · exact absurd same away
    · exact absurd same near
    · exact absurd same near
    · exact absurd same far
  rw [Openable, untouched 1 (Or.inl rfl), untouched 2 (Or.inr rfl), Openable]

theorem border_rule_nodup (y x : Int) : (borderRule y x).Nodup := by
  simp only [borderRule]
  split_ifs <;> decide

theorem opens_none (data : Grid MazeTile) (place : GridPosition) :
    OpensExactly data data place (fun _ => False) :=
  ⟨fun _ _ shape => shape, fun _ => rfl, by simp, by simp, id⟩

theorem opens_congr {directions directions' : Direction → Prop}
    (exact : OpensExactly before after place directions)
    (same : ∀ possibility, directions possibility ↔ directions' possibility) :
    OpensExactly before after place directions' :=
  exact.weaken (fun _ => by simp only [same]) (fun _ _ => by simp only [same])

/-- The rounds for a list of directions open the passages whose counts are right. -/
theorem try_all_opens (possibilities : List Direction) (unique : possibilities.Nodup)
    (laid : WellLaid width height data) (room : IsRoom width height place)
    (floor : IsSpace data place)
    (targets : ∀ possibility ∈ possibilities,
      possibility ≠ .none ∧ IsRoom width height (place.towards possibility 2)) :
    ∃ after, possibilities.foldlM (tryPossibility place) data = .ok after ∧
      OpensExactly data after place (fun possibility =>
        possibility ∈ possibilities ∧ Openable data place possibility) := by
  induction possibilities generalizing data with
  | nil => exact ⟨data, rfl, opens_congr (opens_none data place) (by simp)⟩
  | cons possibility rest ih =>
      obtain ⟨real, target⟩ := targets possibility List.mem_cons_self
      obtain ⟨fresh, unique⟩ := List.nodup_cons.mp unique
      have others := fun other member => targets other (List.mem_cons_of_mem possibility member)
      obtain ⟨middle, ran, ⟨few, opened⟩ | ⟨many, rfl⟩⟩ :=
        try_possibility_cases width height data laid place possibility room real target
      · have laid' := opens_well_laid laid floor room target
          (towards_straight place possibility real) opened
        obtain ⟨after, ran', exact⟩ :=
          ih unique laid' ((opens_floor opened).1 place floor) others
        refine ⟨after, by simp [List.foldlM_cons, ran, ran'],
          opens_congr (opens_both (opens_one opened) exact) fun other => ?_⟩
        -- The opening leaves the counts of the other directions as they were.
        have kept (member : other ∈ rest) :
            Openable middle place other ↔ Openable data place other :=
          openable_untouched (opens_one opened) (fun _ same => same ▸ real) laid.nodup other
            (others other member).1 (fun same => fresh (same ▸ member))
        by_cases same : other = possibility
        · simp [same, few]
        · simp only [same, false_or, List.mem_cons]
          exact and_congr_right kept
      · obtain ⟨after, ran', exact⟩ := ih unique laid floor others
        refine ⟨after, by simp [List.foldlM_cons, ran, ran'],
          opens_congr exact fun other => ?_⟩
        by_cases same : other = possibility
        · simp [same, fresh, many]
        · simp [same]

theorem candidate_iff (laid : WellLaid width height data) {tile : MazeTile}
    (present : tileAt? data place = some tile) (possibility : Direction)
    (real : possibility ≠ .none) :
    possibility ∈ candidates tile.node place.row place.column ↔
      possibility ∈ borderRule place.row place.column ∧
        ¬ Joined data place (place.towards possibility.mirrored 1) := by
  rw [candidates, List.mem_filter, decide_eq_true_eq, node_directions_iff _ _ real,
    laid.placed place tile present, Joined, links, present]

/-- The way back through the passage of a connection fails the count. -/
theorem joined_not_openable (laid : WellLaid width height data)
    (room : IsRoom width height place) (possibility : Direction) (real : possibility ≠ .none)
    (joined : Joined data place (place.towards possibility 1)) :
    ¬ Openable data place possibility := by
  rintro ⟨few, -⟩
  have straight := towards_straight place possibility real
  obtain ⟨floor, passage, beside⟩ := (laid.joined place _).mp joined
  have back : Joined data (place.towards possibility 1) place :=
    (laid.joined _ _).mpr ⟨passage, floor, (edge_adjacent_symm _ _).mp beside⟩
  obtain ⟨-, far⟩ := straight_beside straight
  have odd : (place.towards possibility 2).row % 2 = 1 ∧
      (place.towards possibility 2).column % 2 = 1 := by
    obtain ⟨oddRow, oddColumn, -⟩ := room
    simp only [Straight] at straight
    omega
  have beyond := beside_fresh_room laid _ passage odd far
  have onward : Joined data (place.towards possibility 1) (place.towards possibility 2) :=
    (laid.joined _ _).mpr ⟨passage, beyond, far⟩
  have away := towards_away place possibility real 2 (Or.inr rfl)
  -- Two different connections do not fit into a list of at most one.
  simp only [Joined] at back onward
  rcases listed : links data (place.towards possibility 1) with _ | ⟨only, _ | ⟨second, rest⟩⟩
  · simp [listed] at back
  · rw [listed, List.mem_singleton] at back onward
    exact away (onward.trans back.symm)
  · simp [listed] at few

end Cell

section Scan
variable {data : Grid MazeTile} {place : GridPosition}

/-- What a cell of the scan opens, in terms of the map that the scan finds. -/
def Taken (data : Grid MazeTile) (place : GridPosition) (possibility : Direction) : Prop :=
  (links data place).length = 1 ∧ possibility ∈ borderRule place.row place.column ∧
    ¬ Joined data place (place.towards possibility.mirrored 1) ∧ Openable data place possibility

theorem cell_opens (scanned : Scanned data) (y x : Nat)
    (inside : Grid.Inside MAX_ROWS MAX_COLUMNS y x) :
    ∃ after, openUpCell data y x = .ok after ∧
      OpensExactly data after ⟨x, y⟩ (Taken data ⟨x, y⟩) := by
  obtain ⟨laid, rooms⟩ := scanned
  obtain ⟨tile, present⟩ := Grid.at_inside data MAX_ROWS MAX_COLUMNS laid.shape y x inside
  have here : tileAt? data ⟨x, y⟩ = some tile := present
  have count : (links data ⟨x, y⟩).length = tile.node.connectedNodes.length := by
    rw [links, here]
  simp only [openUpCell, here, indexed, run_ok]
  by_cases single : tile.node.connectedNodes.length = 1
  · rw [if_neg (not_not.mpr single)]
    obtain ⟨room, floor⟩ := dead_end_room _ _ data laid ⟨x, y⟩ (count.trans single)
    have listed {possibility : Direction} (member : possibility ∈ candidates tile.node y x) :
        possibility ∈ borderRule y x := (List.mem_filter.mp member).1
    obtain ⟨after, ran, exact⟩ := try_all_opens (candidates tile.node y x)
      ((border_rule_nodup y x).filter _) laid room floor
      fun possibility member => border_rule_room ⟨x, y⟩ room possibility (listed member)
    refine ⟨after, ran, opens_congr exact fun possibility => ?_⟩
    by_cases proposed : possibility ∈ borderRule y x
    · have candidate := candidate_iff laid here possibility (border_rule_real y x _ proposed)
      simp only [candidate, Taken, count.trans single, proposed, true_and]
    · exact iff_of_false (fun both => proposed (listed both.1)) (fun taken => proposed taken.2.1)
  · rw [if_pos single]
    refine ⟨data, rfl, opens_congr (opens_none data _) fun possibility => ?_⟩
    simp [Taken, count, single]

/-- At its turn a direction has the counts that the scan found. -/
theorem turn_counts (scanned : Scanned data) (single : (links data place).length = 1)
    (possibility : Direction) (real : possibility ≠ .none) :
    ∃ turn, turnOf data place possibility = .ok turn ∧
      (Openable turn place possibility ↔ Openable data place possibility) := by
  obtain ⟨laid, rooms⟩ := scanned
  obtain ⟨room, floor⟩ := dead_end_room _ _ data laid place single
  obtain ⟨tile, present⟩ := interior_present _ _ data laid.shape place room.2.2
  have before : ∀ other ∈ ((borderRule place.row place.column).takeWhile (· ≠ possibility)).filter
      (· ∉ tile.node.nodeDirections),
      other ∈ borderRule place.row place.column ∧ other ≠ possibility := by
    intro other member
    have taken := (List.mem_filter.mp member).1
    exact ⟨List.takeWhile_subset _ taken, by
      simpa using List.all_eq_true.mp List.all_takeWhile other taken⟩
  obtain ⟨turn, ran, exact⟩ := try_all_opens _
    (((border_rule_nodup _ _).sublist (List.takeWhile_sublist _)).filter _) laid room floor
    fun other member => border_rule_room place room other (before other member).1
  refine ⟨turn, by simp only [turnOf, present, indexed, run_ok, ran], ?_⟩
  refine openable_untouched exact ?_ laid.nodup possibility real ?_
  · exact fun other listed => (border_rule_room place room other (before other listed.1).1).1
  · exact fun listed => (before possibility listed.1).2 rfl

theorem meant_iff (scanned : Scanned data) (possibility : Direction) :
    Meant data place possibility ↔
      (links data place).length = 1 ∧ possibility ∈ borderRule place.row place.column ∧
        ¬ Joined data place (place.towards possibility 1) ∧ Openable data place possibility := by
  refine and_congr_right fun single => and_congr_right fun listed => and_congr_right fun _ => ?_
  obtain ⟨turn, ran, counts⟩ :=
    turn_counts scanned single possibility (border_rule_real _ _ _ listed)
  constructor
  · rintro ⟨turn', ran', few⟩
    obtain rfl := Except.ok.inj (ran.symm.trans ran')
    exact counts.mp few
  · exact fun few => ⟨turn, ran, counts.mpr few⟩

/-- The border rule lists both sideways directions away from the border, and
    towards the way back of a connection it lists one nowhere else. -/
theorem sideways_listed_iff (laid : WellLaid MAX_COLUMNS MAX_ROWS data)
    (room : IsRoom MAX_COLUMNS MAX_ROWS place) (side : Direction)
    (sideways : side = .left ∨ side = .right)
    (joined : Joined data place (place.towards side.mirrored 1)) :
    side ∈ borderRule place.row place.column ↔
      1 < place.column ∧ place.column < (MAX_COLUMNS : Int) - 2 ∧
        1 < place.row ∧ place.row < (MAX_ROWS : Int) - 2 := by
  have inner := laid.interior _ ((laid.joined _ _).mp joined).2.1
  obtain ⟨-, -, bounds⟩ := room
  simp only [Interior, MAX_COLUMNS, MAX_ROWS] at inner bounds ⊢
  constructor
  · intro listed
    have why := border_rule_cases place.row place.column side listed
    simp only [MAX_COLUMNS, MAX_ROWS] at why
    rcases sideways with rfl | rfl
    · simp [GridPosition.towards, Direction.mirrored, Direction.offset] at inner why
      omega
    · simp [GridPosition.towards, Direction.mirrored, Direction.offset] at inner why
      omega
  · intro away
    rw [border_rule_inner _ _ (by simp only [MAX_COLUMNS, MAX_ROWS]; omega)]
    rcases sideways with rfl | rfl <;> decide

variable (place) in
/-- Across the room from a sideways connection the first count is always right. -/
theorem across_meant_iff (scanned : Scanned data) (side : Direction)
    (sideways : side = .left ∨ side = .right) :
    (Meant data place side ∧ Joined data place (place.towards side.mirrored 1)) ↔
      (links data place).length = 1 ∧
        (1 < place.column ∧ place.column < (MAX_COLUMNS : Int) - 2 ∧
          1 < place.row ∧ place.row < (MAX_ROWS : Int) - 2) ∧
        Joined data place (place.towards side.mirrored 1) ∧
        (links data (place.towards side 2)).length ≤ 2 := by
  rw [meant_iff scanned, and_assoc]
  refine and_congr_right fun single => ?_
  obtain ⟨room, floor⟩ := dead_end_room _ _ data scanned.1 place single
  have real : side ≠ .none := by rcases sideways with rfl | rfl <;> simp
  constructor
  · rintro ⟨⟨listed, -, -, few⟩, joined⟩
    exact ⟨(sideways_listed_iff scanned.1 room side sideways joined).mp listed, joined, few⟩
  · rintro ⟨inner, joined, few⟩
    have alone : ¬ Joined data place (place.towards side 1) := by
      intro both
      obtain ⟨only, listed⟩ := List.length_eq_one_iff.mp single
      rw [Joined, listed, List.mem_singleton] at joined both
      refine towards_apart place side side.mirrored real ?_ ?_ 1 1 (Or.inl rfl) (Or.inl rfl)
        (both.trans joined.symm)
      · rcases sideways with rfl | rfl <;> simp [Direction.mirrored]
      · rcases sideways with rfl | rfl <;> simp [Direction.mirrored]
    -- Beside the dead end, on its closed side, there is a wall without connections.
    have closed : links data (place.towards side 1) = [] := by
      refine List.eq_nil_iff_forall_not_mem.mpr fun target wired => alone ?_
      have near := (straight_beside (towards_straight place side real)).1
      exact (scanned.1.joined _ _).mpr ⟨floor, ((scanned.1.joined _ target).mp wired).1, near⟩
    exact ⟨⟨(sideways_listed_iff scanned.1 room side sideways joined).mpr inner, alone,
      by simp [closed], few⟩, joined⟩

theorem faces_across_iff (scanned : Scanned data) :
    FacesAcross data place ↔ ∃ possibility, Meant data place possibility ∧
      Joined data place (place.towards possibility.mirrored 1) := by
  have left1 : place.towards .left 1 = ⟨place.column - 1, place.row⟩ := by
    simp [GridPosition.towards, Direction.offset]
    omega
  have right1 : place.towards .right 1 = ⟨place.column + 1, place.row⟩ := by
    simp [GridPosition.towards, Direction.offset]
  have left2 : place.towards .left 2 = ⟨place.column - 2, place.row⟩ := by
    simp [GridPosition.towards, Direction.offset]
    omega
  have right2 : place.towards .right 2 = ⟨place.column + 2, place.row⟩ := by
    simp [GridPosition.towards, Direction.offset]
  have left := across_meant_iff place scanned .left (Or.inl rfl)
  have right := across_meant_iff place scanned .right (Or.inr rfl)
  simp only [Direction.mirrored] at left right
  rw [FacesAcross, ← left1, ← right1, ← left2, ← right2]
  constructor
  · rintro ⟨single, low, high, top, bottom, ⟨joined, few⟩ | ⟨joined, few⟩⟩
    · exact ⟨.right, right.mpr ⟨single, ⟨low, high, top, bottom⟩, joined, few⟩⟩
    · exact ⟨.left, left.mpr ⟨single, ⟨low, high, top, bottom⟩, joined, few⟩⟩
  · rintro ⟨possibility, meant, joined⟩
    cases possibility with
    | none => exact absurd rfl (border_rule_real _ _ _ meant.2.1)
    -- Upwards and downwards the reported direction is the one that is connected.
    | up => exact absurd joined meant.2.2.1
    | down => exact absurd joined meant.2.2.1
    | left =>
        obtain ⟨single, ⟨low, high, top, bottom⟩, wired, few⟩ := left.mp ⟨meant, joined⟩
        exact ⟨single, low, high, top, bottom, Or.inr ⟨wired, few⟩⟩
    | right =>
        obtain ⟨single, ⟨low, high, top, bottom⟩, wired, few⟩ := right.mp ⟨meant, joined⟩
        exact ⟨single, low, high, top, bottom, Or.inl ⟨wired, few⟩⟩

/-- Apart from the meant openings that are dropped, the scan takes what is meant. -/
theorem taken_iff (scanned : Scanned data) (possibility : Direction) :
    Taken data place possibility ↔ Meant data place possibility ∧
      ¬ Joined data place (place.towards possibility.mirrored 1) := by
  rw [meant_iff scanned, Taken]
  constructor
  · rintro ⟨single, listed, apart, few⟩
    have room := (dead_end_room _ _ data scanned.1 place single).1
    refine ⟨⟨single, listed, fun joined => ?_, few⟩, apart⟩
    exact joined_not_openable scanned.1 room possibility (border_rule_real _ _ _ listed) joined few
  · rintro ⟨⟨single, listed, -, few⟩, apart⟩
    exact ⟨single, listed, apart, few⟩

/-- A passage that was closed and is not among the directions stays closed. -/
theorem opens_exactly_closed {before after : Grid MazeTile} {directions : Direction → Prop}
    (exact : OpensExactly before after place directions)
    (real : ∀ possibility, directions possibility → possibility ≠ .none)
    (possibility : Direction) (real' : possibility ≠ .none)
    (closed : ¬ Joined before place (place.towards possibility 1)) :
    Joined after place (place.towards possibility 1) ↔ directions possibility := by
  rw [exact.joined, or_iff_right closed]
  constructor
  · rintro ⟨other, listed, wired⟩
    have around (near : Int) (few : near = 1 ∨ near = 2) : place ≠ place.towards other near :=
      (towards_away place other (real other listed) near few).symm
    rcases wired with (⟨-, same⟩ | ⟨same, -⟩) | (⟨same, -⟩ | ⟨same, -⟩)
    · by_contra missing
      exact towards_apart place possibility other real' (real other listed)
        (fun eq => missing (eq ▸ listed)) 1 1 (Or.inl rfl) (Or.inl rfl) same
    · exact absurd same (around 1 (Or.inl rfl))
    · exact absurd same (around 1 (Or.inl rfl))
    · exact absurd same (around 2 (Or.inr rfl))
  · exact fun listed => ⟨possibility, listed, Or.inl (Or.inl ⟨rfl, rfl⟩)⟩

theorem opens_meant_iff (scanned : Scanned data) (y x : Nat)
    (inside : Grid.Inside MAX_ROWS MAX_COLUMNS y x) :
    OpensMeant data y x ↔ ¬ FacesAcross data ⟨x, y⟩ := by
  obtain ⟨after, ran, exact⟩ := cell_opens scanned y x inside
  constructor
  · rintro ⟨after', ran', exact'⟩ faces
    obtain rfl := Except.ok.inj (ran.symm.trans ran')
    obtain ⟨possibility, meant, joined⟩ := (faces_across_iff scanned).mp faces
    have real := border_rule_real _ _ _ meant.2.1
    have opened := (opens_exactly_closed exact'
      (fun other listed => border_rule_real _ _ _ listed.2.1) possibility real meant.2.2.1).mpr
      meant
    have taken := (opens_exactly_closed exact
      (fun other listed => border_rule_real _ _ _ listed.2.1) possibility real meant.2.2.1).mp
      opened
    exact taken.2.2.1 joined
  · intro clear
    refine ⟨after, ran, opens_congr exact fun possibility => ?_⟩
    rw [taken_iff scanned, and_iff_left_iff_imp]
    exact fun meant joined =>
      clear ((faces_across_iff scanned).mpr ⟨possibility, meant, joined⟩)

/-- Every cell of the map has its turn in the scan. -/
theorem scan_before_returns (scanned : Scanned data) (y x : Nat) (within : y < MAX_ROWS)
    (reach : x < MAX_COLUMNS) :
    ∃ state, scanBefore data y x = .ok state ∧ Scanned state := by
  obtain ⟨middle, ran, kept⟩ := loop_keeps openUpRow Scanned (List.range y)
    (fun row listed state good => open_up_row_keeps state good row
      (lt_trans (List.mem_range.mp listed) within)) data scanned
  obtain ⟨state, ran', kept'⟩ := loop_keeps (fun data x => openUpCell data y x) Scanned
    (List.range x) (fun column listed state good => open_up_cell_keeps state good y column (by
      have := List.mem_range.mp listed
      simp only [Grid.Inside]
      omega)) middle kept
  exact ⟨state, by simp only [scanBefore, Loops.upTo, ran, ran', run_ok], kept'⟩

end Scan

/-- The scan of a map comes to a cell in a state. -/
structure Examines (data : Grid MazeTile) (y x : Nat) (state : Grid MazeTile) : Prop where
  row : y < MAX_ROWS
  column : x < MAX_COLUMNS
  reached : scanBefore data y x = .ok state

theorem examined_meant_iff {data state : Grid MazeTile} (scanned : Scanned data) {y x : Nat}
    (examined : Examines data y x state) : OpensMeant state y x ↔ ¬ FacesAcross state ⟨x, y⟩ := by
  obtain ⟨row, column, reached⟩ := examined
  obtain ⟨state', ran, kept⟩ := scan_before_returns scanned y x row column
  obtain rfl := Except.ok.inj (ran.symm.trans reached)
  exact opens_meant_iff kept y x (by simp only [Grid.Inside]; omega)

/-- In every maze that `carve` produces the scan comes to every cell, and it opens
    at every cell what is meant and nothing else exactly when no dead end that it
    finds faces a room with at most two connections across from a sideways
    connection. -/
theorem scan_opens_meant_iff (extra : Nat) (draws : Nat → Nat) :
    ∃ maze, carved MAX_COLUMNS MAX_ROWS (roundBound MAX_COLUMNS MAX_ROWS + extra) draws =
        .ok maze ∧
      (∀ y x, y < MAX_ROWS → x < MAX_COLUMNS → ∃ state, Examines maze.data y x state) ∧
      ((∀ y x state, Examines maze.data y x state → OpensMeant state y x) ↔
        ∀ y x state, Examines maze.data y x state → ¬ FacesAcross state ⟨x, y⟩) := by
  obtain ⟨maze, ran, laid, -, -, rooms⟩ := carved_returns MAX_COLUMNS MAX_ROWS
    (roundBound MAX_COLUMNS MAX_ROWS + extra) draws (by decide) (by decide) (by omega)
  refine ⟨maze, ran, ?_, forall₂_congr fun y x => forall₂_congr fun state examined => ?_⟩
  · intro y x row column
    obtain ⟨state, reached, -⟩ := scan_before_returns ⟨laid, rooms⟩ y x row column
    exact ⟨state, row, column, reached⟩
  · exact examined_meant_iff ⟨laid, rooms⟩ examined

instance (data : Grid MazeTile) (place : GridPosition) : Decidable (FacesAcross data place) :=
  inferInstanceAs (Decidable (_ ∧ _))

/-- Every number is drawn eleven times, in ascending order. -/
def elevenOfEach : Nat → Nat := fun index => index / 11

theorem eleven_found :
    ((carved 37 21 (roundBound 37 21) elevenOfEach).toOption.any
      fun maze => (scanBefore maze.data 3 11).toOption.any fun state =>
        FacesAcross state ⟨11, 3⟩) = true := by
  decide +kernel

/-- With these draws the dead end in row 3 and column 11 faces a room across. -/
theorem eleven_faces_across {maze : Maze} {state : Grid MazeTile}
    (ran : carved 37 21 (roundBound 37 21) elevenOfEach = .ok maze)
    (reached : scanBefore maze.data 3 11 = .ok state) : FacesAcross state ⟨11, 3⟩ := by
  have found := eleven_found
  rw [ran] at found
  change Option.any _ (scanBefore maze.data 3 11).toOption = true at found
  rw [reached] at found
  exact of_decide_eq_true found

theorem way_across_dropped : ¬ ∀ (draws : Nat → Nat) (maze : Maze),
    carved MAX_COLUMNS MAX_ROWS (roundBound MAX_COLUMNS MAX_ROWS) draws = .ok maze →
    ∀ y x state, Examines maze.data y x state → OpensMeant state y x := by
  intro meant
  obtain ⟨maze, ran, laid, -, -, rooms⟩ := carved_returns MAX_COLUMNS MAX_ROWS
    (roundBound MAX_COLUMNS MAX_ROWS) elevenOfEach (by decide) (by decide) le_rfl
  obtain ⟨state, reached, -⟩ :=
    scan_before_returns ⟨laid, rooms⟩ 3 11 (by decide) (by decide)
  have examined : Examines maze.data 3 11 state := ⟨by decide, by decide, reached⟩
  exact (examined_meant_iff ⟨laid, rooms⟩ examined).mp
    (meant elevenOfEach maze ran 3 11 state examined) (eleven_faces_across ran reached)

end Maze
end RelicRace
