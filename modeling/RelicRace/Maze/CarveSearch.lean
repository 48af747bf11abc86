import Mathlib.Data.Finset.Prod
import Mathlib.Data.Finset.Image
import Mathlib.Order.Interval.Finset.Nat
import RelicRace.Library.Exploration
import RelicRace.Maze.Passages
import RelicRace.Maze.Carve

/-!
`carve` is a stack-based exploration of the rooms of the map: one round of its
loop is one step of `Library.Exploration`, where the visited vertices are the
rooms already turned into floor. Its exit test looks at `visitedMap`, which is
also marked around every room; the test holds exactly when all rooms are floor.
-/

namespace RelicRace
open Library

/-- Rooms two cells apart in a row or a column. -/
def RoomAdjacent (width height : Nat) (source target : GridPosition) : Prop :=
  IsRoom width height source ∧ IsRoom width height target ∧
    ∃ passage, Straight source passage target

/-- The room of the two-by-two block that holds a cell. -/
def roomOf (row column : Int) : GridPosition :=
  ⟨column - (column + 1) % 2, row - (row + 1) % 2⟩

def Outer (width height : Nat) (row column : Int) : Prop :=
  row = 0 ∨ row = (height : Int) - 1 ∨ column = 0 ∨ column = (width : Int) - 1

namespace Maze

/-- The exploration that a state of `carve` stands for. -/
def search (maze : Maze) : Exploration.Search GridPosition where
  visited place := IsRoom maze.mazeWidth maze.mazeHeight place ∧ IsSpace maze.data place
  stack := maze.mazeStack.array.map gridPlace

structure Carving (width height : Nat) (maze : Maze) : Prop where
  columns : maze.mazeWidth = width
  rows : maze.mazeHeight = height
  laid : WellLaid width height maze.data
  mapShape : maze.visitedMap.Shape height width
  seen : ∀ place, IsRoom width height place →
    (maze.visitedMap.at? place.row place.column = some true ↔ IsSpace maze.data place)
  walls : ∀ row column, Grid.Inside height width row column → Outer width height row column →
    maze.visitedMap.at? row column = some true
  around : ∀ row column, Grid.Inside height width row column → ¬ Outer width height row column →
    IsSpace maze.data (roomOf row column) → maze.visitedMap.at? row column = some true
  rooms : ∀ place ∈ maze.mazeStack.array, IsRoom width height (gridPlace place)
  sound : Exploration.Sound (RoomAdjacent width height) spawnRoom maze.search

/-! ### Marking -/

theorem set_all_visited (places : List (Int × Int)) (visitedMap : Grid Bool) (rows columns : Nat)
    (shape : visitedMap.Shape rows columns)
    (inside : ∀ place ∈ places, Grid.Inside rows columns place.1 place.2) :
    ∃ after, places.foldlM setVisited visitedMap = .ok after ∧ after.Shape rows columns ∧
      ∀ row column, after.at? row column =
        if (row, column) ∈ places then some true else visitedMap.at? row column := by
  induction places generalizing visitedMap with
  | nil => exact ⟨visitedMap, rfl, shape, by simp⟩
  | cons place rest ih =>
      obtain ⟨old, present⟩ := Grid.at_inside visitedMap rows columns shape place.1 place.2
        (inside place List.mem_cons_self)
      have view := Grid.at_put visitedMap place.1 place.2 true old present
      obtain ⟨after, ran, shaped, written⟩ := ih (visitedMap.put place.1 place.2 true)
        (Grid.shape_put visitedMap rows columns shape _ _ _)
        (fun other member => inside other (List.mem_cons_of_mem place member))
      refine ⟨after, by simp [List.foldlM_cons, setVisited, present, ran], shaped, ?_⟩
      intro row column
      rw [written, view]
      by_cases later : (row, column) ∈ rest
      · simp [later]
      · by_cases same : (row, column) = place
        · subst same
          simp
        · have apart : ¬ (row = place.1 ∧ column = place.2) :=
            fun both => same (Prod.ext both.1 both.2)
          simp [later, same, apart]

theorem surroundings_iff (maze : Maze) (x y row column : Int) :
    (row, column) ∈ maze.surroundings x y ↔
      (row = x ∧ column = y) ∨
      (x > 1 ∧ row = x - 1 ∧ column = y) ∨
      (x > 1 ∧ y > 1 ∧ row = x - 1 ∧ column = y - 1) ∨
      (x > 1 ∧ y < (maze.mazeWidth : Int) - 2 ∧ row = x - 1 ∧ column = y + 1) ∨
      (y > 1 ∧ row = x ∧ column = y - 1) ∨
      (y < (maze.mazeWidth : Int) - 1 ∧ row = x ∧ column = y + 1) ∨
      (x < (maze.mazeHeight : Int) - 2 ∧ row = x + 1 ∧ column = y) ∨
      (x < (maze.mazeHeight : Int) - 2 ∧ y > 1 ∧ row = x + 1 ∧ column = y - 1) ∨
      (x < (maze.mazeHeight : Int) - 2 ∧ y < (maze.mazeWidth : Int) - 2 ∧
        row = x + 1 ∧ column = y + 1) := by
  have when (guard : Bool) (a b : Int) : (row, column) ∈ placeWhen guard a b ↔
      guard = true ∧ row = a ∧ column = b := by
    cases guard <;> simp [placeWhen]
  simp only [surroundings, List.mem_append, when, List.mem_singleton, Prod.mk.injEq,
    Bool.and_eq_true, decide_eq_true_eq, or_assoc, and_assoc]

/-- Marking stays within one cell, and within the map's border where it leaves the centre. -/
theorem surroundings_near (maze : Maze) (x y row column : Int)
    (member : (row, column) ∈ maze.surroundings x y) :
    (row = x ∨ (row = x - 1 ∧ x > 1) ∨ (row = x + 1 ∧ x < (maze.mazeHeight : Int) - 2)) ∧
      (column = y ∨ (column = y - 1 ∧ y > 1) ∨
        (column = y + 1 ∧ y < (maze.mazeWidth : Int) - 1)) := by
  rcases (surroundings_iff maze x y row column).mp member with
    h | h | h | h | h | h | h | h | h <;> omega

theorem surroundings_inside (maze : Maze) (x y : Int)
    (room : IsRoom maze.mazeWidth maze.mazeHeight (gridPlace (x, y))) :
    ∀ place ∈ maze.surroundings x y,
      Grid.Inside maze.mazeHeight maze.mazeWidth place.1 place.2 := by
  rintro ⟨row, column⟩ member
  have near := surroundings_near maze x y row column member
  simp only [IsRoom, Interior, gridPlace, Grid.Inside] at room near ⊢
  omega

/-- The block of a room holds no other room. -/
theorem surroundings_room (maze : Maze) (x y : Int) (place : GridPosition)
    (room : IsRoom maze.mazeWidth maze.mazeHeight (gridPlace (x, y)))
    (placeRoom : IsRoom maze.mazeWidth maze.mazeHeight place) :
    (place.row, place.column) ∈ maze.surroundings x y ↔ place = gridPlace (x, y) := by
  constructor
  · intro member
    have near := surroundings_near maze x y place.row place.column member
    simp only [IsRoom, gridPlace, GridPosition.ext_iff] at room placeRoom ⊢
    omega
  · rintro rfl
    exact (surroundings_iff maze x y x y).mpr (Or.inl ⟨rfl, rfl⟩)

/-- Without the border the block of a room is below and right of it. -/
theorem surroundings_block (maze : Maze) (x y row column : Int)
    (within : Grid.Inside maze.mazeHeight maze.mazeWidth row column)
    (inner : ¬ Outer maze.mazeWidth maze.mazeHeight row column)
    (block : roomOf row column = gridPlace (x, y)) : (row, column) ∈ maze.surroundings x y := by
  simp only [Grid.Inside, Outer, roomOf, gridPlace, GridPosition.mk.injEq] at within inner block
  have rowCase : row = x ∨ (row = x + 1 ∧ x < (maze.mazeHeight : Int) - 2) := by omega
  have columnCase : column = y ∨ (column = y + 1 ∧ y < (maze.mazeWidth : Int) - 2) := by omega
  rw [surroundings_iff]
  rcases rowCase with rfl | ⟨rfl, below⟩ <;> rcases columnCase with rfl | ⟨rfl, beside⟩
  · exact Or.inl ⟨rfl, rfl⟩
  · simp [show y < (maze.mazeWidth : Int) - 1 by omega]
  · simp [below]
  · simp [below, beside]

/-- Marking a room marks its block and no other room. -/
theorem mark_visited_spec (maze : Maze) (width height : Nat) (columns : maze.mazeWidth = width)
    (rows : maze.mazeHeight = height) (shape : maze.visitedMap.Shape height width) (x y : Int)
    (room : IsRoom width height (gridPlace (x, y))) :
    ∃ visitedMap, maze.markVisited x y = .ok { maze with visitedMap } ∧
      visitedMap.Shape height width ∧
      (∀ row column, maze.visitedMap.at? row column = some true →
        visitedMap.at? row column = some true) ∧
      (∀ place, IsRoom width height place → (visitedMap.at? place.row place.column = some true ↔
        maze.visitedMap.at? place.row place.column = some true ∨ place = gridPlace (x, y))) ∧
      (∀ row column, Grid.Inside height width row column → ¬ Outer width height row column →
        roomOf row column = gridPlace (x, y) → visitedMap.at? row column = some true) := by
  subst columns rows
  obtain ⟨visitedMap, ran, shaped, view⟩ := set_all_visited (maze.surroundings x y)
    maze.visitedMap maze.mazeHeight maze.mazeWidth shape (surroundings_inside maze x y room)
  refine ⟨visitedMap, by simp [markVisited, ran], shaped, ?_, ?_, ?_⟩
  · intro row column old
    rw [view]
    split
    · rfl
    · exact old
  · intro place placeRoom
    rw [view]
    have itself := surroundings_room maze x y place room placeRoom
    by_cases same : place = gridPlace (x, y)
    · rw [if_pos (itself.mpr same)]
      simp [same]
    · rw [if_neg (fun member => same (itself.mp member))]
      simp [same]
  · intro row column within inner block
    rw [view, if_pos (surroundings_block maze x y row column within inner block)]

/-! ### The exit test -/

theorem checked_iff_rooms (width height : Nat) (maze : Maze) (carving : Carving width height maze) :
    maze.checkVisited = true ↔ ∀ place, IsRoom width height place → IsSpace maze.data place := by
  rw [checkVisited, Grid.all_cells_iff maze.visitedMap id]
  constructor
  · intro every place room
    have within : Grid.Inside height width place.row place.column := by
      simp only [IsRoom, Interior, Grid.Inside] at room ⊢; omega
    obtain ⟨value, hit⟩ := Grid.at_inside maze.visitedMap height width carving.mapShape _ _ within
    have seen : value = true := every place.row place.column value hit
    exact (carving.seen place room).mp (by rw [hit, seen])
  · intro every row column value hit
    have within := Grid.inside_of_at maze.visitedMap height width carving.mapShape _ _ _ hit
    have seen : maze.visitedMap.at? row column = some true := by
      by_cases outer : Outer width height row column
      · exact carving.walls row column within outer
      · refine carving.around row column within outer (every (roomOf row column) ?_)
        simp only [IsRoom, Interior, roomOf, Grid.Inside, Outer] at within outer ⊢
        omega
    rw [hit] at seen
    simpa using seen

/-- Every room can be walked to from the first one in steps of two cells. -/
theorem rooms_connected (width height : Nat) (place : GridPosition)
    (room : IsRoom width height place) :
    Relation.ReflTransGen (RoomAdjacent width height) spawnRoom place := by
  -- First along the top row, then down the column of the room.
  have along (column : Nat) : IsRoom width height ⟨2 * column + 1, 1⟩ →
      Relation.ReflTransGen (RoomAdjacent width height) spawnRoom ⟨2 * column + 1, 1⟩ := by
    induction column with
    | zero => intro _; exact Relation.ReflTransGen.refl
    | succ column ih =>
        intro here
        have before : IsRoom width height ⟨2 * column + 1, 1⟩ := by
          simp only [IsRoom, Interior] at here ⊢; omega
        refine (ih before).tail ⟨before, here, ⟨2 * column + 2, 1⟩, Or.inl ?_⟩
        refine ⟨rfl, rfl, Or.inl ⟨?_, ?_⟩⟩ <;> dsimp only <;> omega
  have down (column row : Nat) : IsRoom width height ⟨2 * column + 1, 2 * row + 1⟩ →
      Relation.ReflTransGen (RoomAdjacent width height) spawnRoom
        ⟨2 * column + 1, 2 * row + 1⟩ := by
    induction row with
    | zero => exact along column
    | succ row ih =>
        intro here
        have before : IsRoom width height ⟨2 * column + 1, 2 * row + 1⟩ := by
          simp only [IsRoom, Interior] at here ⊢; omega
        refine (ih before).tail ⟨before, here, ⟨2 * column + 1, 2 * row + 2⟩, Or.inr ?_⟩
        refine ⟨rfl, rfl, Or.inl ⟨?_, ?_⟩⟩ <;> dsimp only <;> omega
  have columnForm : place.column = 2 * ((place.column / 2).toNat : Int) + 1 := by
    simp only [IsRoom, Interior] at room; omega
  have rowForm : place.row = 2 * ((place.row / 2).toNat : Int) + 1 := by
    simp only [IsRoom, Interior] at room; omega
  have form : place = ⟨2 * ((place.column / 2).toNat : Int) + 1,
      2 * ((place.row / 2).toNat : Int) + 1⟩ := GridPosition.ext columnForm rowForm
  rw [form] at room ⊢
  exact down _ _ room

/-- An empty stack means that the exit test holds, so `peek` is never nil. -/
theorem unfinished_stack (width height : Nat) (maze : Maze) (carving : Carving width height maze)
    (unfinished : maze.checkVisited ≠ true) :
    ∃ current rest, maze.mazeStack.array = current :: rest := by
  cases stack : maze.mazeStack.array with
  | cons current rest => exact ⟨current, rest, rfl⟩
  | nil =>
      refine absurd ((checked_iff_rooms width height maze carving).mpr ?_) unfinished
      intro place room
      -- An exhausted search has visited every room, and a visited room is marked.
      have exhausted : maze.search.stack = [] := by simp [search, stack]
      exact (Exploration.exhausted_complete _ _ _ carving.sound exhausted place
        (rooms_connected width height place room)).2

/-! ### One round -/

theorem two_away_room (width height : Nat) (maze : Maze) (columns : maze.mazeWidth = width)
    (rows : maze.mazeHeight = height) (current : Int × Int) (heading : Heading)
    (room : IsRoom width height (gridPlace current)) :
    maze.withinReach current heading = true ↔
      IsRoom width height (gridPlace (twoAway current heading)) := by
  cases heading <;>
    simp only [withinReach, twoAway, Heading.offset, gridPlace, IsRoom, Interior, columns, rows,
      decide_eq_true_eq] at room ⊢ <;>
    omega

theorem two_away_straight (current : Int × Int) (heading : Heading) :
    Straight (gridPlace current) (gridPlace (oneAway current heading))
      (gridPlace (twoAway current heading)) := by
  cases heading <;>
    simp only [Straight, gridPlace, oneAway, twoAway, Heading.offset, true_and] <;>
    omega

theorem room_adjacent_two_away (width height : Nat) (current : Int × Int)
    (room : IsRoom width height (gridPlace current)) (target : GridPosition) :
    RoomAdjacent width height (gridPlace current) target ↔
      ∃ heading, target = gridPlace (twoAway current heading) ∧ IsRoom width height target := by
  constructor
  · rintro ⟨-, targetRoom, passage, straight⟩
    rcases straight with ⟨-, row, ⟨-, right⟩ | ⟨-, left⟩⟩ | ⟨-, column, ⟨-, down⟩ | ⟨-, up⟩⟩
    · refine ⟨.east, ?_, targetRoom⟩
      ext <;> simp [gridPlace, twoAway, Heading.offset] at * <;> omega
    · refine ⟨.west, ?_, targetRoom⟩
      ext <;> simp [gridPlace, twoAway, Heading.offset] at * <;> omega
    · refine ⟨.south, ?_, targetRoom⟩
      ext <;> simp [gridPlace, twoAway, Heading.offset] at * <;> omega
    · refine ⟨.north, ?_, targetRoom⟩
      ext <;> simp [gridPlace, twoAway, Heading.offset] at * <;> omega
  · rintro ⟨heading, rfl, targetRoom⟩
    exact ⟨room, targetRoom, _, two_away_straight current heading⟩

theorem unvisited_neighbor_spec (width height : Nat) (maze : Maze)
    (carving : Carving width height maze) (current : Int × Int) (rest : List (Int × Int))
    (stack : maze.mazeStack.array = current :: rest) (heading : Heading) :
    ∃ found, maze.unvisitedNeighbor heading = .ok found ∧
      ∀ other, other ∈ found ↔ other = heading ∧
        IsRoom width height (gridPlace (twoAway current heading)) ∧
        ¬ IsSpace maze.data (gridPlace (twoAway current heading)) := by
  have room := carving.rooms current (by simp [stack])
  have reach := two_away_room width height maze carving.columns carving.rows current heading room
  simp only [unvisitedNeighbor, Stack.peek, stack, List.head?_cons, unwrapped, run_ok]
  by_cases within : maze.withinReach current heading = true
  · have target := reach.mp within
    have seen := carving.seen _ target
    have inside : Grid.Inside height width (gridPlace (twoAway current heading)).row
        (gridPlace (twoAway current heading)).column := by
      simp only [IsRoom, Interior, Grid.Inside] at target ⊢; omega
    obtain ⟨value, hit⟩ := Grid.at_inside maze.visitedMap height width carving.mapShape _ _ inside
    rw [hit] at seen
    have lookup : maze.visitedAt (twoAway current heading).1 (twoAway current heading).2 =
        .ok value := by simpa [visitedAt, gridPlace, indexed] using congrArg indexed hit
    refine ⟨if value = false then [heading] else [], by simp [within, lookup], ?_⟩
    intro other
    cases value with
    | true => simpa using fun _ _ => seen.mp rfl
    | false =>
        have wall : ¬ IsSpace maze.data (gridPlace (twoAway current heading)) :=
          fun floor => by simpa using seen.mpr floor
        simp [target, wall]
  · refine ⟨[], by simp [within], ?_⟩
    intro other
    simp only [List.not_mem_nil, false_iff]
    rintro ⟨-, target, -⟩
    exact within (reach.mpr target)

theorem neighbors_spec (width height : Nat) (maze : Maze) (carving : Carving width height maze)
    (current : Int × Int) (rest : List (Int × Int))
    (stack : maze.mazeStack.array = current :: rest) :
    ∃ found, maze.neighbors = .ok found ∧ ∀ heading, heading ∈ found ↔
      IsRoom width height (gridPlace (twoAway current heading)) ∧
      ¬ IsSpace maze.data (gridPlace (twoAway current heading)) := by
  have spec := unvisited_neighbor_spec width height maze carving current rest stack
  obtain ⟨south, ran1, south_iff⟩ := spec .south
  obtain ⟨east, ran2, east_iff⟩ := spec .east
  obtain ⟨north, ran3, north_iff⟩ := spec .north
  obtain ⟨west, ran4, west_iff⟩ := spec .west
  refine ⟨south ++ east ++ north ++ west, by simp [neighbors, ran1, ran2, ran3, ran4], ?_⟩
  intro heading
  simp only [List.mem_append, south_iff, east_iff, north_iff, west_iff]
  cases heading <;> simp

/-- The writes of one advance open the passage from the top to the new room. -/
theorem open_passage_forward (data : Grid MazeTile) (top first second : GridPosition)
    (tile tile1 tile2 : MazeTile) (present : tileAt? data top = some tile)
    (present1 : tileAt? data first = some tile1) (present2 : tileAt? data second = some tile2) :
    ∃ after, (do
      let data ← updateTile data first MazeTile.opened
      let data ← addConnections data top first
      let data ← updateTile data second MazeTile.opened
      addConnections data first second) = .ok after ∧ Opens data after top first second := by
  obtain ⟨data1, ran1, effect1⟩ := open_tile_effect data first tile1 present1
  obtain ⟨_, there⟩ := effect1.present top tile present
  obtain ⟨_, there'⟩ := effect1.present first tile1 present1
  obtain ⟨data2, ran2, effect2⟩ := add_connections_effect data1 top first _ _ there there'
  have effect12 := effect1.trans effect2
  obtain ⟨_, here⟩ := effect12.present second tile2 present2
  obtain ⟨data3, ran3, effect3⟩ := open_tile_effect data2 second _ here
  have effect123 := effect12.trans effect3
  obtain ⟨_, near⟩ := effect123.present first tile1 present1
  obtain ⟨_, far⟩ := effect123.present second tile2 present2
  obtain ⟨data4, ran4, effect4⟩ := add_connections_effect data3 first second _ _ near far
  refine ⟨data4, by simp [ran1, ran2, ran3, ran4], ?_⟩
  exact (effect123.trans effect4).weaken (by simp) (by simp)

theorem interior_present (width height : Nat) (data : Grid MazeTile)
    (shape : data.Shape height width) (place : GridPosition)
    (inner : Interior width height place) : ∃ tile, tileAt? data place = some tile := by
  apply Grid.at_inside data height width shape
  simp only [Interior, Grid.Inside] at inner ⊢
  omega

/-- Writing a room opens it and pushes it: the search visits it. -/
theorem search_visit (width height : Nat) (maze : Maze) (carving : Carving width height maze)
    (data : Grid MazeTile) (visitedMap : Grid Bool) (room : Int × Int)
    (isRoom : IsRoom width height (gridPlace room))
    (floor : ∀ place, IsRoom width height place →
      (IsSpace data place ↔ IsSpace maze.data place ∨ place = gridPlace room)) :
    search { maze with mazeStack := maze.mazeStack.push room, visitedMap, data } =
      maze.search.visit (gridPlace room) := by
  simp only [search, Exploration.Search.visit, Stack.push, List.map_cons]
  congr 1
  funext place
  by_cases placeRoom : IsRoom width height place
  · simp [carving.columns, carving.rows, placeRoom, floor place placeRoom]
  · have apart : place ≠ gridPlace room := fun same => placeRoom (same ▸ isRoom)
    simp [carving.columns, carving.rows, placeRoom, apart]

/-- One opening into a room that was closed. -/
def FreshOpening (width height : Nat) (before after : Grid MazeTile) : Prop :=
  ∃ room passage beyond, IsRoom width height room ∧ IsRoom width height beyond ∧
    IsSpace before room ∧ ¬ IsSpace before beyond ∧ Straight room passage beyond ∧
    Opens before after room passage beyond

theorem advance_spec (width height : Nat) (maze : Maze) (carving : Carving width height maze)
    (current : Int × Int) (rest : List (Int × Int))
    (stack : maze.mazeStack.array = current :: rest) (heading : Heading)
    (target : IsRoom width height (gridPlace (twoAway current heading)))
    (wall : ¬ IsSpace maze.data (gridPlace (twoAway current heading))) :
    ∃ maze', maze.advance heading = .ok maze' ∧ Carving width height maze' ∧
      maze'.search = maze.search.visit (gridPlace (twoAway current heading)) ∧
      FreshOpening width height maze.data maze'.data := by
  have room := carving.rooms current (by simp [stack])
  have straight := two_away_straight current heading
  have passageIn : Interior width height (gridPlace (oneAway current heading)) := by
    simp only [Straight, IsRoom, Interior] at straight room target ⊢; omega
  have topFloor : IsSpace maze.data (gridPlace current) :=
    (carving.sound.stacked (gridPlace current) (by simp [search, stack])).2
  obtain ⟨visitedMap, ran1, mapShape, keep, seen, block⟩ := mark_visited_spec
    { maze with mazeStack := maze.mazeStack.push (twoAway current heading) } width height
    carving.columns carving.rows carving.mapShape (twoAway current heading).1
    (twoAway current heading).2 target
  have shape := carving.laid.shape
  obtain ⟨_, present⟩ := interior_present width height maze.data shape _ room.2.2
  obtain ⟨_, present1⟩ := interior_present width height maze.data shape _ passageIn
  obtain ⟨_, present2⟩ := interior_present width height maze.data shape _ target.2.2
  obtain ⟨data, ran2, opened⟩ :=
    open_passage_forward maze.data _ _ _ _ _ _ present present1 present2
  have roomFloor (place : GridPosition) (placeRoom : IsRoom width height place) :
      IsSpace data place ↔
        IsSpace maze.data place ∨ place = gridPlace (twoAway current heading) :=
    opens_room ⟨room.1, room.2.1⟩ straight opened place ⟨placeRoom.1, placeRoom.2.1⟩
  refine ⟨{ maze with
    mazeStack := maze.mazeStack.push (twoAway current heading), visitedMap, data }, ?_, ?_⟩
  · simp only [advance, Stack.peek, stack, List.head?_cons, unwrapped, run_ok, run_pure]
    rw [ran1]
    simp only [run_ok]
    -- The four writes to `data` are the ones of `open_passage_forward`.
    have chain := congrArg (fun run => run >>= fun data => Except.ok { maze with
      mazeStack := maze.mazeStack.push (twoAway current heading), visitedMap, data }) ran2
    simpa [bind_assoc] using chain
  have sameSearch := search_visit width height maze carving data visitedMap _ target roomFloor
  refine ⟨?_, sameSearch, _, _, _, room, target, topFloor, wall, straight, opened⟩
  refine ⟨carving.columns, carving.rows,
    opens_well_laid carving.laid topFloor room target straight opened, mapShape, ?_, ?_, ?_, ?_, ?_⟩
  · intro place placeRoom
    rw [seen place placeRoom, roomFloor place placeRoom]
    exact or_congr (carving.seen place placeRoom) Iff.rfl
  · intro row column within outer
    exact keep row column (carving.walls row column within outer)
  · intro row column within inner floor
    have placeRoom : IsRoom width height (roomOf row column) := by
      simp only [IsRoom, Interior, roomOf, Grid.Inside, Outer] at within inner ⊢; omega
    rcases (roomFloor _ placeRoom).mp floor with old | same
    · exact keep row column (carving.around row column within inner old)
    · exact block row column within inner same
  · intro place member
    rcases List.mem_cons.mp member with same | old
    · exact same ▸ target
    · exact carving.rooms place old
  · rw [sameSearch]
    refine Exploration.step_sound _ _ (.advance (gridPlace current) (rest.map gridPlace) _ ?_ ?_ ?_)
      carving.sound
    · simp [search, stack]
    · exact ⟨room, target, _, straight⟩
    · exact fun visited => wall visited.2

theorem retreat_spec (width height : Nat) (maze : Maze) (carving : Carving width height maze)
    (current : Int × Int) (rest : List (Int × Int))
    (stack : maze.mazeStack.array = current :: rest)
    (done : ∀ next, RoomAdjacent width height (gridPlace current) next → maze.search.visited next) :
    Carving width height maze.retreat ∧
      Exploration.Step (RoomAdjacent width height) maze.search maze.retreat.search := by
  have step : Exploration.Step (RoomAdjacent width height) maze.search maze.retreat.search := by
    have popped : maze.retreat.search = ⟨maze.search.visited, rest.map gridPlace⟩ := by
      simp [search, retreat, Stack.pop, stack]
    rw [popped]
    exact .retreat (gridPlace current) _ (by simp [search, stack]) done
  refine ⟨⟨carving.columns, carving.rows, carving.laid, carving.mapShape, carving.seen,
    carving.walls, carving.around, ?_, Exploration.step_sound _ _ step carving.sound⟩, step⟩
  intro place member
  exact carving.rooms place (List.mem_of_mem_tail member)

/-- One round of the loop is one step of the exploration. -/
theorem carve_step_refines (width height : Nat) (maze : Maze) (draws : Nat → Nat)
    (carving : Carving width height maze) (unfinished : maze.checkVisited ≠ true) :
    ∃ maze' draws', maze.carveStep draws = .ok (maze', draws') ∧ Carving width height maze' ∧
      Exploration.Step (RoomAdjacent width height) maze.search maze'.search ∧
      (maze'.data = maze.data ∨ FreshOpening width height maze.data maze'.data) := by
  obtain ⟨current, rest, stack⟩ := unfinished_stack width height maze carving unfinished
  have room := carving.rooms current (by simp [stack])
  obtain ⟨found, ran, member_iff⟩ := neighbors_spec width height maze carving current rest stack
  simp only [carveStep, ran, run_ok]
  cases pick : found[draws 0 % found.length]? with
  | some heading =>
      obtain ⟨target, wall⟩ := (member_iff heading).mp (List.mem_of_getElem? pick)
      obtain ⟨maze', advanced, carving', visited, fresh⟩ :=
        advance_spec width height maze carving current rest stack heading target wall
      refine ⟨maze', fun index => draws (index + 1), by simp [advanced], carving', ?_, Or.inr fresh⟩
      rw [visited]
      refine .advance (gridPlace current) (rest.map gridPlace) _ (by simp [search, stack]) ?_ ?_
      · exact ⟨room, target, _, two_away_straight current heading⟩
      · exact fun seen => wall seen.2
  | none =>
      have empty : found = [] := by
        cases found with
        | nil => rfl
        | cons first others =>
            have bound := List.getElem?_eq_none_iff.mp pick
            have small := Nat.mod_lt (draws 0) (show 0 < (first :: others).length by simp)
            omega
      obtain ⟨carving', step⟩ := retreat_spec width height maze carving current rest stack (by
        intro next edge
        obtain ⟨heading, rfl, target⟩ :=
          (room_adjacent_two_away width height current room next).mp edge
        refine ⟨by simpa [carving.columns, carving.rows] using target, ?_⟩
        by_contra wall
        have listed := (member_iff heading).mpr ⟨target, wall⟩
        simp [empty] at listed)
      exact ⟨maze.retreat, draws, rfl, carving', step, Or.inl rfl⟩

/-! ### A whole run -/

/-- A finite inventory of the rooms. -/
def roomPlaces (width height : Nat) : Finset GridPosition :=
  (Finset.range width ×ˢ Finset.range height).image fun place => ⟨place.1, place.2⟩

theorem room_listed (width height : Nat) (place : GridPosition)
    (room : IsRoom width height place) : place ∈ roomPlaces width height := by
  refine Finset.mem_image.mpr ⟨(place.column.toNat, place.row.toNat), ?_, ?_⟩
  · simp only [Finset.mem_product, Finset.mem_range]
    simp only [IsRoom, Interior] at room
    omega
  · simp only [IsRoom, Interior] at room
    ext <;> dsimp only <;> omega

theorem room_places_card (width height : Nat) :
    (roomPlaces width height).card ≤ width * height := by
  refine Finset.card_image_le.trans ?_
  simp

/-- With more rounds than the exploration has steps left, `carve` returns, and
    keeps what every fresh opening keeps. -/
theorem carve_returns (width height limit : Nat) (draws : Nat → Nat)
    (keeps : Grid MazeTile → Prop)
    (opens : ∀ before after, WellLaid width height before → keeps before →
      FreshOpening width height before after → keeps after)
    (maze : Maze) (carving : Carving width height maze) (start : keeps maze.data)
    (enough : Exploration.budget (roomPlaces width height) maze.search < limit) :
    ∃ maze', maze.carve limit draws = .ok maze' ∧ Carving width height maze' ∧
      maze'.checkVisited = true ∧ keeps maze'.data := by
  induction limit generalizing draws maze with
  | zero => omega
  | succ limit ih =>
      rw [carve]
      by_cases unfinished : maze.checkVisited ≠ true
      · obtain ⟨maze', draws', ran, carving', step, change⟩ :=
          carve_step_refines width height maze draws carving unfinished
        have kept : keeps maze'.data := by
          rcases change with same | fresh
          · rwa [same]
          · exact opens _ _ carving.laid start fresh
        have less := Exploration.step_budget (RoomAdjacent width height) (roomPlaces width height)
          (fun _ target edge => room_listed width height target edge.2.1) step
        obtain ⟨final, finished, rest⟩ := ih draws' maze' carving' kept (by omega)
        exact ⟨final, by simp [unfinished, ran, finished], rest⟩
      · exact ⟨maze, by simp [unfinished], carving, not_not.mp unfinished, start⟩

/-- Rounds that always suffice: two for every cell and one to see the end. -/
def roundBound (width height : Nat) : Nat := 2 * (width * height) + 2

theorem blank_tile (width height : Nat) (place : GridPosition)
    (inside : Grid.Inside height width place.row place.column) :
    tileAt? (blank width height).data place =
      some { node := { gridPosition := place, connectedNodes := [] }, cellType := .Wall } := by
  obtain ⟨row, rowForm⟩ := Int.eq_ofNat_of_zero_le inside.1
  obtain ⟨column, columnForm⟩ := Int.eq_ofNat_of_zero_le inside.2.2.1
  have within : row < height := by have := inside.2.1; omega
  have reach : column < width := by have := inside.2.2.2; omega
  have form : place = ⟨column, row⟩ := GridPosition.ext columnForm rowForm
  subst form
  exact Grid.at_tabulate height width _ row column within reach

theorem blank_view (width height : Nat) (place : GridPosition) :
    ¬ IsSpace (blank width height).data place ∧ links (blank width height).data place = [] := by
  by_cases inside : Grid.Inside height width place.row place.column
  · have tile := blank_tile width height place inside
    simp [IsSpace, links, tile]
  · have tile : tileAt? (blank width height).data place = none :=
      Grid.at_none_of_not_inside _ height width (Grid.tabulate_shape height width _) _ _ inside
    simp [IsSpace, links, tile]

section FirstRoom
variable {width height : Nat} {data : Grid MazeTile}
  (effect : Effect (blank width height).data data (· = spawnRoom) (fun _ _ => False))
include effect

theorem first_room_only (place : GridPosition) : IsSpace data place ↔ place = spawnRoom := by
  rw [effect.space]
  simp [(blank_view width height place).1]

theorem first_room_unjoined (source target : GridPosition) : ¬ Joined data source target := by
  rw [effect.joined, Joined, (blank_view width height source).2]
  simp

end FirstRoom

theorem first_room_laid (width height : Nat) (wide : 3 ≤ width) (tall : 3 ≤ height)
    (data : Grid MazeTile)
    (effect : Effect (blank width height).data data (· = spawnRoom) (fun _ _ => False)) :
    WellLaid width height data := by
  have only := first_room_only effect
  refine ⟨effect.shape _ _ (Grid.tabulate_shape height width _), ?_, ?_, ?_, ?_, ?_, ?_, ?_, ?_⟩
  · intro place tile found
    have same := effect.placed place
    rw [found] at same
    by_cases inside : Grid.Inside height width place.row place.column
    · simpa [blank_tile width height place inside] using same
    · have missing : tileAt? (blank width height).data place = none :=
        Grid.at_none_of_not_inside _ height width (Grid.tabulate_shape height width _) _ _ inside
      simp [missing] at same
  · intro place floor
    rw [(only place).mp floor]
    simp only [Interior, spawnRoom]; omega
  · intro place floor
    rw [(only place).mp floor]
    exact Or.inl rfl
  · intro place floor even
    rw [(only place).mp floor] at even
    simp [spawnRoom] at even
  · intro place floor even
    rw [(only place).mp floor] at even
    simp [spawnRoom] at even
  · intro source target
    simp only [first_room_unjoined effect, only, false_iff]
    rintro ⟨rfl, rfl, beside⟩
    simp only [EdgeAdjacent] at beside
    omega
  · refine effect.nodup fun place => ?_
    rw [(blank_view width height place).2]
    exact List.nodup_nil
  · intro place floor
    rw [(only place).mp floor]

/-- At first the visited cells are the outer ones. -/
theorem blank_walls (width height : Nat) (row column : Int)
    (within : Grid.Inside height width row column) :
    (blank width height).visitedMap.at? row column = some true ↔
      Outer width height row column := by
  obtain ⟨r, rfl⟩ := Int.eq_ofNat_of_zero_le within.1
  obtain ⟨c, rfl⟩ := Int.eq_ofNat_of_zero_le within.2.2.1
  have lookup := Grid.at_tabulate height width (outerWall width height) r c
    (by have := within.2.1; omega) (by have := within.2.2.2; omega)
  rw [show (blank width height).visitedMap.at? (r : Int) c = _ from lookup]
  simp only [Option.some.injEq, outerWall, Bool.or_eq_true, decide_eq_true_eq, Outer]
  omega

/-- The state in which `carve` is entered. -/
theorem start_carving (width height : Nat) (wide : 3 ≤ width) (tall : 3 ≤ height) :
    ∃ maze, (do
      let maze := blank width height
      let data ← updateTile maze.data (gridPlace (1, 1)) MazeTile.opened
      let maze := { maze with data, mazeStack := maze.mazeStack.push (1, 1) }
      maze.markVisited 1 1) = .ok maze ∧ Carving width height maze ∧
      maze.search = Exploration.initial spawnRoom ∧
      ∀ source target, ¬ Joined maze.data source target := by
  have room : IsRoom width height (gridPlace (1, 1)) := by
    simp only [IsRoom, Interior, gridPlace]; omega
  have inside : Grid.Inside height width spawnRoom.row spawnRoom.column := by
    simp only [Grid.Inside, spawnRoom]; omega
  obtain ⟨data, ran, effect⟩ := open_tile_effect (blank width height).data spawnRoom _
    (blank_tile width height spawnRoom inside)
  have laid := first_room_laid width height wide tall data effect
  have only := first_room_only effect
  obtain ⟨visitedMap, ran', mapShape, keep, seen, block⟩ := mark_visited_spec
    { blank width height with data, mazeStack := (blank width height).mazeStack.push (1, 1) }
    width height rfl rfl (Grid.tabulate_shape height width _) 1 1 room
  have sameSearch : search
      { blank width height with
        data, visitedMap, mazeStack := (blank width height).mazeStack.push (1, 1) } =
          Exploration.initial spawnRoom := by
    simp only [search, Exploration.initial, only, Stack.push, blank, List.map_cons, List.map_nil]
    congr 1
    funext place
    simp only [eq_iff_iff, and_iff_right_iff_imp]
    rintro rfl
    exact room
  refine ⟨{ blank width height with
    data, visitedMap, mazeStack := (blank width height).mazeStack.push (1, 1) }, ?_, ?_, sameSearch,
    ?_⟩
  · have first : updateTile (blank width height).data (gridPlace (1, 1)) MazeTile.opened =
        .ok data := ran
    simp only [first, run_ok]
    exact ran'
  · refine ⟨rfl, rfl, laid, mapShape, ?_, ?_, ?_, ?_, ?_⟩
    · intro place placeRoom
      have within : Grid.Inside height width place.row place.column := by
        simp only [IsRoom, Interior, Grid.Inside] at placeRoom ⊢; omega
      have notOuter : ¬ Outer width height place.row place.column := by
        simp only [IsRoom, Interior, Outer] at placeRoom ⊢; omega
      rw [seen place placeRoom, only]
      exact ⟨fun either => either.resolve_left fun old =>
        notOuter ((blank_walls width height _ _ within).mp old), Or.inr⟩
    · intro row column within outer
      exact keep row column ((blank_walls width height row column within).mpr outer)
    · intro row column within inner floor
      exact block row column within inner ((only _).mp floor)
    · intro place member
      rw [List.mem_singleton.mp member]
      exact room
    · rw [sameSearch]
      exact Exploration.initial_sound _ _
  · exact first_room_unjoined effect

/-- Every run of `carve` returns, having turned every room into floor, and
    keeps what a map without connections has and fresh openings keep. -/
theorem carved_keeps (width height limit : Nat) (draws : Nat → Nat) (wide : 3 ≤ width)
    (tall : 3 ≤ height) (enough : roundBound width height ≤ limit)
    (keeps : Grid MazeTile → Prop)
    (bare : ∀ data, (∀ source target, ¬ Joined data source target) → keeps data)
    (opens : ∀ before after, WellLaid width height before → keeps before →
      FreshOpening width height before after → keeps after) :
    ∃ maze, carved width height limit draws = .ok maze ∧ WellLaid width height maze.data ∧
      maze.mazeWidth = width ∧ maze.mazeHeight = height ∧
      (∀ place, IsRoom width height place → IsSpace maze.data place) ∧ keeps maze.data := by
  obtain ⟨start, ran, carving, initially, unjoined⟩ := start_carving width height wide tall
  have small : Exploration.budget (roomPlaces width height) start.search < limit := by
    classical
    have filtered := Finset.card_filter_le (roomPlaces width height)
      (fun place => ¬ (Exploration.initial spawnRoom).visited place)
    have listed := room_places_card width height
    rw [initially]
    simp only [Exploration.budget, Exploration.initial, List.length_singleton, roundBound]
      at filtered enough ⊢
    omega
  obtain ⟨maze, returned, carving', checked, kept⟩ :=
    carve_returns width height limit draws keeps opens start carving (bare _ unjoined) small
  refine ⟨maze, ?_, carving'.laid, carving'.columns, carving'.rows,
    (checked_iff_rooms width height maze carving').mp checked, kept⟩
  have chain := congrArg (fun run => run >>= fun maze => carve limit draws maze) ran
  simpa [carved, returned, bind_assoc] using chain

theorem carved_returns (width height limit : Nat) (draws : Nat → Nat) (wide : 3 ≤ width)
    (tall : 3 ≤ height) (enough : roundBound width height ≤ limit) :
    ∃ maze, carved width height limit draws = .ok maze ∧ WellLaid width height maze.data ∧
      maze.mazeWidth = width ∧ maze.mazeHeight = height ∧
      ∀ place, IsRoom width height place → IsSpace maze.data place := by
  obtain ⟨maze, ran, laid, columns, rows, rooms, -⟩ := carved_keeps width height limit draws wide
    tall enough (fun _ => True) (fun _ _ => trivial) fun _ _ _ _ _ => trivial
  exact ⟨maze, ran, laid, columns, rows, rooms⟩

end Maze
end RelicRace
