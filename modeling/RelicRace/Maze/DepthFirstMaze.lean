import RelicRace.Library.DepthFirst
import RelicRace.Maze.CarveSearch

/-!
Which mazes `carve` can draw. Its passages between rooms are the edges its exploration
has gone along, so they are a depth-first tree of the grid of rooms; and for each such
tree there are draws that send `carve` along it.
-/

namespace RelicRace
open Library DepthFirst

namespace Maze

/-- Two rooms with an open passage between them. -/
def RoomLinked (width height : Nat) (data : Grid MazeTile) (source target : GridPosition) : Prop :=
  IsRoom width height source ∧ IsRoom width height target ∧
    ∃ passage, Straight source passage target ∧ Joined data source passage ∧
      Joined data passage target

/-- A depth-first tree of the grid of rooms, from the first room on. -/
def RoomTree (width height : Nat) (linked : GridPosition → GridPosition → Prop) : Prop :=
  DepthFirstTree (RoomAdjacent width height) linked spawnRoom (IsRoom width height)

/-! ### The grid of rooms -/

section Rooms
variable {width height : Nat}

theorem room_adjacent_symm (source target : GridPosition)
    (adjacent : RoomAdjacent width height source target) :
    RoomAdjacent width height target source := by
  obtain ⟨room, room', passage, straight⟩ := adjacent
  refine ⟨room', room, passage, ?_⟩
  simp only [Straight] at straight ⊢
  omega

theorem room_adjacent_irrefl (room : GridPosition) : ¬ RoomAdjacent width height room room := by
  rintro ⟨-, -, passage, straight⟩
  simp only [Straight] at straight
  omega

/-- A passage lies between two rooms only. -/
theorem passage_between {source target room passage beyond : GridPosition}
    (odd : IsRoom width height source) (odd' : IsRoom width height room)
    (straight : Straight room passage beyond) (other : Straight source passage target) :
    (source = room ∧ target = beyond) ∨ (source = beyond ∧ target = room) := by
  simp only [IsRoom, Straight, GridPosition.ext_iff] at odd odd' straight other ⊢
  omega

variable {data after : Grid MazeTile}

theorem room_linked_iff (laid : WellLaid width height data) (source target : GridPosition) :
    RoomLinked width height data source target ↔ IsRoom width height source ∧
      IsRoom width height target ∧ ∃ passage, Straight source passage target ∧
        IsSpace data passage := by
  refine and_congr_right fun room => and_congr_right fun room' => exists_congr fun passage =>
    and_congr_right fun straight => ⟨fun joined => ((laid.joined _ _).mp joined.1).2.1, ?_⟩
  intro floor
  obtain ⟨near, far⟩ := straight_beside straight
  have ends : IsSpace data source ∧ IsSpace data target := by
    simp only [IsRoom] at room room'
    rcases straight with ⟨row, row', shift⟩ | ⟨column, column', shift⟩
    · have both := laid.sideways passage floor (by omega)
      rcases shift with shift | shift
      · rw [show source = ⟨passage.column - 1, passage.row⟩ by ext <;> simp <;> omega,
          show target = ⟨passage.column + 1, passage.row⟩ by ext <;> simp <;> omega]
        exact both
      · rw [show source = ⟨passage.column + 1, passage.row⟩ by ext <;> simp <;> omega,
          show target = ⟨passage.column - 1, passage.row⟩ by ext <;> simp <;> omega]
        exact both.symm
    · have both := laid.upright passage floor (by omega)
      rcases shift with shift | shift
      · rw [show source = ⟨passage.column, passage.row - 1⟩ by ext <;> simp <;> omega,
          show target = ⟨passage.column, passage.row + 1⟩ by ext <;> simp <;> omega]
        exact both
      · rw [show source = ⟨passage.column, passage.row + 1⟩ by ext <;> simp <;> omega,
          show target = ⟨passage.column, passage.row - 1⟩ by ext <;> simp <;> omega]
        exact both.symm
  exact ⟨(laid.joined _ _).mpr ⟨ends.1, floor, near⟩, (laid.joined _ _).mpr ⟨floor, ends.2, far⟩⟩

/-- The opening of a passage links its two rooms and no others. -/
theorem room_linked_opened (laid : WellLaid width height data)
    (laid' : WellLaid width height after) {room passage beyond : GridPosition}
    (roomOk : IsRoom width height room) (beyondOk : IsRoom width height beyond)
    (straight : Straight room passage beyond) (opened : Opens data after room passage beyond) :
    Grown (RoomLinked width height data) (RoomLinked width height after) room beyond := by
  intro source target
  rw [room_linked_iff laid, room_linked_iff laid']
  constructor
  · rintro ⟨sourceOk, targetOk, between, other, floor⟩
    rcases (opened.space between).mp floor with old | rfl | rfl
    · exact Or.inl ⟨sourceOk, targetOk, between, other, old⟩
    · exact Or.inr (passage_between sourceOk roomOk straight other)
    · simp only [IsRoom, Straight] at sourceOk beyondOk other
      omega
  · obtain ⟨-, passageOpen, -⟩ := opens_floor opened
    rintro (⟨sourceOk, targetOk, between, other, old⟩ | ⟨rfl, rfl⟩ | ⟨rfl, rfl⟩)
    · exact ⟨sourceOk, targetOk, between, other, (opened.space between).mpr (Or.inl old)⟩
    · exact ⟨roomOk, beyondOk, passage, straight, passageOpen⟩
    · refine ⟨beyondOk, roomOk, passage, ?_, passageOpen⟩
      simp only [Straight] at straight ⊢
      omega

end Rooms

/-! ### One round -/

section Round
variable {width height : Nat} {maze : Maze} {current : Int × Int} {rest : List (Int × Int)}

/-- The passages opened so far are what the exploration has grown. -/
def GrowsTree (width height : Nat) (maze : Maze) : Prop :=
  Growing (RoomAdjacent width height) (RoomLinked width height maze.data) spawnRoom maze.search

/-- A draw picks one of the directions that lead to a closed room. -/
theorem carve_step_choices (carving : Carving width height maze)
    (stack : maze.mazeStack.array = current :: rest) :
    ∃ found : List Heading, (∀ heading, heading ∈ found ↔
        IsRoom width height (gridPlace (twoAway current heading)) ∧
        ¬ IsSpace maze.data (gridPlace (twoAway current heading))) ∧
      ∀ draws, maze.carveStep draws = match found[draws 0 % found.length]? with
        | some heading => do
            let maze ← maze.advance heading
            return (maze, fun index => draws (index + 1))
        | none => .ok (maze.retreat, draws) := by
  obtain ⟨found, ran, listed⟩ := neighbors_spec width height maze carving current rest stack
  refine ⟨found, listed, fun draws => ?_⟩
  rw [carveStep, ran, run_ok]
  rfl

theorem advance_opens (carving : Carving width height maze)
    (stack : maze.mazeStack.array = current :: rest) (heading : Heading)
    (target : IsRoom width height (gridPlace (twoAway current heading))) (maze' : Maze)
    (ran : maze.advance heading = .ok maze') : Opens maze.data maze'.data (gridPlace current)
      (gridPlace (oneAway current heading)) (gridPlace (twoAway current heading)) := by
  have room := carving.rooms current (by simp [stack])
  have passageIn : Interior width height (gridPlace (oneAway current heading)) := by
    have straight := two_away_straight current heading
    simp only [Straight, IsRoom, Interior] at straight room target ⊢
    omega
  obtain ⟨visitedMap, marked, -⟩ := mark_visited_spec
    { maze with mazeStack := maze.mazeStack.push (twoAway current heading) } width height
    carving.columns carving.rows carving.mapShape (twoAway current heading).1
    (twoAway current heading).2 target
  have shape := carving.laid.shape
  obtain ⟨_, present⟩ := interior_present width height maze.data shape _ room.2.2
  obtain ⟨_, present1⟩ := interior_present width height maze.data shape _ passageIn
  obtain ⟨_, present2⟩ := interior_present width height maze.data shape _ target.2.2
  obtain ⟨data, written, opened⟩ :=
    open_passage_forward maze.data _ _ _ _ _ _ present present1 present2
  have advanced : maze.advance heading = .ok { maze with
      mazeStack := maze.mazeStack.push (twoAway current heading), visitedMap, data } := by
    simp only [advance, Stack.peek, stack, List.head?_cons, unwrapped, run_ok, run_pure]
    rw [marked]
    simp only [run_ok]
    have chain := congrArg (fun run => run >>= fun data => Except.ok { maze with
      mazeStack := maze.mazeStack.push (twoAway current heading), visitedMap, data }) written
    simpa [bind_assoc] using chain
  obtain rfl := Except.ok.inj (advanced.symm.trans ran)
  exact opened

theorem search_stack (stack : maze.mazeStack.array = current :: rest) :
    maze.search.stack = gridPlace current :: rest.map gridPlace := by
  rw [search, stack, List.map_cons]

theorem retreat_search (stack : maze.mazeStack.array = current :: rest) :
    maze.retreat.search = ⟨maze.search.visited, rest.map gridPlace⟩ := by
  simp [search, retreat, Stack.pop, stack]

/-- What a round does that goes on to a closed room. -/
structure Advanced (width height : Nat) (maze : Maze) (current next : GridPosition)
    (maze' : Maze) : Prop where
  carving : Carving width height maze'
  search : maze'.search = maze.search.visit next
  grown : Grown (RoomLinked width height maze.data) (RoomLinked width height maze'.data) current
    next
  grows : GrowsTree width height maze'

theorem advance_grows (carving : Carving width height maze) (grows : GrowsTree width height maze)
    (stack : maze.mazeStack.array = current :: rest) (heading : Heading)
    (target : IsRoom width height (gridPlace (twoAway current heading)))
    (wall : ¬ IsSpace maze.data (gridPlace (twoAway current heading))) :
    ∃ maze', maze.advance heading = .ok maze' ∧ Advanced width height maze (gridPlace current)
      (gridPlace (twoAway current heading)) maze' := by
  have room := carving.rooms current (by simp [stack])
  have straight := two_away_straight current heading
  obtain ⟨maze', ran, carving', visited, -⟩ :=
    advance_spec width height maze carving current rest stack heading target wall
  have grown := room_linked_opened carving.laid carving'.laid room target straight
    (advance_opens carving stack heading target maze' ran)
  refine ⟨maze', ran, carving', visited, grown, ?_⟩
  rw [GrowsTree, visited]
  exact growing_visit room_adjacent_symm room_adjacent_irrefl grows (search_stack stack)
    ⟨room, target, _, straight⟩ (fun seen => wall seen.2) grown

/-- A round without a closed room beside the current one goes back. -/
theorem step_retreats (carving : Carving width height maze) (grows : GrowsTree width height maze)
    (stack : maze.mazeStack.array = current :: rest)
    (done : ∀ next, RoomAdjacent width height (gridPlace current) next →
      maze.search.visited next) :
    (∀ draws, maze.carveStep draws = .ok (maze.retreat, draws)) ∧
      Carving width height maze.retreat ∧ GrowsTree width height maze.retreat := by
  have room := carving.rooms current (by simp [stack])
  obtain ⟨found, listed, steps⟩ := carve_step_choices carving stack
  have none : found = [] := by
    refine List.eq_nil_iff_forall_not_mem.mpr fun heading member => ?_
    obtain ⟨target, wall⟩ := (listed heading).mp member
    exact wall (done _ ⟨room, target, _, two_away_straight current heading⟩).2
  refine ⟨fun draws => ?_, (retreat_spec width height maze carving current rest stack done).1, ?_⟩
  · rw [steps, none]
    rfl
  · rw [GrowsTree, retreat_search stack]
    exact growing_retreat grows (search_stack stack) done

/-- Every closed room beside the current one can be drawn. -/
theorem step_advances (carving : Carving width height maze) (grows : GrowsTree width height maze)
    (stack : maze.mazeStack.array = current :: rest) (next : GridPosition)
    (near : RoomAdjacent width height (gridPlace current) next)
    (fresh : ¬ maze.search.visited next) :
    ∃ index maze', (∀ draws : Nat → Nat, draws 0 = index →
        maze.carveStep draws = .ok (maze', fun later => draws (later + 1))) ∧
      Advanced width height maze (gridPlace current) next maze' := by
  have room := carving.rooms current (by simp [stack])
  obtain ⟨heading, rfl, target⟩ := (room_adjacent_two_away width height current room next).mp near
  have wall : ¬ IsSpace maze.data (gridPlace (twoAway current heading)) := fun floor =>
    fresh ⟨by simpa [carving.columns, carving.rows] using target, floor⟩
  obtain ⟨found, listed, steps⟩ := carve_step_choices carving stack
  obtain ⟨index, hit⟩ := List.mem_iff_getElem?.mp ((listed heading).mpr ⟨target, wall⟩)
  obtain ⟨maze', ran, advanced⟩ := advance_grows carving grows stack heading target wall
  refine ⟨index, maze', fun draws first => ?_, advanced⟩
  have within : index % found.length = index :=
    Nat.mod_eq_of_lt (List.getElem?_eq_some_iff.mp hit).1
  rw [steps, first, within, hit]
  simp only [ran, run_ok, run_pure]

/-- A round either goes on to a closed room or goes back. -/
theorem step_grows (carving : Carving width height maze) (grows : GrowsTree width height maze)
    (stack : maze.mazeStack.array = current :: rest) (draws : Nat → Nat) (maze' : Maze)
    (draws' : Nat → Nat) (ran : maze.carveStep draws = .ok (maze', draws')) :
    Carving width height maze' ∧ GrowsTree width height maze' := by
  have room := carving.rooms current (by simp [stack])
  obtain ⟨found, listed, steps⟩ := carve_step_choices carving stack
  rw [steps] at ran
  cases pick : found[draws 0 % found.length]? with
  | some heading =>
      obtain ⟨target, wall⟩ := (listed heading).mp (List.mem_of_getElem? pick)
      obtain ⟨next, ran', advanced⟩ := advance_grows carving grows stack heading target wall
      simp only [pick, ran', run_ok, run_pure] at ran
      obtain ⟨rfl, -⟩ := Prod.mk.inj (Except.ok.inj ran)
      exact ⟨advanced.carving, advanced.grows⟩
  | none =>
      have empty : found = [] := by
        by_contra filled
        have bound := List.getElem?_eq_none_iff.mp pick
        exact absurd (Nat.mod_lt _ (List.length_pos_iff.mpr filled)) (not_lt.mpr bound)
      have done (next : GridPosition)
          (near : RoomAdjacent width height (gridPlace current) next) :
          maze.search.visited next := by
        obtain ⟨heading, rfl, target⟩ :=
          (room_adjacent_two_away width height current room next).mp near
        refine ⟨by simpa [carving.columns, carving.rows] using target, ?_⟩
        by_contra wall
        have member := (listed heading).mpr ⟨target, wall⟩
        rw [empty] at member
        cases member
      obtain ⟨-, carving', grows'⟩ := step_retreats carving grows stack done
      simp only [pick] at ran
      obtain ⟨rfl, -⟩ := Prod.mk.inj (Except.ok.inj ran)
      exact ⟨carving', grows'⟩

end Round

/-! ### A whole run -/

section Run
variable {width height : Nat} {maze : Maze}

theorem carve_grows (limit : Nat) (draws : Nat → Nat) (maze final : Maze)
    (carving : Carving width height maze) (grows : GrowsTree width height maze)
    (ran : maze.carve limit draws = .ok final) : GrowsTree width height final := by
  induction limit generalizing draws maze with
  | zero => cases ran
  | succ limit ih =>
      rw [carve] at ran
      split at ran
      · rename_i unfinished
        obtain ⟨current, rest, stack⟩ := unfinished_stack width height maze carving unfinished
        obtain ⟨⟨middle, draws'⟩, stepped, ran⟩ := (run_bind_iff _ _ _).mp ran
        obtain ⟨carving', grows'⟩ := step_grows carving grows stack draws middle draws' stepped
        exact ih draws' middle carving' grows' ran
      · exact Except.ok.inj ran ▸ grows

/-- When all rooms are floor the passages are a depth-first tree of them. -/
theorem finished_tree (carving : Carving width height maze) (grows : GrowsTree width height maze)
    (finished : ∀ room, IsRoom width height room → IsSpace maze.data room) :
    RoomTree width height (RoomLinked width height maze.data) := by
  have visited : maze.search.visited = IsRoom width height := by
    funext room
    simp only [search, carving.columns, carving.rows, eq_iff_iff, and_iff_left_iff_imp]
    exact finished room
  rw [RoomTree, ← visited]
  exact grows.tree

/-- The state of a run that has opened passages of a given tree only. -/
structure Follows (width height : Nat) (linked : GridPosition → GridPosition → Prop)
    (maze : Maze) : Prop where
  carving : Carving width height maze
  grows : GrowsTree width height maze
  guided : Guided linked spawnRoom maze.search
  within : ∀ source target, RoomLinked width height maze.data source target →
    linked source target

variable {linked : GridPosition → GridPosition → Prop}

/-- Some draw goes on along the tree, or every draw goes back. -/
theorem step_follows (tree : RoomTree width height linked)
    (follows : Follows width height linked maze) (unfinished : maze.checkVisited ≠ true) :
    ∃ maze', Follows width height linked maze' ∧
      Exploration.Step (RoomAdjacent width height) maze.search maze'.search ∧
      ∀ later, ∃ draws, maze.carveStep draws = .ok (maze', later) := by
  obtain ⟨carving, grows, guided, within⟩ := follows
  obtain ⟨current, rest, stack⟩ := unfinished_stack width height maze carving unfinished
  have head := search_stack stack
  by_cases full : ∀ next, linked (gridPlace current) next → maze.search.visited next
  · have done := guided_done tree guided grows.sound
      (fun source target near => ⟨near.1, near.2.1⟩) head full
    obtain ⟨steps, carving', grows'⟩ := step_retreats carving grows stack done
    refine ⟨maze.retreat, ⟨carving', grows', ?_, within⟩, ?_, fun later => ⟨later, steps later⟩⟩
    · rw [retreat_search stack]
      exact guided_retreat guided head full
    · rw [retreat_search stack]
      exact .retreat _ _ head done
  · push Not at full
    obtain ⟨next, edge, fresh⟩ := full
    have near := tree.edges _ _ edge
    obtain ⟨index, maze', steps, advanced⟩ := step_advances carving grows stack next near fresh
    refine ⟨maze', ⟨advanced.carving, advanced.grows, ?_, ?_⟩, ?_, fun later => ?_⟩
    · rw [advanced.search]
      exact guided_visit tree guided grows.sound head edge fresh
    · intro source target wired
      rcases (advanced.grown source target).mp wired with old | ⟨rfl, rfl⟩ | ⟨rfl, rfl⟩
      · exact within source target old
      · exact edge
      · exact tree.symm _ _ edge
    · rw [advanced.search]
      exact .advance _ _ next head near fresh
    · exact ⟨Nat.rec index fun count _ => later count, steps _ rfl⟩

/-- With rounds enough there are draws that lead `carve` along the whole tree. -/
theorem carve_follows (tree : RoomTree width height linked) (limit : Nat) (maze : Maze)
    (follows : Follows width height linked maze)
    (enough : Exploration.budget (roomPlaces width height) maze.search < limit) :
    ∃ draws final, maze.carve limit draws = .ok final ∧ Follows width height linked final ∧
      final.checkVisited = true := by
  induction limit generalizing maze with
  | zero => omega
  | succ limit ih =>
      by_cases unfinished : maze.checkVisited ≠ true
      · obtain ⟨maze', follows', step, steps⟩ := step_follows tree follows unfinished
        have less := Exploration.step_budget (RoomAdjacent width height)
          (roomPlaces width height) (fun _ target edge => room_listed width height target edge.2.1)
          step
        obtain ⟨later, final, ran, rest⟩ := ih maze' follows' (by omega)
        obtain ⟨draws, stepped⟩ := steps later
        refine ⟨draws, final, ?_, rest⟩
        rw [carve, if_pos unfinished, stepped, run_ok]
        exact ran
      · refine ⟨fun _ => 0, maze, ?_, follows, not_not.mp unfinished⟩
        rw [carve, if_neg unfinished]

end Run

theorem first_budget (width height : Nat) : Exploration.budget (roomPlaces width height)
    (Exploration.initial spawnRoom) < roundBound width height := by
  classical
  have filtered := Finset.card_filter_le (roomPlaces width height)
    (fun place => ¬ (Exploration.initial spawnRoom).visited place)
  have listed := room_places_card width height
  simp only [Exploration.budget, Exploration.initial, List.length_singleton, roundBound]
    at filtered ⊢
  omega

/-- A map without connections has grown the first room only. -/
theorem start_grows (width height : Nat) (maze : Maze)
    (initially : maze.search = Exploration.initial spawnRoom)
    (unjoined : ∀ source target, ¬ Joined maze.data source target) :
    GrowsTree width height maze ∧
      ∀ source target, ¬ RoomLinked width height maze.data source target := by
  have bare (source target : GridPosition) : ¬ RoomLinked width height maze.data source target := by
    rintro ⟨-, -, passage, -, joined, -⟩
    exact unjoined source passage joined
  refine ⟨?_, bare⟩
  rw [GrowsTree, initially]
  exact growing_initial room_adjacent_irrefl bare

/-- `carve` from the first room, with rounds enough for every run. -/
theorem carve_starts (width height extra : Nat) (wide : 3 ≤ width) (tall : 3 ≤ height) :
    ∃ start, Carving width height start ∧ GrowsTree width height start ∧
      start.search = Exploration.initial spawnRoom ∧
      (∀ source target, ¬ RoomLinked width height start.data source target) ∧
      Exploration.budget (roomPlaces width height) start.search <
        roundBound width height + extra ∧
      ∀ draws, carved width height (roundBound width height + extra) draws =
        start.carve (roundBound width height + extra) draws := by
  obtain ⟨start, began, carving, initially, unjoined⟩ := start_carving width height wide tall
  obtain ⟨grows, bare⟩ := start_grows width height start initially unjoined
  refine ⟨start, carving, grows, initially, bare, ?_, fun draws => ?_⟩
  · rw [initially]
    exact (first_budget width height).trans_le (Nat.le_add_right _ extra)
  · have chain := congrArg (fun run => run >>= fun maze =>
      carve (roundBound width height + extra) draws maze) began
    simpa [carved, bind_assoc] using chain

theorem carved_tree (width height extra : Nat) (draws : Nat → Nat) (wide : 3 ≤ width)
    (tall : 3 ≤ height) :
    ∃ maze, carved width height (roundBound width height + extra) draws = .ok maze ∧
      WellLaid width height maze.data ∧
      (∀ room, IsRoom width height room → IsSpace maze.data room) ∧
      RoomTree width height (RoomLinked width height maze.data) := by
  obtain ⟨start, carving, grows, -, -, small, runs⟩ := carve_starts width height extra wide tall
  obtain ⟨maze, ran, carving', checked, -⟩ := carve_returns width height
    (roundBound width height + extra) draws (fun _ => True) (fun _ _ _ _ _ => trivial) start
    carving trivial small
  have rooms := (checked_iff_rooms width height maze carving').mp checked
  exact ⟨maze, by rw [runs, ran], carving'.laid, rooms, finished_tree carving'
    (carve_grows _ draws start maze carving grows ran) rooms⟩

/-- For every size, the mazes that `carve` can draw are exactly the depth-first trees
    of the grid of rooms: every run leaves such a tree, and each is left by a run. -/
theorem carve_draws_depth_first_trees (width height extra : Nat) (wide : 3 ≤ width)
    (tall : 3 ≤ height) :
    (∀ draws, ∃ maze, carved width height (roundBound width height + extra) draws = .ok maze ∧
      RoomTree width height (RoomLinked width height maze.data)) ∧
    ∀ linked, RoomTree width height linked →
      ∃ draws maze, carved width height (roundBound width height + extra) draws = .ok maze ∧
        ∀ source target, RoomLinked width height maze.data source target ↔
          linked source target := by
  constructor
  · intro draws
    obtain ⟨maze, ran, -, -, tree⟩ := carved_tree width height extra draws wide tall
    exact ⟨maze, ran, tree⟩
  · intro linked tree
    obtain ⟨start, carving, grows, initially, bare, small, runs⟩ :=
      carve_starts width height extra wide tall
    have follows : Follows width height linked start := by
      refine ⟨carving, grows, ?_, fun source target wired => absurd wired (bare source target)⟩
      rw [initially]
      exact guided_initial linked spawnRoom
    obtain ⟨draws, maze, ran, followed, checked⟩ := carve_follows tree
      (roundBound width height + extra) start follows small
    have part := finished_tree followed.carving followed.grows
      ((checked_iff_rooms width height maze followed.carving).mp checked)
    refine ⟨draws, maze, by rw [runs, ran],
      fun source target => ⟨followed.within source target, fun edge => ?_⟩⟩
    have apart : source ≠ target := by
      rintro rfl
      exact room_adjacent_irrefl source (tree.edges _ _ edge)
    exact subtree_same part.toTree tree.toTree followed.within source target apart edge

theorem carve_draws_four_rooms :
    (∀ draws, ∃ maze, carved 5 5 (roundBound 5 5 + 0) draws = .ok maze ∧
      RoomTree 5 5 (RoomLinked 5 5 maze.data)) ∧
    ∀ linked, RoomTree 5 5 linked →
      ∃ draws maze, carved 5 5 (roundBound 5 5 + 0) draws = .ok maze ∧
        ∀ source target, RoomLinked 5 5 maze.data source target ↔ linked source target :=
  carve_draws_depth_first_trees 5 5 0 (by decide) (by decide)

/-! ### The first room -/

section FirstRoom
variable {width height : Nat} {linked : GridPosition → GridPosition → Prop}

theorem beside_first_room (next : GridPosition)
    (near : RoomAdjacent width height spawnRoom next) : next = ⟨3, 1⟩ ∨ next = ⟨1, 3⟩ := by
  obtain ⟨-, room, passage, straight⟩ := near
  simp only [IsRoom, Interior, Straight, spawnRoom, GridPosition.ext_iff] at room straight ⊢
  omega

/-- Both rooms beside the first one are joined past it, so it has one link at most. -/
theorem first_room_branch (tree : RoomTree width height linked) (first second : GridPosition)
    (edge : linked spawnRoom first) (edge' : linked spawnRoom second) : first = second := by
  have near := tree.edges _ _ edge
  have near' := tree.edges _ _ edge'
  have apart (room : GridPosition) (beside : RoomAdjacent width height spawnRoom room) :
      room ≠ spawnRoom := by
    rintro rfl
    exact room_adjacent_irrefl _ beside
  by_contra different
  refine different (one_branch tree (fun _ _ near => ⟨near.1, near.2.1⟩) edge edge' ?_
    (apart first near) (apart second near'))
  -- The way leads around the corner.
  have corner : IsRoom width height ⟨3, 3⟩ ∧ (⟨3, 3⟩ : GridPosition) ≠ spawnRoom := by
    have room := near.2.1
    have room' := near'.2.1
    rcases beside_first_room first near with rfl | rfl <;>
      rcases beside_first_room second near' with rfl | rfl <;>
      simp only [IsRoom, Interior, spawnRoom, ne_eq, GridPosition.mk.injEq, not_true]
        at room room' different ⊢ <;>
      omega
  have around (room : GridPosition) (beside : RoomAdjacent width height spawnRoom room) :
      RoomAdjacent width height room ⟨3, 3⟩ := by
    refine ⟨beside.2.1, corner.1, ?_⟩
    rcases beside_first_room room beside with rfl | rfl
    · exact ⟨⟨3, 2⟩, by simp [Straight]⟩
    · exact ⟨⟨2, 3⟩, by simp [Straight]⟩
  exact .tail (.single ⟨around first near, apart first near, corner.2⟩)
    ⟨room_adjacent_symm _ _ (around second near'), corner.2, apart second near'⟩

/-- A connection of the first room is a passage to the room behind it. -/
theorem first_room_exit {data : Grid MazeTile} (laid : WellLaid width height data)
    (passage : GridPosition) (joined : Joined data spawnRoom passage) :
    ∃ room, Straight spawnRoom passage room ∧ RoomLinked width height data spawnRoom room := by
  obtain ⟨start, floor, beside⟩ := (laid.joined _ _).mp joined
  have inner := laid.interior passage floor
  have first : IsRoom width height spawnRoom := ⟨rfl, rfl, laid.interior _ start⟩
  have behind (room : GridPosition) (open' : IsSpace data room)
      (odd : room.row % 2 = 1 ∧ room.column % 2 = 1) (straight : Straight spawnRoom passage room) :
      ∃ room, Straight spawnRoom passage room ∧ RoomLinked width height data spawnRoom room :=
    ⟨room, straight, (room_linked_iff laid _ _).mpr
      ⟨first, ⟨odd.1, odd.2, laid.interior room open'⟩, passage, straight, floor⟩⟩
  simp only [EdgeAdjacent, spawnRoom, Interior] at beside inner
  by_cases even : passage.row % 2 = 0
  · refine behind _ (laid.upright passage floor even).2 ?_ ?_
    · dsimp only
      omega
    · simp only [Straight, spawnRoom]
      omega
  · refine behind _ (laid.sideways passage floor (by omega)).2 ?_ ?_
    · dsimp only
      omega
    · simp only [Straight, spawnRoom]
      omega

end FirstRoom

/-- For every size with more than one room and every sequence of draws the first room is
    a dead end when `carve` is done. -/
theorem first_room_dead_end (width height extra : Nat) (draws : Nat → Nat) (wide : 3 ≤ width)
    (tall : 3 ≤ height) (rooms : 5 ≤ width ∨ 5 ≤ height) :
    ∃ maze, carved width height (roundBound width height + extra) draws = .ok maze ∧
      (links maze.data spawnRoom).length = 1 := by
  obtain ⟨maze, ran, laid, floor, tree⟩ := carved_tree width height extra draws wide tall
  refine ⟨maze, ran, ?_⟩
  have only (first second : GridPosition) (one : Joined maze.data spawnRoom first)
      (two : Joined maze.data spawnRoom second) : first = second := by
    obtain ⟨room, straight, linked⟩ := first_room_exit laid first one
    obtain ⟨room', straight', linked'⟩ := first_room_exit laid second two
    obtain rfl := first_room_branch tree room room' linked linked'
    simp only [Straight, GridPosition.ext_iff] at straight straight' ⊢
    omega
  have other : ∃ room, IsRoom width height room ∧ room ≠ spawnRoom := by
    rcases rooms with many | many
    · exact ⟨⟨3, 1⟩, by simp only [IsRoom, Interior]; omega, by decide⟩
    · exact ⟨⟨1, 3⟩, by simp only [IsRoom, Interior]; omega, by decide⟩
  obtain ⟨room, isRoom, apart⟩ := other
  rcases (laid.reached room (floor room isRoom)).cases_head with same | ⟨exit, joined, -⟩
  · exact absurd same.symm apart
  · have every : ∀ target ∈ links maze.data spawnRoom, target = exit :=
      fun target member => only target exit member joined
    have single := List.eq_replicate_of_mem every
    have unique := laid.nodup spawnRoom
    rw [single, List.nodup_replicate] at unique
    exact Nat.le_antisymm unique (List.length_pos_of_mem joined)

theorem first_room_dead_end_four_rooms : ∃ maze,
    carved 5 5 (roundBound 5 5 + 0) (fun _ => 0) = .ok maze ∧
      (links maze.data spawnRoom).length = 1 :=
  first_room_dead_end 5 5 0 (fun _ => 0) (by decide) (by decide) (Or.inl (by decide))

end Maze
end RelicRace
