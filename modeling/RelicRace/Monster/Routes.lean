import RelicRace.Library.Patrol
import RelicRace.Maze.Openings
import RelicRace.Monster.Basic

/-!
`generatePath` on a generated maze: it returns, its two paths are arms that leave
the start tile, every stored position is a tile of the map, and the repeating
action moves through exactly the stored positions.
-/

namespace RelicRace
open Library Patrol

/-- The removal loop filters the part of the list it has not passed yet. -/
theorem remove_traversed_from (path : List GridPosition) (limit i : Nat)
    (nodes : List GridPosition) (enough : nodes.length - i ≤ limit) :
    removeTraversed path limit i nodes =
      nodes.take i ++ (nodes.drop i).filter (fun node => node ∉ path) := by
  -- The induction is on the rounds: each one passes a node or takes one out.
  induction limit generalizing i nodes with
  | zero =>
      have past : nodes.length ≤ i := by omega
      simp [removeTraversed, List.take_of_length_le past, List.drop_of_length_le past]
  | succ limit ih =>
      rw [removeTraversed]
      by_cases within : i < nodes.length
      · have split : nodes.drop i = nodes[i] :: nodes.drop (i + 1) :=
          List.drop_eq_getElem_cons within
        rw [List.getElem?_eq_getElem within]
        by_cases traversed : nodes[i] ∈ path
        · have shorter := List.length_eraseIdx_of_lt within
          have front : (nodes.take i).length = i := List.length_take_of_le (Nat.le_of_lt within)
          have taken : (nodes.eraseIdx i).take i = nodes.take i := by
            rw [List.eraseIdx_eq_take_drop_succ, List.take_left' front]
          have dropped : (nodes.eraseIdx i).drop i = nodes.drop (i + 1) := by
            rw [List.eraseIdx_eq_take_drop_succ, List.drop_left' front]
          simp only [traversed, if_true]
          rw [ih i _ (by omega), taken, dropped, split,
            List.filter_cons_of_neg (by simp [traversed])]
        · simp only [traversed, if_false]
          rw [ih (i + 1) nodes (by omega), split, List.filter_cons_of_pos (by simp [traversed]),
            List.take_succ_eq_append_getElem within, List.append_assoc]
          rfl
      · have past : nodes.length ≤ i := by omega
        simp [List.getElem?_eq_none past, List.take_of_length_le past, List.drop_of_length_le past]

theorem remove_traversed_exact (path nodes : List GridPosition) :
    removeTraversed path nodes.length 0 nodes = nodes.filter (fun node => node ∉ path) := by
  simpa using remove_traversed_from path nodes.length 0 nodes (by omega)

section Paths
variable {connected : GridPosition → List GridPosition} {start : GridPosition}

/-- A node drawn from the filtered neighbours of a path's end prolongs the path. -/
theorem drawn_extends {path : List GridPosition} (arm : Arm connected start path)
    (nodes : List GridPosition)
    (fromEnd : ∀ next ∈ nodes, next ∈ connected (path.getLast (arm_filled arm))) (index : Nat)
    (next : GridPosition)
    (drawn : (removeTraversed path nodes.length 0 nodes)[index]? = some next) :
    Arm connected start (path ++ [next]) := by
  have member := List.mem_of_getElem? drawn
  rw [remove_traversed_exact, List.mem_filter, decide_eq_true_eq] at member
  exact arm_extend arm next (fromEnd next member.1) member.2

theorem first_path_arm (counters : List Nat) (path1 : List GridPosition)
    (firstDirection : Option GridPosition) (draws : Draws) (arm : Arm connected start path1)
    (started : counters.head? = some 1 ∨ firstDirection.isSome) :
    ∃ path direction draws', firstPath connected counters path1 firstDirection draws =
      .ok (path, some direction, draws') ∧ Arm connected start path := by
  induction counters generalizing path1 firstDirection draws with
  | nil =>
      obtain ⟨direction, rfl⟩ := Option.isSome_iff_exists.mp (started.resolve_left (by simp))
      exact ⟨path1, direction, draws, rfl, arm⟩
  | cons counter rest ih =>
      simp only [firstPath, List.getLast?_eq_some_getLast (arm_filled arm), unwrapped, run_ok]
      split
      · exact ⟨path1, noDirection, draws, rfl, arm⟩
      · rename_i next drawn
        apply ih _ _ _ (drawn_extends arm _ (fun _ member => member) _ next drawn)
        right
        -- The first round sets `firstDirection`, the later ones keep it.
        rcases started with first | known
        · simp only [List.head?_cons, Option.some.injEq] at first
          simp [first]
        · split <;> simp [known]

theorem second_path_arm (firstDirection : GridPosition) (counters : List Nat)
    (path2 : List GridPosition) (draws : Draws) (arm : Arm connected start path2) :
    ∃ path draws', secondPath connected firstDirection counters path2 draws = .ok (path, draws') ∧
      Arm connected start path := by
  induction counters generalizing path2 draws with
  | nil => exact ⟨path2, draws, rfl, arm⟩
  | cons counter rest ih =>
      simp only [secondPath, List.getLast?_eq_some_getLast (arm_filled arm), unwrapped, run_ok]
      have fromEnd : ∀ next ∈ (if counter = 1 then
          (connected (path2.getLast (arm_filled arm))).erase firstDirection
          else connected (path2.getLast (arm_filled arm))),
          next ∈ connected (path2.getLast (arm_filled arm)) := by
        intro next member
        split at member
        · exact List.mem_of_mem_erase member
        · exact member
      split
      · exact ⟨path2, draws, rfl, arm⟩
      · rename_i next drawn
        exact ih _ _ (drawn_extends arm _ fromEnd _ next drawn)

/-- The two arms that `generatePath` draws from a start node. -/
structure DrawnArms (connected : GridPosition → List GridPosition) (oNode : GridPosition)
    (draws : Draws) (path1 path2 : List GridPosition) (draws' : Draws) : Prop where
  ran : ∃ firstDirection middle,
    firstPath connected [1, 2, 3, 4, 5] [oNode] none draws =
        .ok (path1, some firstDirection, middle) ∧
      secondPath connected firstDirection [1, 2, 3, 4, 5] [oNode] middle = .ok (path2, draws')
  one : Arm connected oNode path1
  two : Arm connected oNode path2

theorem full_path_arms (connected : GridPosition → List GridPosition) (oNode : GridPosition)
    (draws : Draws) :
    ∃ path1 path2 draws', DrawnArms connected oNode draws path1 path2 draws' ∧
      fullPath connected oNode draws = .ok (roundTrip path1 path2, draws') := by
  obtain ⟨path1, direction, middle, ran1, one⟩ :=
    first_path_arm [1, 2, 3, 4, 5] [oNode] none draws (arm_single connected oNode) (Or.inl rfl)
  obtain ⟨path2, draws', ran2, two⟩ :=
    second_path_arm direction [1, 2, 3, 4, 5] [oNode] middle (arm_single connected oNode)
  refine ⟨path1, path2, draws', ⟨⟨direction, middle, ran1, ran2⟩, one, two⟩, ?_⟩
  simp [fullPath, ran1, unwrapped, ran2, roundTrip]

end Paths

section Routes
variable {K : Type} [Field K] [LinearOrder K]
variable {manager : TileManager} {data : Grid MazeTile}

/-- The positions a monster walks through for a list of places. -/
def routeOf (frame : SceneFrame K) (places : List MapPlace) : List (CGPoint K) :=
  places.map fun place => frame.tilePosition place.1

theorem route_of_places (frame : SceneFrame K) (places : List MapPlace) :
    routeOf frame places = (places.map (·.1)).map frame.tilePosition := by
  rw [routeOf, List.map_map]
  rfl

theorem route_of_inj [IsStrictOrderedRing K] [FloorRing K] (frame : SceneFrame K)
    (first second : List MapPlace) :
    routeOf frame first = routeOf frame second ↔ first = second := by
  refine ⟨fun same => ?_, congrArg _⟩
  refine List.map_injective_iff.mpr (fun place other hit => Subtype.ext ?_) same
  exact tile_position_inj frame place.1 other.1 place.2 other.2 hit

theorem links_on_map (laid : WellLaid MAX_COLUMNS MAX_ROWS data) (place next : GridPosition)
    (member : next ∈ links data place) : OnMap next :=
  floor_on_map laid next ((laid.joined place next).mp member).2.1

theorem get_tile_position (shows : manager.Shows data)
    (laid : WellLaid MAX_COLUMNS MAX_ROWS data) (frame : SceneFrame K) (place : GridPosition)
    (onMap : OnMap place) :
    ∃ tile, manager.getTile place.row place.column = .ok tile ∧
      tile.position frame = frame.tilePosition place := by
  obtain ⟨tile, found, row, column, -⟩ := TileManager.shown_tile shows laid place onMap
  exact ⟨tile, found, by rw [TileNode.position, row, column]⟩

/-- The random tile is a tile of the map, whatever the condition and the draw. -/
theorem random_tile_on_map (shows : manager.Shows data)
    (laid : WellLaid MAX_COLUMNS MAX_ROWS data) (condition : TileNode → Bool) (draw : Nat) :
    ∃ tile, manager.getRandomTile condition draw = .ok tile ∧ OnMap tile.node.gridPosition := by
  obtain ⟨place, tile, onMap, found, drawn, -⟩ :=
    TileManager.random_tile_shown shows condition draw
  obtain ⟨other, found', -, -, placed, -⟩ := TileManager.shown_tile shows laid place onMap
  obtain rfl := Except.ok.inj (found.symm.trans found')
  exact ⟨tile, drawn, placed ▸ onMap⟩

namespace Monster

theorem store_all (shows : manager.Shows data) (laid : WellLaid MAX_COLUMNS MAX_ROWS data)
    (frame : SceneFrame K) (path : List GridPosition) (onMap : ∀ place ∈ path, OnMap place)
    (stored : List MapPlace) (actions : List (CGPoint K)) :
    ∃ places, path.foldlM (storeStep manager frame) (stored, actions) =
      .ok (stored ++ places, actions ++ routeOf frame places) ∧ places.map (·.1) = path := by
  induction path generalizing stored actions with
  | nil => exact ⟨[], by simp [routeOf], rfl⟩
  | cons node rest ih =>
      have here := onMap node List.mem_cons_self
      obtain ⟨tile, found, position⟩ := get_tile_position shows laid frame node here
      obtain ⟨places, ran, listed⟩ :=
        ih (fun place member => onMap place (List.mem_cons_of_mem node member))
          (stored ++ [⟨node, here⟩]) (actions ++ [frame.tilePosition node])
      refine ⟨⟨node, here⟩ :: places, ?_, by simp [listed]⟩
      simp only [List.foldlM_cons, storeStep, found, run_ok, here, dite_true, position, run_pure,
        ran]
      simp [routeOf]

/-- The route is the round trip over two arms from the tile that was drawn. -/
theorem generate_path_arms (shows : manager.Shows data)
    (laid : WellLaid MAX_COLUMNS MAX_ROWS data) (frame : SceneFrame K) (monster : Monster K)
    (draws : Draws) :
    ∃ placed start rest path1 path2 monster' places draws',
      monster.setRandomPosition manager frame monster.number draws = .ok (placed, start, rest) ∧
      DrawnArms (links data) start rest path1 path2 draws' ∧
      monster.generatePath manager frame draws = .ok (monster', routeOf frame places, draws') ∧
      places.map (·.1) = roundTrip path1 path2 ∧ monster'.gridPos = start ∧
      monster'.path = monster.path ++ places ∧ monster'.actions = monster.actions := by
  obtain ⟨tile, drawn, onMap⟩ :=
    random_tile_on_map shows laid (startCondition frame monster.number) (draws 0)
  have wired : manager.linksAt = links data :=
    funext fun place => TileManager.shown_links shows laid place
  obtain ⟨path1, path2, draws', arms, ran⟩ :=
    full_path_arms (links data) tile.node.gridPosition draws.rest
  have closed : ∀ place, OnMap place → ∀ next ∈ links data place, OnMap next :=
    fun place _ next => links_on_map laid place next
  have members : ∀ place ∈ roundTrip path1 path2, OnMap place := by
    intro place member
    rcases (mem_round_trip path1 path2 place).mp member with one | two
    · exact arm_members OnMap closed arms.one onMap place one
    · exact arm_members OnMap closed arms.two onMap place two
  obtain ⟨places, stored, listed⟩ := store_all shows laid frame _ members monster.path []
  let placed : Monster K :=
    { monster with gridPos := tile.node.gridPosition, position := tile.position frame }
  refine ⟨placed, tile.node.gridPosition, draws.rest, path1, path2,
    { placed with path := monster.path ++ places }, places, draws', ?_, arms, ?_, listed, rfl, rfl,
    rfl⟩
  · rw [setRandomPosition, drawn, run_ok, run_pure]
  · simp only [generatePath, setRandomPosition, drawn, run_ok, run_pure, wired, ran, stored,
      List.nil_append, placed]

/-- `generatePath` stores the places it makes the monster walk through, after
    those it has stored before. -/
theorem generate_path_stores (shows : manager.Shows data)
    (laid : WellLaid MAX_COLUMNS MAX_ROWS data) (frame : SceneFrame K) (monster : Monster K)
    (draws : Draws) :
    ∃ monster' places draws', monster.generatePath manager frame draws =
      .ok (monster', routeOf frame places, draws') ∧ places ≠ [] ∧
      monster'.path = monster.path ++ places ∧ monster'.actions = monster.actions := by
  obtain ⟨_, start, rest, path1, path2, monster', places, draws', -, arms, ran, listed, -, path,
    actions⟩ := generate_path_arms shows laid frame monster draws
  refine ⟨monster', places, draws', ran, ?_, path, actions⟩
  rintro rfl
  have filled := arm_filled arms.one
  simp_all [roundTrip]

/-- What a fresh monster stores is what it walks. -/
theorem spawn_walks_path (shows : manager.Shows data) (laid : WellLaid MAX_COLUMNS MAX_ROWS data)
    (frame : SceneFrame K) (number : Int) (draws : Draws) :
    ∃ monster draws', spawn manager frame number draws = .ok (monster, draws') ∧
      monster.actions = [routeOf frame monster.path] ∧ monster.path ≠ [] := by
  obtain ⟨monster, places, draws', ran, filled, path, actions⟩ :=
    generate_path_stores shows laid frame ⟨number, "", ⟨0, 0⟩, ⟨0, 0⟩, [], []⟩ draws
  refine ⟨monster.run (routeOf frame places), draws',
    by simp only [spawn, ran, run_ok, run_pure], ?_, ?_⟩
  · simp [run, actions, path]
  · simpa [run, path] using filled

theorem generate_monsters_walk (shows : manager.Shows data)
    (laid : WellLaid MAX_COLUMNS MAX_ROWS data) (frame : SceneFrame K) (counters : List Nat)
    (draws : Draws) :
    ∃ monsters draws', generateMonsters manager frame counters draws = .ok (monsters, draws') ∧
      monsters.length = counters.length ∧
      ∀ monster ∈ monsters, monster.actions = [routeOf frame monster.path] := by
  induction counters generalizing draws with
  | nil => exact ⟨[], draws, rfl, rfl, by simp⟩
  | cons counter rest ih =>
      obtain ⟨monster, draws1, spawned, walks, -⟩ :=
        spawn_walks_path shows laid frame counter draws
      obtain ⟨others, draws2, ran, count, walk⟩ := ih draws1
      refine ⟨{ monster with name := "monster" ++ toString counter } :: others, draws2, ?_, ?_, ?_⟩
      · simp only [generateMonsters, spawned, run_ok, ran, run_pure]
      · rw [List.length_cons, count, List.length_cons]
      · intro other member
        rcases List.mem_cons.mp member with same | old
        · subst same
          exact walks
        · exact walk other old

end Monster
end Routes
end RelicRace
