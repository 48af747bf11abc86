import RelicRace.Monster.Routes
import RelicRace.Tiles.Corridors

/-!
The repeated route of a monster in a generated maze. Connections lead both ways,
so the round trip over the two arms is a closed walk, and no move of it leaves
the floor.
-/

namespace RelicRace
open Library Patrol

structure ClosedRoute (data : Grid MazeTile) (start : GridPosition)
    (path1 path2 : List GridPosition) : Prop where
  starts : (roundTrip path1 path2).head? = some start
  ends : (roundTrip path1 path2).getLast? = some start
  unique1 : path1.Nodup
  unique2 : path2.Nodup
  -- The move after the last tile leads to the first one again.
  moves : ∀ move : Nat, ∃ here next, forever (roundTrip path1 path2) move = some here ∧
    forever (roundTrip path1 path2) (move + 1) = some next ∧
    (here = next ∨ Joined data here next)

section Routes
variable {data : Grid MazeTile} {manager : TileManager}

theorem arms_closed {width height : Nat} (laid : WellLaid width height data)
    {start : GridPosition} {path1 path2 : List GridPosition}
    (one : Arm (links data) start path1) (two : Arm (links data) start path2) :
    ClosedRoute data start path1 path2 := by
  obtain ⟨chain, head, last⟩ := round_trip_closed
    (fun here next edge => (joined_symm laid here next).mp edge) one two
  have filled : roundTrip path1 path2 ≠ [] := by
    intro empty
    rw [empty] at head
    cases head
  refine ⟨head, last, one.unique, two.unique, fun move => ?_⟩
  refine forever_steps filled chain ?_ move
  intro end' isLast first isFirst
  rw [last, Option.mem_some_iff] at isLast
  rw [head, Option.mem_some_iff] at isFirst
  exact Or.inl (isLast.symm.trans isFirst)

/-- The random tile is floor, whatever the condition and the draw. -/
theorem random_tile_floor (shows : manager.Shows data) (scanned : Maze.Scanned data)
    (condition : TileNode → Bool) (draw : Nat) (tile : TileNode)
    (drawn : manager.getRandomTile condition draw = .ok tile) :
    IsSpace data tile.node.gridPosition := by
  obtain ⟨place, other, onMap, found, drawn', kind⟩ :=
    TileManager.random_tile_shown shows condition draw
  obtain rfl := Except.ok.inj (drawn.symm.trans drawn')
  obtain ⟨other, found', -, -, placed, -, type⟩ :=
    TileManager.shown_tile shows scanned.1 place onMap
  obtain rfl := Except.ok.inj (found.symm.trans found')
  rw [placed]
  rcases kind with space | rfl
  · rw [Maze.scanned_linked data scanned]
    intro unlinked
    rw [type, if_pos unlinked] at space
    simp at space
  · exact Maze.first_room_floor scanned

end Routes

section Patrols
variable {K : Type} [Field K] [LinearOrder K] [IsStrictOrderedRing K] [FloorRing K]
variable {data : Grid MazeTile}

/-- Between the centres of a repeated closed route lies floor only. -/
theorem closed_route_floor (laid : WellLaid MAX_COLUMNS MAX_ROWS data) (frame : SceneFrame K)
    {start : GridPosition} {path1 path2 : List GridPosition}
    (route : ClosedRoute data start path1 path2)
    (floor : ∀ place ∈ roundTrip path1 path2, IsSpace data place) (move : Nat) :
    ∃ here next, forever ((roundTrip path1 path2).map frame.tilePosition) move = some here ∧
      forever ((roundTrip path1 path2).map frame.tilePosition) (move + 1) = some next ∧
      ∀ point, OnSegment here next point → IsSpace data (frame.indexFrom point) := by
  obtain ⟨here, next, stands, goes, linked⟩ := route.moves move
  have hereFloor := floor here (List.mem_of_getElem? stands)
  have nextFloor := floor next (List.mem_of_getElem? goes)
  refine ⟨frame.tilePosition here, frame.tilePosition next, ?_, ?_, fun point on => ?_⟩
  · rw [forever_map, stands, Option.map_some]
  · rw [forever_map, goes, Option.map_some]
  · rcases index_in_corridor laid frame ⟨hereFloor, nextFloor, linked.symm⟩ on with found | found
    · exact found ▸ hereFloor
    · exact found ▸ nextFloor

/-- In every generated maze and for all draws `generatePath` returns the round
    trip over the two paths it draws from a floor tile. The route is a closed
    walk of the maze, and repeated forever it never crosses a wall. -/
theorem monster_route_closed (extra : Nat) (draws : Nat → Nat) :
    ∃ maze manager, Maze.generate MAX_COLUMNS MAX_ROWS
        (Maze.roundBound MAX_COLUMNS MAX_ROWS + extra) draws = .ok maze ∧
      TileManager.make maze.graph = .ok manager ∧
      ∀ (frame : SceneFrame K) (monster : Monster K) (choices : Draws),
        ∃ placed start rest path1 path2 monster' left,
          monster.setRandomPosition manager frame monster.number choices =
              .ok (placed, start, rest) ∧
            IsSpace maze.data start ∧ DrawnArms (links maze.data) start rest path1 path2 left ∧
            monster.generatePath manager frame choices =
              .ok (monster', (roundTrip path1 path2).map frame.tilePosition, left) ∧
            ClosedRoute maze.data start path1 path2 ∧
            ∀ move, ∃ here next,
              forever ((roundTrip path1 path2).map frame.tilePosition) move = some here ∧
                forever ((roundTrip path1 path2).map frame.tilePosition) (move + 1) = some next ∧
                ∀ point, OnSegment here next point →
                  IsSpace maze.data (frame.indexFrom point) := by
  obtain ⟨maze, manager, generated, made, scanned, shows, -⟩ :=
    Maze.generate_with_tiles extra draws
  refine ⟨maze, manager, generated, made, fun frame monster choices => ?_⟩
  obtain ⟨placed, start, rest, path1, path2, monster', places, left, chosen, arms, ran, listed,
    -⟩ :=
    Monster.generate_path_arms shows scanned.1 frame monster choices
  have route := route_of_places frame places
  rw [listed] at route
  have begun : IsSpace maze.data start := by
    obtain ⟨tile, drawn, same⟩ := (run_bind_iff _ _ _).mp chosen
    simp only [run_pure, Except.ok.injEq, Prod.mk.injEq] at same
    exact same.2.1 ▸ random_tile_floor shows scanned _ _ tile drawn
  have closed : ∀ here, IsSpace maze.data here → ∀ next ∈ links maze.data here,
      IsSpace maze.data next :=
    fun here _ next edge => ((scanned.1.joined here next).mp edge).2.1
  have floor : ∀ place ∈ roundTrip path1 path2, IsSpace maze.data place := by
    intro place member
    rcases (mem_round_trip path1 path2 place).mp member with one | two
    · exact arm_members _ closed arms.one begun place one
    · exact arm_members _ closed arms.two begun place two
  have walk := arms_closed scanned.1 arms.one arms.two
  exact ⟨placed, start, rest, path1, path2, monster', left, chosen, begun, arms, route ▸ ran, walk,
    closed_route_floor scanned.1 frame walk floor⟩

theorem first_monster_route_closed :
    ∃ maze manager, Maze.generate MAX_COLUMNS MAX_ROWS
        (Maze.roundBound MAX_COLUMNS MAX_ROWS + 0) (fun _ => 0) = .ok maze ∧
      TileManager.make maze.graph = .ok manager ∧
      ∀ (frame : SceneFrame ℚ) (monster : Monster ℚ) (choices : Draws),
        ∃ placed start rest path1 path2 monster' left,
          monster.setRandomPosition manager frame monster.number choices =
              .ok (placed, start, rest) ∧
            IsSpace maze.data start ∧ DrawnArms (links maze.data) start rest path1 path2 left ∧
            monster.generatePath manager frame choices =
              .ok (monster', (roundTrip path1 path2).map frame.tilePosition, left) ∧
            ClosedRoute maze.data start path1 path2 ∧
            ∀ move, ∃ here next,
              forever ((roundTrip path1 path2).map frame.tilePosition) move = some here ∧
                forever ((roundTrip path1 path2).map frame.tilePosition) (move + 1) = some next ∧
                ∀ point, OnSegment here next point →
                  IsSpace maze.data (frame.indexFrom point) :=
  monster_route_closed 0 fun _ => 0

end Patrols
end RelicRace
