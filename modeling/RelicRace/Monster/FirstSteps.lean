import RelicRace.Maze.WellFormed
import RelicRace.Monster.Routes

/-!
The first steps of the two arms of `generatePath`. The first loop keeps its
first step in `firstDirection` for the second one, but a dead end that it comes
to on a later round overwrites it, and the second arm may leave by the same exit.
-/

namespace RelicRace
open Library Patrol

/-- The draws that are left after some have been used. -/
def Draws.after (draws : Draws) (count : Nat) : Draws := fun index => draws (count + index)

theorem draws_after_zero (draws : Draws) : draws.after 0 = draws :=
  funext fun index => congrArg draws (Nat.zero_add index)

theorem draws_after_rest (draws : Draws) (count : Nat) :
    (draws.after count).rest = draws.after (count + 1) := by
  funext index
  exact congrArg draws (by omega)

/-- Where both arms take a step, they take it to different tiles. -/
def ExitsDiffer (path1 path2 : List GridPosition) : Prop :=
  ∀ first ∈ path1[1]?, ∀ second ∈ path2[1]?, first ≠ second

/-- The walk of the draws is cornered after one to four steps, and the next draw
    falls on the same connection of the start as the first one. -/
def PicksSameExit (connected : GridPosition → List GridPosition) (start : GridPosition)
    (draws : Draws) : Prop :=
  ∃ steps, 1 ≤ steps ∧ steps < 5 ∧ Cornered connected start draws steps ∧
    draws steps % (connected start).length = draws 0 % (connected start).length

section Arms
variable (connected : GridPosition → List GridPosition) (start : GridPosition) (draws : Draws)

/-- One round of the first loop draws from the fresh neighbours. -/
theorem first_path_round (counter : Nat) (rest : List Nat) (steps : Nat)
    (first : Option GridPosition) (left : Draws) :
    firstPath connected (counter :: rest) (roam connected start draws steps) first left =
      ((pick (fresh connected (roam connected start draws steps)) (left 0)).elim
        (.ok (roam connected start draws steps, some noDirection, left)) fun newNode =>
          firstPath connected rest (roam connected start draws steps ++ [newNode])
            (if counter = 1 then some newNode else first) left.rest) := by
  obtain ⟨node, last⟩ := roam_last connected start draws steps
  simp only [firstPath, last, unwrapped, run_ok, remove_traversed_exact, fresh, pick]
  cases ((connected node).filter fun next => next ∉ roam connected start draws steps)[left 0 %
    ((connected node).filter fun next => next ∉ roam connected start draws steps).length]? <;> rfl

/-- How the first loop ends: with all its rounds made and its first step kept,
    or cornered before, with `firstDirection` overwritten. -/
structure FirstLoop (rounds : Nat) (first : Option GridPosition) (last : Nat)
    (direction : Option GridPosition) : Prop where
  reached : (roam connected start draws last).length = last + 1
  ends : (last = rounds ∧ direction = first) ∨
    (last < rounds ∧ Cornered connected start draws last ∧ direction = some noDirection)

/-- The rounds after the first one. -/
theorem first_path_goes_on (count steps : Nat) (later : 1 ≤ steps)
    (first : Option GridPosition)
    (reached : (roam connected start draws steps).length = steps + 1) :
    ∃ last direction, steps ≤ last ∧
      firstPath connected (List.range' (steps + 1) count) (roam connected start draws steps) first
        (draws.after steps) = .ok (roam connected start draws last, direction, draws.after last) ∧
      FirstLoop connected start draws (steps + count) first last direction := by
  induction count generalizing steps with
  | zero => exact ⟨steps, first, Nat.le_refl _, rfl, reached, Or.inl ⟨rfl, rfl⟩⟩
  | succ count ih =>
      rw [List.range'_succ, first_path_round]
      cases picked : pick (fresh connected (roam connected start draws steps)) (draws steps) with
      | none =>
          have stuck := (pick_none_iff _ _).mp picked
          refine ⟨steps, some noDirection, Nat.le_refl _, ?_, reached,
            Or.inr ⟨by omega, ⟨reached, stuck⟩, rfl⟩⟩
          rw [Draws.after, Nat.add_zero, picked]
          rfl
      | some next =>
          have grown := roam_picked picked
          have further : (roam connected start draws (steps + 1)).length = steps + 2 := by
            rw [grown, List.length_append, reached, List.length_singleton]
          obtain ⟨last, direction, order, ran, loop⟩ := ih (steps + 1) (by omega) further
          refine ⟨last, direction, by omega, ?_, ?_⟩
          · rw [grown, ← draws_after_rest] at ran
            rw [Draws.after, Nat.add_zero, picked, Option.elim_some, if_neg (by omega)]
            exact ran
          · rwa [show steps + (count + 1) = steps + 1 + count by omega]

/-- The first loop from its first round on. -/
theorem first_path_ends : ∃ last direction,
    firstPath connected [1, 2, 3, 4, 5] [start] none draws =
      .ok (roam connected start draws last, direction, draws.after last) ∧
    FirstLoop connected start draws 5 (roam connected start draws last)[1]? last direction := by
  have round := first_path_round connected start draws 1 [2, 3, 4, 5] 0 none draws
  rw [roam] at round
  rw [round]
  cases picked : pick (fresh connected [start]) (draws 0) with
  | none =>
      refine ⟨0, some noDirection, ?_, rfl,
        Or.inr ⟨by omega, ⟨rfl, (pick_none_iff _ _).mp picked⟩, rfl⟩⟩
      rw [draws_after_zero]
      rfl
  | some next =>
      have one : roam connected start draws 1 = [start] ++ [next] := roam_picked picked
      obtain ⟨last, direction, order, ran, loop⟩ := first_path_goes_on connected start draws 4 1
        (Nat.le_refl 1) (some next) (by rw [one]; rfl)
      have used := draws_after_rest draws 0
      rw [draws_after_zero] at used
      refine ⟨last, direction, ?_, ?_⟩
      · rw [Option.elim_some, if_pos rfl, used]
        rw [one] at ran
        exact ran
      · rw [roam_first_step order picked]
        exact loop

/-! ### The second loop -/

/-- The nodes that a round of the second loop draws from; the first round leaves
    `firstDirection` out. -/
def secondNodes (firstDirection : GridPosition) (counter : Nat) (path2 : List GridPosition)
    (node : GridPosition) : List GridPosition :=
  (if counter = 1 then (connected node).erase firstDirection else connected node).filter
    fun next => next ∉ path2

theorem second_path_round (firstDirection : GridPosition) (counter : Nat) (rest : List Nat)
    (path2 : List GridPosition) (left : Draws) (node : GridPosition)
    (last : path2.getLast? = some node) :
    secondPath connected firstDirection (counter :: rest) path2 left =
      (pick (secondNodes connected firstDirection counter path2 node) (left 0)).elim
        (.ok (path2, left)) fun newNode =>
          secondPath connected firstDirection rest (path2 ++ [newNode]) left.rest := by
  simp only [secondPath, last, unwrapped, run_ok, remove_traversed_exact, pick]
  rw [← secondNodes]
  cases (secondNodes connected firstDirection counter path2 node)[left 0 %
    (secondNodes connected firstDirection counter path2 node).length]? <;> rfl

/-- The path that is returned goes on from the one given, by a step a round. -/
theorem second_path_begins (firstDirection : GridPosition) (counters : List Nat)
    (path2 : List GridPosition) (left left' : Draws) (path : List GridPosition)
    (ran : secondPath connected firstDirection counters path2 left = .ok (path, left')) :
    path2 <+: path ∧ path.length ≤ path2.length + counters.length := by
  induction counters generalizing path2 left with
  | nil =>
      obtain ⟨rfl, -⟩ := Prod.mk.inj (Except.ok.inj ran)
      exact ⟨List.prefix_rfl, Nat.le_add_right _ _⟩
  | cons counter rest ih =>
      cases last : path2.getLast? with
      | none =>
          rw [secondPath, last] at ran
          cases ran
      | some node =>
          rw [second_path_round connected firstDirection counter rest path2 left node last] at ran
          cases picked : pick (secondNodes connected firstDirection counter path2 node)
              (left 0) with
          | none =>
              rw [picked] at ran
              obtain ⟨rfl, -⟩ := Prod.mk.inj (Except.ok.inj ran)
              exact ⟨List.prefix_rfl, Nat.le_add_right _ _⟩
          | some newNode =>
              rw [picked] at ran
              obtain ⟨begins, longer⟩ := ih _ _ ran
              rw [List.length_append, List.length_singleton] at longer
              refine ⟨(List.prefix_append path2 [newNode]).trans begins, ?_⟩
              rw [List.length_cons]
              omega

/-- The second arm's first step is drawn from the other connections. -/
theorem second_first_step (firstDirection : GridPosition) (left left' : Draws)
    (path2 : List GridPosition)
    (ran : secondPath connected firstDirection [1, 2, 3, 4, 5] [start] left = .ok (path2, left')) :
    path2[1]? = pick (secondNodes connected firstDirection 1 [start] start) (left 0) := by
  rw [second_path_round connected firstDirection 1 _ [start] left start rfl] at ran
  cases picked : pick (secondNodes connected firstDirection 1 [start] start) (left 0) with
  | none =>
      rw [picked] at ran
      obtain ⟨rfl, -⟩ := Prod.mk.inj (Except.ok.inj ran)
      rfl
  | some newNode =>
      rw [picked, Option.elim_some] at ran
      obtain ⟨⟨rest, same⟩, -⟩ := second_path_begins connected firstDirection _ _ _ _ _ ran
      rw [← same]
      rfl

/-! ### Both first steps -/

variable {connected start draws}

theorem first_step_eq (apart : start ∉ connected start) (last : Nat) (some' : 1 ≤ last)
    (reached : (roam connected start draws last).length = last + 1) :
    connected start ≠ [] ∧
      (roam connected start draws last)[1]? = pick (connected start) (draws 0) := by
  have all : fresh connected [start] = connected start := by
    refine List.filter_eq_self.mpr fun next member => ?_
    rw [decide_eq_true_eq, List.mem_singleton]
    rintro rfl
    exact apart member
  have filled : connected start ≠ [] := by
    intro empty
    have cornered : Cornered connected start draws 0 := ⟨rfl, all.trans empty⟩
    have none := cornered_full connected start draws cornered reached
    omega
  refine ⟨filled, ?_⟩
  rw [← all]
  cases picked : pick (fresh connected [start]) (draws 0) with
  | none => exact absurd (all.symm.trans ((pick_none_iff _ _).mp picked)) filled
  | some next => exact roam_first_step some' picked

theorem second_nodes_eq (apart : start ∉ connected start) (firstDirection : GridPosition) :
    secondNodes connected firstDirection 1 [start] start =
      (connected start).erase firstDirection := by
  rw [secondNodes, if_pos rfl]
  refine List.filter_eq_self.mpr fun next member => ?_
  rw [decide_eq_true_eq, List.mem_singleton]
  rintro rfl
  exact apart (List.mem_of_mem_erase member)

/-- The first arm is the walk of the draws, up to its end; neither is longer than six. -/
theorem drawn_arms_short {path1 path2 : List GridPosition} {draws' : Draws}
    (arms : DrawnArms connected start draws path1 path2 draws') :
    (∃ last, path1 = roam connected start draws last ∧
      (last = 5 ∨ Cornered connected start draws last)) ∧
      path1.length ≤ 6 ∧ path2.length ≤ 6 := by
  obtain ⟨firstDirection, middle, ran1, ran2⟩ := arms.ran
  obtain ⟨last, direction, ran, reached, ends⟩ := first_path_ends connected start draws
  obtain ⟨rfl, -⟩ := Prod.mk.inj (Except.ok.inj (ran1.symm.trans ran))
  refine ⟨⟨last, rfl, ?_⟩, ?_, (second_path_begins connected _ _ _ _ _ _ ran2).2⟩
  · rcases ends with ⟨rfl, -⟩ | ⟨-, cornered, -⟩
    · exact Or.inl rfl
    · exact Or.inr cornered
  · rcases ends with ⟨rfl, -⟩ | ⟨early, -, -⟩ <;> omega

/-- Two steps that are drawn from the same connections. -/
theorem exits_differ_pick {exits : List GridPosition} (filled : exits ≠ [])
    {path1 path2 : List GridPosition} {choice choice' : Nat}
    (first : path1[1]? = pick exits choice) (second : path2[1]? = pick exits choice') :
    ExitsDiffer path1 path2 ↔ ¬ pick exits choice = pick exits choice' := by
  rw [ExitsDiffer, first, second]
  constructor
  · intro differ same
    cases picked : pick exits choice with
    | none => exact filled ((pick_none_iff _ _).mp picked)
    | some exit => exact differ exit picked exit (same ▸ picked) rfl
  · rintro differ exit isFirst other isSecond rfl
    exact differ (isFirst.trans isSecond.symm)

/-- The arms of a start tile leave by different exits unless the first arm is
    cornered and the next draw picks its exit again. -/
theorem exits_differ_iff (unique : (connected start).Nodup) (apart : start ∉ connected start)
    (real : noDirection ∉ connected start) {path1 path2 : List GridPosition} {draws' : Draws}
    (arms : DrawnArms connected start draws path1 path2 draws') :
    ExitsDiffer path1 path2 ↔ ¬ PicksSameExit connected start draws := by
  obtain ⟨firstDirection, middle, ran1, ran2⟩ := arms.ran
  obtain ⟨last, direction, ran, reached, ends⟩ := first_path_ends connected start draws
  obtain ⟨rfl, known, rfl⟩ : path1 = roam connected start draws last ∧
      some firstDirection = direction ∧ middle = draws.after last := by
    simpa using ran1.symm.trans ran
  have second := second_first_step connected start firstDirection _ _ _ ran2
  rw [second_nodes_eq apart] at second
  rcases ends with ⟨rfl, kept⟩ | ⟨early, cornered, overwritten⟩
  -- All five steps: the second loop leaves the first step out.
  · refine iff_of_true ?_ ?_
    · rintro first isFirst other isOther rfl
      have same : first = firstDirection :=
        Option.some.inj ((Option.mem_def.mp isFirst).symm.trans (kept.symm.trans known.symm))
      rw [second, same] at isOther
      exact unique.not_mem_erase (pick_mem isOther)
    · rintro ⟨steps, -, less, cornered, -⟩
      have further := cornered_full connected start draws cornered reached
      omega
  -- Cornered before: nothing is left out.
  · obtain rfl := Option.some.inj (known.trans overwritten)
    rw [List.erase_of_not_mem real] at second
    have once (steps : Nat) (again : Cornered connected start draws steps) : steps = last :=
      Nat.le_antisymm (cornered_full connected start draws cornered again.1)
        (cornered_full connected start draws again reached)
    rcases Nat.eq_zero_or_pos last with rfl | some'
    · refine iff_of_true (fun first isFirst => by cases isFirst) ?_
      rintro ⟨steps, later, -, again, -⟩
      have none := once steps again
      omega
    · obtain ⟨filled, first⟩ := first_step_eq apart last some' reached
      rw [exits_differ_pick filled first second]
      refine not_congr ((pick_same_iff unique filled _ _).trans ⟨fun index => ?_, ?_⟩)
      · exact ⟨last, some', early, cornered, index.symm⟩
      · rintro ⟨steps, -, -, again, index⟩
        rw [once steps again] at index
        exact index.symm

end Arms

/-! ### Monsters in a generated maze -/

section Monsters
variable {data : Grid MazeTile} {manager : TileManager}

theorem maze_exits_differ_iff {width height : Nat} (laid : WellLaid width height data)
    {start : GridPosition} {draws draws' : Draws} {path1 path2 : List GridPosition}
    (arms : DrawnArms (links data) start draws path1 path2 draws') :
    ExitsDiffer path1 path2 ↔ ¬ PicksSameExit (links data) start draws := by
  refine exits_differ_iff (laid.nodup start) (fun itself => ?_) (fun outside => ?_) arms
  · obtain ⟨-, -, beside⟩ := (laid.joined start start).mp itself
    simp only [EdgeAdjacent] at beside
    omega
  · obtain ⟨-, floor, -⟩ := (laid.joined start noDirection).mp outside
    have inner := laid.interior noDirection floor
    simp only [Interior, noDirection] at inner
    omega

variable {K : Type} [Field K] [LinearOrder K]

/-- In every generated maze, from every start tile and for all draws, the arms of
    `generatePath` leave by different exits exactly when the first one is not
    cornered early or the next draw does not pick its exit again. -/
theorem arms_leave_apart_iff (extra : Nat) (draws : Nat → Nat) :
    ∃ maze manager, Maze.generate MAX_COLUMNS MAX_ROWS
        (Maze.roundBound MAX_COLUMNS MAX_ROWS + extra) draws = .ok maze ∧
      TileManager.make maze.graph = .ok manager ∧
      (∀ start choices, ∃ path1 path2 left,
        DrawnArms (links maze.data) start choices path1 path2 left ∧
          (ExitsDiffer path1 path2 ↔ ¬ PicksSameExit (links maze.data) start choices)) ∧
      ∀ (frame : SceneFrame K) (monster : Monster K) (choices : Draws),
        ∃ placed start rest path1 path2 monster' left,
          monster.setRandomPosition manager frame monster.number choices =
              .ok (placed, start, rest) ∧
            DrawnArms (links maze.data) start rest path1 path2 left ∧
            monster.generatePath manager frame choices =
              .ok (monster', (roundTrip path1 path2).map frame.tilePosition, left) ∧
            (ExitsDiffer path1 path2 ↔ ¬ PicksSameExit (links maze.data) start rest) := by
  obtain ⟨maze, manager, generated, made, scanned, shows, -⟩ :=
    Maze.generate_with_tiles extra draws
  refine ⟨maze, manager, generated, made, fun start choices => ?_, fun frame monster choices => ?_⟩
  · obtain ⟨path1, path2, left, arms, -⟩ := full_path_arms (links maze.data) start choices
    exact ⟨path1, path2, left, arms, maze_exits_differ_iff scanned.1 arms⟩
  · obtain ⟨placed, start, rest, path1, path2, monster', places, left, chosen, arms, ran, listed,
      -⟩ := Monster.generate_path_arms shows scanned.1 frame monster choices
    have route := route_of_places frame places
    rw [listed] at route
    exact ⟨placed, start, rest, path1, path2, monster', left, chosen, arms, route ▸ ran,
      maze_exits_differ_iff scanned.1 arms⟩

/-- Every floor tile that meets the condition is drawn for some draw. -/
theorem random_tile_drawn (condition : TileNode → Bool) (tile : TileNode) (row column : Int)
    (found : manager.getTile row column = .ok tile) (space : tile.typeName = "space")
    (fits : condition tile = true) : ∃ draw, manager.getRandomTile condition draw = .ok tile := by
  have inside := (Grid.mem_flatten_iff manager.tiles tile).mpr
    ⟨row, column, (indexed_ok_iff _ _).mp found⟩
  have listed : tile ∈ manager.spaces condition :=
    List.mem_filter.mpr ⟨inside, by simp [space, fits]⟩
  obtain ⟨draw, within, same⟩ := List.getElem_of_mem listed
  refine ⟨draw, ?_⟩
  rw [TileManager.getRandomTile, Nat.mod_eq_of_lt within, List.getElem?_eq_getElem within, same]

end Monsters

/-- Every number is drawn seventeen times, in ascending order. -/
def seventeenOfEach : Draws := fun index => index / 17

/-- From the place in column 33 and row 5 a connection leads to a dead end. -/
theorem seventeen_dead_end :
    ((Maze.generate MAX_COLUMNS MAX_ROWS (Maze.roundBound MAX_COLUMNS MAX_ROWS)
      seventeenOfEach).toOption.any fun maze =>
        [⟨33, 5⟩, ⟨34, 5⟩, ⟨35, 5⟩].map (links maze.data) =
          [[⟨33, 6⟩, ⟨32, 5⟩, ⟨34, 5⟩], [⟨33, 5⟩, ⟨35, 5⟩], [⟨34, 5⟩]]) = true := by
  decide +kernel

/-- The draws of a monster: one for its start tile, then 8 always. -/
def eights (first : Nat) : Draws
  | 0 => first
  | _ + 1 => 8

def fourthMonster : Monster ℚ := ⟨4, "", ⟨0, 0⟩, ⟨0, 0⟩, [], []⟩

theorem arms_leave_together : ¬ ∀ (draws : Nat → Nat) (maze : Maze) (manager : TileManager),
    Maze.generate MAX_COLUMNS MAX_ROWS (Maze.roundBound MAX_COLUMNS MAX_ROWS) draws = .ok maze →
    TileManager.make maze.graph = .ok manager →
    ∀ (frame : SceneFrame ℚ) (monster placed : Monster ℚ) (choices rest left : Draws)
      (start : GridPosition) (path1 path2 : List GridPosition),
      monster.setRandomPosition manager frame monster.number choices =
        .ok (placed, start, rest) →
      DrawnArms (links maze.data) start rest path1 path2 left → ExitsDiffer path1 path2 := by
  intro apart
  obtain ⟨maze, manager, generated, made, scanned, shows, -⟩ :=
    Maze.generate_with_tiles 0 seventeenOfEach
  rw [Nat.add_zero] at generated
  obtain ⟨here, there, dead⟩ : links maze.data ⟨33, 5⟩ = [⟨33, 6⟩, ⟨32, 5⟩, ⟨34, 5⟩] ∧
      links maze.data ⟨34, 5⟩ = [⟨33, 5⟩, ⟨35, 5⟩] ∧ links maze.data ⟨35, 5⟩ = [⟨34, 5⟩] := by
    have found := seventeen_dead_end
    rw [generated] at found
    simpa [Except.toOption] using found
  obtain ⟨tile, got, row, column, placed, wires, kind⟩ :=
    TileManager.shown_tile shows scanned.1 ⟨33, 5⟩ (by decide)
  have space : tile.typeName = "space" := by rw [kind, here, if_neg (by simp)]
  have fits : Monster.startCondition SceneFrame.unit 4 tile = true := by
    simp only [Monster.startCondition, TileNode.position, row, column, wires, here]
    decide +kernel
  obtain ⟨first, drawn⟩ := random_tile_drawn _ tile _ _ got space fits
  obtain ⟨path1, path2, left, arms, -⟩ :=
    full_path_arms (links maze.data) ⟨33, 5⟩ (eights first).rest
  have chosen : fourthMonster.setRandomPosition manager SceneFrame.unit fourthMonster.number
      (eights first) = .ok ({ fourthMonster with
        gridPos := ⟨33, 5⟩, position := tile.position SceneFrame.unit }, ⟨33, 5⟩,
        (eights first).rest) := by
    rw [Monster.setRandomPosition]
    change (manager.getRandomTile (Monster.startCondition SceneFrame.unit 4) first >>= _) = _
    rw [drawn, run_ok, run_pure, placed]
  have differ := apart seventeenOfEach maze manager generated made SceneFrame.unit fourthMonster _
    (eights first) _ left ⟨33, 5⟩ path1 path2 chosen arms
  have one : roam (links maze.data) ⟨33, 5⟩ (eights first).rest 1 = [⟨33, 5⟩, ⟨34, 5⟩] := by
    simp [roam, fresh, here, pick, Draws.rest, eights]
  have two : roam (links maze.data) ⟨33, 5⟩ (eights first).rest 2 =
      [⟨33, 5⟩, ⟨34, 5⟩, ⟨35, 5⟩] := by
    rw [roam, one]
    simp [fresh, there, pick, Draws.rest, eights]
  have cornered : Cornered (links maze.data) ⟨33, 5⟩ (eights first).rest 2 := by
    refine ⟨by rw [two]; rfl, ?_⟩
    rw [two]
    simp only [fresh, List.getLast?_cons_cons, List.getLast?_singleton, dead]
    rfl
  exact (maze_exits_differ_iff scanned.1 arms).mp differ
    ⟨2, by decide, by decide, cornered, rfl⟩

end RelicRace
