import RelicRace.Account.Leaderboard
import RelicRace.Library.Runs

/-!
The table of `LeaderboardViewController`. The table view asks for the number of its
rows when it reloads and for a cell whenever a row comes into view; a cell that goes
out of view is kept and handed out again as it was left, and the table view chooses
which. The two loads, the taps on the segments and the scrolling come in any order.
-/

namespace RelicRace
open Library

structure TableCell where
  textLabel : String
  detailTextLabel : String
  detailHidden : Bool
  deriving DecidableEq

/-- The cell of the storyboard. -/
def TableCell.prototype : TableCell := ⟨"Title", "Detail", false⟩

/-- A section and a row. -/
abbrev IndexPath := Fin 2 × Nat

/-- `signedIn` is true for a guest too. The two requests hold the results that are
    still to come; `rows` is what the table view was told when it last reloaded. -/
structure LeaderboardTable where
  controller : LeaderboardViewController := {}
  signedIn : Bool
  world : Option (Option (List Document))
  localDocument : Option (Option (Option Document))
  selectedSegmentIndex : Nat := 0
  rows : Fin 2 → Nat := fun _ => 0
  shown : List (IndexPath × TableCell) := []
  reusable : List TableCell := []

inductive TableEvent where
  | worldCompletes
  | localCompletes
  | tapSegment (index : Fin 3)
  | willDisplay (path : IndexPath) (reused : Option Nat)
  | endDisplay (position : Nat)

namespace LeaderboardTable

/-! ### The data source -/

def numberOfRows (table : LeaderboardTable) (index : Fin 2) : Nat :=
  if table.signedIn = false ∧ index.val = 0 then 1
  else if table.controller.failedLoad ∧ index.val = 1 then 1
  else
    match table.selectedSegmentIndex with
    | 0 => (table.controller.allEasyTime index).length
    | 1 => (table.controller.allHardTime index).length
    | 2 => (table.controller.allImpossibleTime index).length
    | _ => 0

/-- The two texts of a row of scores. -/
def rowText (row : Nat) (score : Score) : String := toString (row + 1) ++ ": " ++ score.name

def timeText (score : Score) : String := toString score.time ++ "s"

def fill (scores : List Score) (row : Nat) (cell : TableCell) : Except Fault TableCell :=
  match scores[row]? with
  | some score =>
      .ok { cell with textLabel := rowText row score, detailTextLabel := timeText score }
  | none => .error .indexOutOfRange

def cellForRow (table : LeaderboardTable) (path : IndexPath) (cell : TableCell) :
    Except Fault TableCell :=
  if path.1.val = 0 ∧ table.signedIn = false then
    .ok { cell with textLabel := "Sign in to Use", detailHidden := true }
  else if table.controller.failedLoad ∧ path.1.val = 1 then
    .ok { cell with textLabel := "Failed to load data", detailHidden := true }
  else
    match table.selectedSegmentIndex with
    | 0 => fill (table.controller.allEasyTime path.1) path.2 cell
    | 1 => fill (table.controller.allHardTime path.1) path.2 cell
    | 2 => fill (table.controller.allImpossibleTime path.1) path.2 cell
    | _ => .ok cell

/-! ### The table view -/

/-- Every cell in view is kept for reuse. -/
def reloadData (table : LeaderboardTable) : LeaderboardTable :=
  { table with
    rows := table.numberOfRows
    shown := []
    reusable := table.shown.map Prod.snd ++ table.reusable }

/-- `dequeueReusableCell`: a cell that is kept, or a new one. -/
def dequeue (table : LeaderboardTable) (reused : Option Nat) : TableCell :=
  (reused.bind (table.reusable[·]?)).getD .prototype

def worldCompletes (table : LeaderboardTable) : Except Fault LeaderboardTable :=
  match table.world with
  | some result => do
      let controller ← table.controller.worldLoaded result
      return reloadData { table with controller, world := none }
  | none => .ok table

/-- A load of the local document that fails returns before `reloadData`. -/
def localCompletes (table : LeaderboardTable) : Except Fault LeaderboardTable :=
  match table.localDocument with
  | some none => .ok { table with localDocument := none }
  | some (some document) => do
      let controller ← table.controller.localLoaded (some document)
      return reloadData { table with controller, localDocument := none }
  | none => .ok table

/-- Only rows that the table view knows of come into view. -/
def willDisplay (path : IndexPath) (reused : Option Nat) (table : LeaderboardTable) :
    Except Fault LeaderboardTable :=
  if path.2 < table.rows path.1 then do
    let cell ← table.cellForRow path (table.dequeue reused)
    let reusable := (reused.map table.reusable.eraseIdx).getD table.reusable
    return { table with shown := (path, cell) :: table.shown, reusable }
  else .ok table

def endDisplay (position : Nat) (table : LeaderboardTable) : LeaderboardTable :=
  match table.shown[position]? with
  | some (_, cell) => { table with
      shown := table.shown.eraseIdx position
      reusable := cell :: table.reusable }
  | none => table

def step (table : LeaderboardTable) : TableEvent → Except Fault LeaderboardTable
  | .worldCompletes => table.worldCompletes
  | .localCompletes => table.localCompletes
  | .tapSegment index => .ok (reloadData { table with selectedSegmentIndex := index })
  | .willDisplay path reused => table.willDisplay path reused
  | .endDisplay position => .ok (table.endDisplay position)

/-- `viewDidLoad`, with the results that its requests will have. A guest has no local
    document to load. -/
def load (signedIn : Bool) (world : Option (List Document))
    (localDocument : Option (Option (Option Document))) : LeaderboardTable :=
  let table : LeaderboardTable := { signedIn, world := some world, localDocument }
  { table with rows := table.numberOfRows }

/-! ### What a row should show -/

/-- The text that stands in the one row of a section without scores to show. -/
def notice (table : LeaderboardTable) (index : Fin 2) : Option String :=
  if index.val = 0 ∧ table.signedIn = false then some "Sign in to Use"
  else if table.controller.failedLoad ∧ index.val = 1 then some "Failed to load data"
  else none

/-- The lists of the three segments. -/
def lists (controller : LeaderboardViewController) : Nat → Sections
  | 0 => controller.allEasyTime
  | 1 => controller.allHardTime
  | 2 => controller.allImpossibleTime
  | _ => fun _ => []

def field : Nat → String
  | 0 => "easyTime"
  | 1 => "hardTime"
  | _ => "impossibleTime"

/-- All scores that the results of the requests hold for a segment, in ascending
    order of the times. -/
def ranking (world : Option (List Document))
    (localDocument : Option (Option (Option Document))) (segment : Nat) : Sections :=
  LeaderboardViewController.sections
    (TopList.sortBy Score.time
      (LeaderboardViewController.allScores localDocument.join.join.toList (field segment)))
    (TopList.sortBy Score.time
      (LeaderboardViewController.allScores (world.getD []) (field segment)))

/-- A row shows its notice, or the score of its place in the ranking. -/
def Shows (ranking : Nat → Sections) (table : LeaderboardTable) (path : IndexPath)
    (cell : TableCell) : Prop :=
  match table.notice path.1 with
  | some text => cell.textLabel = text ∧ cell.detailHidden = true
  | none => ∃ score, (ranking table.selectedSegmentIndex path.1)[path.2]? = some score ∧
      cell.textLabel = rowText path.2 score ∧ cell.detailTextLabel = timeText score

section Source
variable (table : LeaderboardTable)

theorem number_of_rows_eq (segment : table.selectedSegmentIndex < 3) (index : Fin 2) :
    table.numberOfRows index = match table.notice index with
      | some _ => 1
      | none => (lists table.controller table.selectedSegmentIndex index).length := by
  rw [numberOfRows, notice]
  by_cases guest : index.val = 0 ∧ table.signedIn = false
  · rw [if_pos guest, if_pos guest.symm]
  · rw [if_neg guest, if_neg fun both => guest both.symm]
    split
    · rfl
    · obtain first | second | third : table.selectedSegmentIndex = 0 ∨
        table.selectedSegmentIndex = 1 ∨ table.selectedSegmentIndex = 2 := by omega
      · simp only [first, lists]
      · simp only [second, lists]
      · simp only [third, lists]

theorem cell_for_row_eq (segment : table.selectedSegmentIndex < 3) (path : IndexPath)
    (cell : TableCell) :
    table.cellForRow path cell = match table.notice path.1 with
      | some text => .ok { cell with textLabel := text, detailHidden := true }
      | none => fill (lists table.controller table.selectedSegmentIndex path.1) path.2 cell := by
  rw [cellForRow, notice]
  split
  · rfl
  · split
    · rfl
    · obtain first | second | third : table.selectedSegmentIndex = 0 ∨
        table.selectedSegmentIndex = 1 ∨ table.selectedSegmentIndex = 2 := by omega
      · simp only [first, lists]
      · simp only [second, lists]
      · simp only [third, lists]

theorem fill_eq {scores : List Score} {row : Nat} {score : Score}
    (there : scores[row]? = some score) (cell : TableCell) : fill scores row cell =
      .ok { cell with textLabel := rowText row score, detailTextLabel := timeText score } := by
  rw [fill, there]

theorem will_display_eq {path : IndexPath} {reused : Option Nat} {cell : TableCell}
    (known : path.2 < table.rows path.1)
    (filled : table.cellForRow path (table.dequeue reused) = .ok cell) :
    table.willDisplay path reused = .ok { table with
      shown := (path, cell) :: table.shown
      reusable := (reused.map table.reusable.eraseIdx).getD table.reusable } := by
  rw [willDisplay, if_pos known, filled, run_ok, run_pure]

theorem world_completes_eq {result : Option (List Document)}
    {controller : LeaderboardViewController} (pending : table.world = some result)
    (ran : table.controller.worldLoaded result = .ok controller) :
    table.worldCompletes = .ok (reloadData { table with controller, world := none }) := by
  rw [worldCompletes, pending]
  simp only [ran, run_ok, run_pure]

theorem local_completes_eq {document : Option Document}
    {controller : LeaderboardViewController} (pending : table.localDocument = some (some document))
    (ran : table.controller.localLoaded (some document) = .ok controller) :
    table.localCompletes = .ok (reloadData { table with controller, localDocument := none }) := by
  rw [localCompletes, pending]
  simp only [ran, run_ok, run_pure]

end Source

/-! ### The invariant -/

section Run
variable (world : Option (List Document)) (localDocument : Option (Option (Option Document)))

/-- What the controller holds: of each list the first scores, and nothing of a request
    that is still to come. -/
structure Loaded (table : LeaderboardTable) : Prop where
  segment : table.selectedSegmentIndex < 3
  pendingWorld : ∀ result, table.world = some result →
    result = world ∧ table.controller.allUsers = [] ∧
      ∀ segment, lists table.controller segment 1 = []
  pendingLocal : ∀ result, table.localDocument = some result →
    localDocument = some result ∧ ∀ segment, lists table.controller segment 0 = []
  ranked : ∀ segment index, lists table.controller segment index <+:
    ranking world localDocument segment index
  short : (table.controller.allHardTime 1).length ≤ LeaderboardViewController.LIMIT
  failed : table.controller.failedLoad = true → world = none

/-- No cell of a signed-in user whose query does not fail hides a time. -/
def Visible (table : LeaderboardTable) : Prop :=
  table.signedIn = true → world ≠ none →
    ∀ cell ∈ table.shown.map Prod.snd ++ table.reusable, cell.detailHidden = false

structure Sound (table : LeaderboardTable) : Prop where
  loaded : table.Loaded world localDocument
  rows : table.rows = table.numberOfRows
  shows : ∀ entry ∈ table.shown,
    table.Shows (ranking world localDocument) entry.1 entry.2
  visible : table.Visible world

variable {world localDocument}

/-- After a reload nothing is shown and the table view knows the number of rows. -/
theorem reload_sound {table : LeaderboardTable} (loaded : table.Loaded world localDocument)
    (visible : table.Visible world) : table.reloadData.Sound world localDocument where
  loaded := ⟨loaded.segment, loaded.pendingWorld, loaded.pendingLocal, loaded.ranked,
    loaded.short, loaded.failed⟩
  rows := rfl
  shows _ member := by cases member
  visible := visible

theorem tap_sound {table : LeaderboardTable} (sound : table.Sound world localDocument)
    (index : Fin 3) :
    (reloadData { table with selectedSegmentIndex := index }).Sound world localDocument := by
  refine reload_sound ?_ sound.visible
  exact ⟨index.2, sound.loaded.pendingWorld, sound.loaded.pendingLocal, sound.loaded.ranked,
    sound.loaded.short, sound.loaded.failed⟩

/-- A section of the lists that gets other scores from the front of the ranking. -/
theorem ranked_update {all here : Sections} (index : Fin 2) (top : List Score)
    (ranked : ∀ other, here other <+: all other) (first : top <+: all index) (other : Fin 2) :
    Function.update here index top other <+: all other := by
  by_cases same : other = index
  · rw [same, Function.update_self]
    exact first
  · rw [Function.update_of_ne same]
    exact ranked other

open LeaderboardViewController in
theorem ranking_here (segment : Nat) : ranking world localDocument segment 0 =
    TopList.sortBy Score.time (allScores localDocument.join.join.toList (field segment)) := by
  rw [ranking, sections, Function.update_of_ne (by decide), Function.update_self]

open LeaderboardViewController in
theorem ranking_there (segment : Nat) : ranking world localDocument segment 1 =
    TopList.sortBy Score.time (allScores (world.getD []) (field segment)) := by
  rw [ranking, sections, Function.update_self]

/-- The query over all users fills the second section of each list. -/
theorem world_sound {table : LeaderboardTable} (sound : table.Sound world localDocument) :
    ∃ next, table.worldCompletes = .ok next ∧ next.Sound world localDocument := by
  have loaded := sound.loaded
  cases pending : table.world with
  | none => exact ⟨table, by rw [worldCompletes, pending], sound⟩
  | some result =>
      obtain ⟨rfl, fresh, empty⟩ := loaded.pendingWorld result pending
      cases result with
      | none =>
          refine ⟨_, world_completes_eq table pending rfl, reload_sound ?_ sound.visible⟩
          exact ⟨loaded.segment, fun _ again => (by cases again), loaded.pendingLocal,
            loaded.ranked, loaded.short, fun _ => rfl⟩
      | some users =>
          have ran := LeaderboardViewController.world_loaded_eq users table.controller fresh
            (empty 0) (empty 1) (empty 2)
          refine ⟨_, world_completes_eq table pending ran, reload_sound ?_ sound.visible⟩
          have first (segment : Nat) :
              LeaderboardViewController.topScores users (field segment) <+:
                ranking (some users) localDocument segment 1 := by
            rw [ranking_there]
            exact List.take_prefix _ _
          refine ⟨loaded.segment, fun _ again => (by cases again), fun result waits => ?_,
            fun segment => ?_, ?_, loaded.failed⟩
          · obtain ⟨same, local'⟩ := loaded.pendingLocal result waits
            refine ⟨same, fun segment => ?_⟩
            have here := local' segment
            match segment with
            | 0 | 1 | 2 => exact here
            | _ + 3 => rfl
          · match segment with
            | 0 => exact ranked_update 1 _ (loaded.ranked 0) (first 0)
            | 1 => exact ranked_update 1 _ (loaded.ranked 1) (first 1)
            | 2 => exact ranked_update 1 _ (loaded.ranked 2) (first 2)
            | _ + 3 => exact fun _ => List.nil_prefix
          · exact List.length_take_le _ _

/-- A document that does not exist leaves the empty lists as they are. -/
theorem missing_document {table : LeaderboardTable} (loaded : table.Loaded world localDocument)
    (empty : ∀ segment, lists table.controller segment 0 = []) :
    table.controller.localLoaded (some none) = .ok table.controller := by
  have unsorted (segment : Nat) : LeaderboardViewController.sort
      (lists table.controller segment) 0 = lists table.controller segment := by
    rw [LeaderboardViewController.sort, empty segment, TopList.sortBy, List.mergeSort_nil]
    exact (congrArg _ (empty segment).symm).trans (Function.update_eq_self _ _)
  have uncropped (segment : Nat) : LeaderboardViewController.crop
      (lists table.controller segment) 0 0 = .ok (lists table.controller segment) :=
    LeaderboardViewController.crop_short _ 0 0 (by rw [empty segment]; exact Nat.zero_le _)
  have hard := LeaderboardViewController.crop_short table.controller.allHardTime 0 1 loaded.short
  have easy' := unsorted 0
  have hard' := unsorted 1
  have impossible' := unsorted 2
  have easy := uncropped 0
  have impossible := uncropped 2
  simp only [lists] at easy' hard' impossible' easy impossible
  simp only [LeaderboardViewController.localLoaded, Option.toList_none, List.foldl_nil,
    LeaderboardViewController.sortAll, easy', hard', impossible', easy, hard, impossible, run_ok,
    run_pure]

/-- The local document fills the first section of each list; a load that fails leaves
    the table as it is. -/
theorem local_sound {table : LeaderboardTable} (sound : table.Sound world localDocument) :
    ∃ next, table.localCompletes = .ok next ∧ next.Sound world localDocument := by
  have loaded := sound.loaded
  cases pending : table.localDocument with
  | none => exact ⟨table, by rw [localCompletes, pending], sound⟩
  | some result =>
      obtain ⟨rfl, empty⟩ := loaded.pendingLocal result pending
      match result with
      | none =>
          refine ⟨{ table with localDocument := none }, by rw [localCompletes, pending], ?_,
            sound.rows, sound.shows, sound.visible⟩
          exact ⟨loaded.segment, loaded.pendingWorld, fun _ again => (by cases again),
            loaded.ranked, loaded.short, loaded.failed⟩
      | some none =>
          refine ⟨_, local_completes_eq table pending (missing_document loaded empty),
            reload_sound ?_ sound.visible⟩
          exact ⟨loaded.segment, loaded.pendingWorld, fun _ again => (by cases again),
            loaded.ranked, loaded.short, loaded.failed⟩
      | some (some document) =>
          have ran := LeaderboardViewController.local_loaded_eq document table.controller
            (empty 0) (empty 1) (empty 2) loaded.short
          have all (segment : Nat) : ranking world (some (some (some document))) segment 0 =
              TopList.sortBy Score.time
                (LeaderboardViewController.allScores [document] (field segment)) :=
            ranking_here segment
          refine ⟨_, local_completes_eq table pending ran, reload_sound ?_ sound.visible⟩
          refine ⟨loaded.segment, fun result waits => ?_, fun _ again => (by cases again),
            fun segment => ?_, loaded.short, loaded.failed⟩
          · obtain ⟨same, fresh, there⟩ := loaded.pendingWorld result waits
            refine ⟨same, fresh, fun segment => ?_⟩
            have kept := there segment
            match segment with
            | 0 | 1 | 2 => exact kept
            | _ + 3 => rfl
          · match segment with
            | 0 => exact ranked_update 0 _ (loaded.ranked 0) (all 0 ▸ List.take_prefix _ _)
            | 1 => exact ranked_update 0 _ (loaded.ranked 1) (all 1 ▸ List.prefix_rfl)
            | 2 => exact ranked_update 0 _ (loaded.ranked 2) (all 2 ▸ List.take_prefix _ _)
            | _ + 3 => exact fun _ => List.nil_prefix

/-! ### Rows that come and go -/

theorem dequeue_visible {table : LeaderboardTable}
    (visible : ∀ cell ∈ table.reusable, cell.detailHidden = false) (reused : Option Nat) :
    (table.dequeue reused).detailHidden = false := by
  rw [dequeue]
  cases found : reused.bind (table.reusable[·]?) with
  | none => rfl
  | some cell =>
      obtain ⟨index, -, there⟩ := Option.bind_eq_some_iff.mp found
      exact visible cell (List.mem_of_getElem? there)

/-- A row the table view knows of has a score, and its cell shows it. -/
theorem cell_shows {table : LeaderboardTable} (sound : table.Sound world localDocument)
    (path : IndexPath) (known : path.2 < table.rows path.1) (cell : TableCell) :
    ∃ filled, table.cellForRow path cell = .ok filled ∧
      table.Shows (ranking world localDocument) path filled ∧
      (filled.detailHidden = cell.detailHidden ∨ (table.notice path.1).isSome = true) := by
  have loaded := sound.loaded
  rw [sound.rows, number_of_rows_eq table loaded.segment] at known
  rw [cell_for_row_eq table loaded.segment]
  cases told : table.notice path.1 with
  | some text =>
      refine ⟨_, rfl, ?_, Or.inr rfl⟩
      rw [Shows, told]
      exact ⟨rfl, rfl⟩
  | none =>
      rw [told] at known
      refine ⟨_, fill_eq (List.getElem?_eq_getElem known) cell, ?_, Or.inl rfl⟩
      rw [Shows, told]
      refine ⟨_, ?_, rfl, rfl⟩
      exact List.prefix_iff_getElem?.mp (loaded.ranked _ _) path.2 known

/-- The notices are for who is not signed in and for a query that failed. -/
theorem notice_none {table : LeaderboardTable} (loaded : table.Loaded world localDocument)
    (user : table.signedIn = true) (succeeds : world ≠ none) (index : Fin 2) :
    table.notice index = none := by
  rw [notice, if_neg (by simp [user]), if_neg]
  rintro ⟨failed, -⟩
  exact succeeds (loaded.failed failed)

theorem display_sound {table : LeaderboardTable} (sound : table.Sound world localDocument)
    (path : IndexPath) (reused : Option Nat) :
    ∃ next, table.willDisplay path reused = .ok next ∧ next.Sound world localDocument := by
  by_cases known : path.2 < table.rows path.1
  · obtain ⟨cell, filled, shows, kept⟩ := cell_shows sound path known (table.dequeue reused)
    refine ⟨_, will_display_eq table known filled, ?_, sound.rows, ?_, ?_⟩
    · exact ⟨sound.loaded.segment, sound.loaded.pendingWorld, sound.loaded.pendingLocal,
        sound.loaded.ranked, sound.loaded.short, sound.loaded.failed⟩
    · intro entry member
      rcases List.mem_cons.mp member with rfl | earlier
      · exact shows
      · exact sound.shows entry earlier
    · intro user succeeds other member
      have visible := sound.visible user succeeds
      have waiting (cell) (there : cell ∈ table.reusable) : cell.detailHidden = false :=
        visible cell (List.mem_append_right _ there)
      rcases List.mem_append.mp member with seen | free
      · rcases List.mem_cons.mp seen with rfl | earlier
        · have untold := notice_none sound.loaded user succeeds path.1
          rw [untold] at kept
          exact (kept.resolve_right (by simp)).trans (dequeue_visible waiting reused)
        · exact visible other (List.mem_append_left _ earlier)
      · refine waiting other ?_
        cases reused with
        | none => exact free
        | some index => exact List.mem_of_mem_eraseIdx free
  · exact ⟨table, by rw [willDisplay, if_neg known], sound⟩

theorem end_display_sound {table : LeaderboardTable} (sound : table.Sound world localDocument)
    (position : Nat) : (table.endDisplay position).Sound world localDocument := by
  rw [endDisplay]
  split
  · rename_i path cell there
    refine ⟨⟨sound.loaded.segment, sound.loaded.pendingWorld, sound.loaded.pendingLocal,
      sound.loaded.ranked, sound.loaded.short, sound.loaded.failed⟩, sound.rows, ?_, ?_⟩
    · intro entry member
      exact sound.shows entry (List.mem_of_mem_eraseIdx member)
    · intro user succeeds other member
      have visible := sound.visible user succeeds
      rcases List.mem_append.mp member with seen | free
      · obtain ⟨entry, left, rfl⟩ := List.mem_map.mp seen
        exact visible _ (List.mem_append_left _
          (List.mem_map_of_mem (List.mem_of_mem_eraseIdx left)))
      · rcases List.mem_cons.mp free with rfl | waiting
        · exact visible _ (List.mem_append_left _
            (List.mem_map_of_mem (f := Prod.snd) (List.mem_of_getElem? there)))
        · exact visible other (List.mem_append_right _ waiting)
  · exact sound

theorem step_sound (event : TableEvent) (table : LeaderboardTable)
    (sound : table.Sound world localDocument) :
    ∃ next, table.step event = .ok next ∧ next.Sound world localDocument := by
  cases event with
  | worldCompletes => exact world_sound sound
  | localCompletes => exact local_sound sound
  | tapSegment index => exact ⟨_, rfl, tap_sound sound index⟩
  | willDisplay path reused => exact display_sound sound path reused
  | endDisplay position => exact ⟨_, rfl, end_display_sound sound position⟩

theorem load_sound (signedIn : Bool) : (load signedIn world localDocument).Sound world
    localDocument where
  loaded := by
    have empty (segment : Nat) (index : Fin 2) : lists {} segment index = [] := by
      match segment with
      | 0 | 1 | 2 | _ + 3 => rfl
    refine ⟨(by decide : 0 < 3), fun result waits => ?_, fun result waits => ?_,
      fun segment index => ?_, Nat.zero_le _, fun failed => by cases failed⟩
    · exact ⟨(Option.some.inj waits).symm, rfl, fun segment => empty segment 1⟩
    · exact ⟨waits, fun segment => empty segment 0⟩
    · exact empty segment index ▸ List.nil_prefix
  rows := rfl
  shows _ member := by cases member
  visible _ _ _ member := by cases member

end Run

theorem step_signed_in (table next : LeaderboardTable) (event : TableEvent)
    (ran : table.step event = .ok next) : next.signedIn = table.signedIn := by
  cases event with
  | tapSegment index => exact Except.ok.inj ran ▸ rfl
  | endDisplay position =>
      rw [← Except.ok.inj ran, endDisplay]
      split <;> rfl
  | worldCompletes =>
      simp only [step, worldCompletes] at ran
      split at ran
      · obtain ⟨controller, -, ran⟩ := (run_bind_iff _ _ _).mp ran
        exact Except.ok.inj ran ▸ rfl
      · exact Except.ok.inj ran ▸ rfl
  | localCompletes =>
      simp only [step, localCompletes] at ran
      split at ran
      · exact Except.ok.inj ran ▸ rfl
      · obtain ⟨controller, -, ran⟩ := (run_bind_iff _ _ _).mp ran
        exact Except.ok.inj ran ▸ rfl
      · exact Except.ok.inj ran ▸ rfl
  | willDisplay path reused =>
      simp only [step, willDisplay] at ran
      split at ran
      · obtain ⟨cell, -, ran⟩ := (run_bind_iff _ _ _).mp ran
        exact Except.ok.inj ran ▸ rfl
      · exact Except.ok.inj ran ▸ rfl

/-- In every order of loads, taps and scrolling no cell is asked for a score that is
    not there; every row in view shows its notice or the score of its place in the
    ranking of its section; and for a signed-in user whose query does not fail no time
    is hidden. -/
theorem table_shows (signedIn : Bool) (world : Option (List Document))
    (localDocument : Option (Option (Option Document))) (events : List TableEvent) :
    ∃ table, events.foldlM step (load signedIn world localDocument) = .ok table ∧
      ∀ path cell, (path, cell) ∈ table.shown →
        table.Shows (ranking world localDocument) path cell ∧
        (signedIn = true → world ≠ none → cell.detailHidden = false) := by
  obtain ⟨table, ran, sound⟩ := loop_keeps step (Sound world localDocument) events
    (fun event _ table sound => step_sound event table sound) _ (load_sound signedIn)
  have user : table.signedIn = signedIn :=
    Loops.listed_keeps step (fun table => table.signedIn = signedIn) events
      (fun event _ table next same went => (step_signed_in table next event went).trans same)
      (load signedIn world localDocument) table rfl ran
  refine ⟨table, ran, fun path cell seen => ⟨sound.shows _ seen, fun chosen succeeds => ?_⟩⟩
  exact sound.visible (user.trans chosen) succeeds cell
    (List.mem_append_left _ (List.mem_map_of_mem (f := Prod.snd) seen))

/-- Who is not signed in sees the notice; its cell is handed out again for the first
    time of all users, and hides it. -/
example : (([.willDisplay (0, 0) none, .worldCompletes, .willDisplay (1, 0) (some 0)].foldlM
    step (load false (some [Document.empty.set "easyTime" (.numbers [7])]) none)).toOption.map
      fun table => table.shown.map Prod.snd) = some [⟨"1: Anon", "7s", true⟩] := by
  decide +kernel

end LeaderboardTable
end RelicRace
