import Mathlib.Data.Int.Order.Basic
import Mathlib.Logic.Function.Basic
import RelicRace.Library.TopList
import RelicRace.Account.Document
import RelicRace.Maze.Basic

/-!
`LeaderboardViewController`: the two loads of `viewDidLoad`. Each list has a
local section, 0, and a world wide section, 1; the query over all users fills
the second, the document of the user the first. Both closures gather, sort and
crop, one section of one list after another.
-/

namespace RelicRace
open Library

/-- One row of the table. -/
structure Score where
  name : String
  time : Int
  deriving DecidableEq

/-- The scores of the two sections. -/
abbrev Sections := Fin 2 → List Score

structure LeaderboardViewController where
  allUsers : List Document := []
  failedLoad : Bool := false
  allEasyTime : Sections := fun _ => []
  allHardTime : Sections := fun _ => []
  allImpossibleTime : Sections := fun _ => []

/-- How one of the two loads ends. A load that fails has no result; the local
    document may be missing. -/
inductive Completion where
  | world (documents : Option (List Document))
  | localDocument (document : Option (Option Document))

namespace LeaderboardViewController

def LIMIT : Nat := 10

/-- The scores that a document holds in a field. -/
def scores (document : Document) (field : String) : List Score :=
  (document.ints field).map fun time => ⟨document.text "name" "Anon", time⟩

/-- `lists[index] += scores`. -/
def add (lists : Sections) (index : Fin 2) (scores : List Score) : Sections :=
  Function.update lists index (lists index ++ scores)

/-- `lists[index].sort(by: { $0.time < $1.time })`. -/
def sort (lists : Sections) (index : Fin 2) : Sections :=
  Function.update lists index (TopList.sortBy Score.time (lists index))

/-- `Array(scores[0..<LIMIT])`. -/
def firstScores (scores : List Score) : Except Fault (List Score) :=
  if scores.length < LIMIT then .error .indexOutOfRange else .ok (scores.take LIMIT)

/-- `if lists[tested].count > LIMIT { lists[index] = Array(lists[index][0..<LIMIT]) }`. -/
def crop (lists : Sections) (tested index : Fin 2) : Except Fault Sections :=
  if (lists tested).length > LIMIT then do
    let top ← firstScores (lists index)
    return Function.update lists index top
  else return lists

/-- One document in a section of the three lists. -/
def gather (index : Fin 2) (controller : LeaderboardViewController) (document : Document) :
    LeaderboardViewController :=
  { controller with
    allEasyTime := add controller.allEasyTime index (scores document "easyTime")
    allHardTime := add controller.allHardTime index (scores document "hardTime")
    allImpossibleTime := add controller.allImpossibleTime index (scores document "impossibleTime") }

def sortAll (index : Fin 2) (controller : LeaderboardViewController) :
    LeaderboardViewController :=
  { controller with
    allEasyTime := sort controller.allEasyTime index
    allHardTime := sort controller.allHardTime index
    allImpossibleTime := sort controller.allImpossibleTime index }

/-- The closure of the query over all users. -/
def worldLoaded (documents : Option (List Document)) (controller : LeaderboardViewController) :
    Except Fault LeaderboardViewController :=
  match documents with
  | none => .ok { controller with failedLoad := true }
  | some documents => do
      let controller := { controller with allUsers := controller.allUsers ++ documents }
      let controller := controller.allUsers.foldl (gather 1) controller
      let controller := controller.sortAll 1
      let allEasyTime ← crop controller.allEasyTime 1 1
      let allHardTime ← crop controller.allHardTime 1 1
      let allImpossibleTime ← crop controller.allImpossibleTime 1 1
      return { controller with allEasyTime, allHardTime, allImpossibleTime }

/-- The closure of the local document. The hard times are cropped by the count
    of the world wide ones. -/
def localLoaded (document : Option (Option Document)) (controller : LeaderboardViewController) :
    Except Fault LeaderboardViewController :=
  match document with
  | none => .ok controller
  | some document => do
      let controller := document.toList.foldl (gather 0) controller
      let controller := controller.sortAll 0
      let allEasyTime ← crop controller.allEasyTime 0 0
      let allHardTime ← crop controller.allHardTime 1 0
      let allImpossibleTime ← crop controller.allImpossibleTime 0 0
      return { controller with allEasyTime, allHardTime, allImpossibleTime }

def complete (controller : LeaderboardViewController) :
    Completion → Except Fault LeaderboardViewController
  | .world documents => controller.worldLoaded documents
  | .localDocument document => controller.localLoaded document

/-- Both loads succeed, in one order or the other. -/
def loads (users : List Document) (document : Document) (worldFirst : Bool) : List Completion :=
  if worldFirst then [.world (some users), .localDocument (some (some document))]
  else [.localDocument (some (some document)), .world (some users)]

def loaded (users : List Document) (document : Document) (worldFirst : Bool) :
    Except Fault LeaderboardViewController :=
  (loads users document worldFirst).foldlM complete {}

/-- Both sections of one list: the first of the user's own times and the first
    of all users' times. -/
def TopSections (users : List Document) (document : Document) (field : String)
    (lists : Sections) : Prop :=
  TopList.IsTop LIMIT (document.ints field) ((lists 0).map Score.time) ∧
    TopList.IsTop LIMIT (users.flatMap fun user => user.ints field) ((lists 1).map Score.time)

def ShowsTopTimes (users : List Document) (document : Document)
    (controller : LeaderboardViewController) : Prop :=
  TopSections users document "easyTime" controller.allEasyTime ∧
    TopSections users document "hardTime" controller.allHardTime ∧
      TopSections users document "impossibleTime" controller.allImpossibleTime

/-! ### One section of one list -/

section Lists
variable (lists : Sections) (index : Fin 2)

theorem add_nil : add lists index [] = lists := by
  rw [add, List.append_nil, Function.update_eq_self]

theorem add_add (first second : List Score) :
    add (add lists index first) index second = add lists index (first ++ second) := by
  rw [add, add, add, Function.update_self, Function.update_idem, List.append_assoc]

/-- A section cropped by its own count keeps the first scores. -/
theorem crop_own : crop lists index index =
    .ok (Function.update lists index ((lists index).take LIMIT)) := by
  rw [crop]
  by_cases long : (lists index).length > LIMIT
  · rw [if_pos long, firstScores, if_neg (by omega), run_ok, run_pure]
  · rw [if_neg long, run_pure, List.take_of_length_le (by omega), Function.update_eq_self]

/-- By the count of a section that is within the limit nothing is cropped. -/
theorem crop_short (tested : Fin 2) (short : (lists tested).length ≤ LIMIT) :
    crop lists tested index = .ok lists := by
  rw [crop, if_neg (by omega), run_pure]

end Lists

/-! ### The two closures -/

/-- All scores of some documents in a field, in the order of the loops. -/
def allScores (documents : List Document) (field : String) : List Score :=
  documents.flatMap fun document => scores document field

theorem all_scores_times (documents : List Document) (field : String) :
    (allScores documents field).map Score.time =
      documents.flatMap fun document => document.ints field := by
  rw [allScores, List.map_flatMap]
  refine congrArg (documents.flatMap ·) (funext fun document => ?_)
  rw [scores, List.map_map]
  exact List.map_id _

theorem gather_all (index : Fin 2) (documents : List Document)
    (controller : LeaderboardViewController) :
    documents.foldl (gather index) controller =
      { controller with
        allEasyTime := add controller.allEasyTime index (allScores documents "easyTime")
        allHardTime := add controller.allHardTime index (allScores documents "hardTime")
        allImpossibleTime :=
          add controller.allImpossibleTime index (allScores documents "impossibleTime") } := by
  induction documents generalizing controller with
  | nil => simp only [List.foldl_nil, allScores, List.flatMap_nil, add_nil]
  | cons document rest ih =>
      rw [List.foldl_cons, ih]
      simp only [gather, add_add, allScores, List.flatMap_cons]

/-- The first scores of some documents, in ascending order. -/
def topScores (documents : List Document) (field : String) : List Score :=
  (TopList.sortBy Score.time (allScores documents field)).take LIMIT

theorem top_scores_top (documents : List Document) (field : String) :
    TopList.IsTop LIMIT (documents.flatMap fun document => document.ints field)
      ((topScores documents field).map Score.time) := by
  rw [← all_scores_times]
  exact TopList.sorted_crop_top Score.time LIMIT (allScores documents field)

/-- The world wide sections hold the first times of all users. -/
theorem world_loaded_eq (users : List Document) (controller : LeaderboardViewController)
    (fresh : controller.allUsers = []) (easy : controller.allEasyTime 1 = [])
    (hard : controller.allHardTime 1 = []) (impossible : controller.allImpossibleTime 1 = []) :
    controller.worldLoaded (some users) = .ok { controller with
      allUsers := users
      allEasyTime := Function.update controller.allEasyTime 1 (topScores users "easyTime")
      allHardTime := Function.update controller.allHardTime 1 (topScores users "hardTime")
      allImpossibleTime :=
        Function.update controller.allImpossibleTime 1 (topScores users "impossibleTime") } := by
  simp only [worldLoaded, fresh, List.nil_append, gather_all, sortAll, crop_own, run_ok, run_pure,
    sort, add, Function.update_self, Function.update_idem, easy, hard, impossible, topScores]

/-- The local sections hold the first times of the user, but all hard ones. -/
theorem local_loaded_eq (document : Document) (controller : LeaderboardViewController)
    (easy : controller.allEasyTime 0 = []) (hard : controller.allHardTime 0 = [])
    (impossible : controller.allImpossibleTime 0 = [])
    (short : (controller.allHardTime 1).length ≤ LIMIT) :
    controller.localLoaded (some (some document)) = .ok { controller with
      allEasyTime := Function.update controller.allEasyTime 0 (topScores [document] "easyTime")
      allHardTime := Function.update controller.allHardTime 0
        (TopList.sortBy Score.time (allScores [document] "hardTime"))
      allImpossibleTime := Function.update controller.allImpossibleTime 0
        (topScores [document] "impossibleTime") } := by
  have tested : ((sort (add controller.allHardTime 0 (allScores [document] "hardTime")) 0)
      1).length ≤ LIMIT := by
    rw [sort, add, Function.update_of_ne (by decide), Function.update_of_ne (by decide)]
    exact short
  simp only [localLoaded, Option.toList_some, gather_all, sortAll, crop_own,
    crop_short _ 0 1 tested, run_ok, run_pure]
  simp only [sort, add, Function.update_self, Function.update_idem, easy, hard, impossible,
    List.nil_append, topScores]

/-! ### Both loads -/

/-- The two sections of a list. -/
def sections (here there : List Score) : Sections :=
  Function.update (Function.update (fun _ => []) 0 here) 1 there

theorem sections_swapped (here there : List Score) :
    Function.update (Function.update (fun _ => []) 1 there) 0 here = sections here there :=
  Function.update_comm (by decide) _ _ _

/-- What the table shows after both loads, in whichever order. -/
theorem loaded_eq (users : List Document) (document : Document) (worldFirst : Bool) :
    loaded users document worldFirst = .ok {
      allUsers := users
      allEasyTime := sections (topScores [document] "easyTime") (topScores users "easyTime")
      allHardTime := sections (TopList.sortBy Score.time (allScores [document] "hardTime"))
        (topScores users "hardTime")
      allImpossibleTime :=
        sections (topScores [document] "impossibleTime") (topScores users "impossibleTime") } := by
  cases worldFirst with
  | true =>
      rw [loaded, loads, if_pos rfl, List.foldlM_cons, complete,
        world_loaded_eq users {} rfl rfl rfl rfl, run_ok, List.foldlM_cons, complete,
        local_loaded_eq document]
      · simp only [run_ok, List.foldlM_nil, run_pure, sections_swapped]
      · rfl
      · rfl
      · rfl
      · simp only [Function.update_self, topScores]
        exact List.length_take_le LIMIT _
  | false =>
      rw [loaded, loads, if_neg Bool.false_ne_true, List.foldlM_cons, complete,
        local_loaded_eq document {} rfl rfl rfl (Nat.zero_le _), run_ok, List.foldlM_cons, complete,
        world_loaded_eq users]
      · rfl
      · rfl
      · rfl
      · rfl
      · rfl

section Sections
variable (users : List Document) (document : Document) (field : String)

theorem all_scores_one : (allScores [document] field).map Score.time = document.ints field := by
  rw [all_scores_times, List.flatMap_singleton]

theorem cropped_sections_top : TopSections users document field
    (sections (topScores [document] field) (topScores users field)) := by
  have here := top_scores_top [document] field
  rw [List.flatMap_singleton] at here
  exact ⟨here, top_scores_top users field⟩

/-- A local section that is sorted and not cropped. -/
theorem uncropped_sections_top_iff : TopSections users document field
    (sections (TopList.sortBy Score.time (allScores [document] field)) (topScores users field)) ↔
      (document.ints field).length ≤ LIMIT := by
  have few := TopList.sorted_top_iff Score.time LIMIT (allScores [document] field)
  rw [← List.length_map (f := Score.time), all_scores_one] at few
  exact ⟨fun top => few.mp top.1, fun short => ⟨few.mpr short, top_scores_top users field⟩⟩

end Sections

/-- After both loads, in whichever order, the six lists are the true top ten
    exactly when the user has at most ten hard times. -/
theorem shows_top_times_iff (users : List Document) (document : Document) (worldFirst : Bool) :
    ∃ controller, loaded users document worldFirst = .ok controller ∧
      (controller.ShowsTopTimes users document ↔ (document.ints "hardTime").length ≤ LIMIT) := by
  refine ⟨_, loaded_eq users document worldFirst, ?_⟩
  constructor
  · rintro ⟨-, hard, -⟩
    exact (uncropped_sections_top_iff users document "hardTime").mp hard
  · intro short
    exact ⟨cropped_sections_top users document "easyTime",
      (uncropped_sections_top_iff users document "hardTime").mpr short,
      cropped_sections_top users document "impossibleTime"⟩

/-- Eleven hard times of one second each. -/
def elevenTimes : Document :=
  Document.empty.set "hardTime" (.numbers (List.replicate (LIMIT + 1) 1))

theorem hard_times_not_cropped : ¬ ∀ (users : List Document) (document : Document)
    (worldFirst : Bool), ∃ controller, loaded users document worldFirst = .ok controller ∧
      controller.ShowsTopTimes users document := by
  intro always
  obtain ⟨controller, ran, -, hard, -⟩ := always [elevenTimes] elevenTimes true
  obtain rfl := Except.ok.inj (ran.symm.trans (loaded_eq [elevenTimes] elevenTimes true))
  have short := (uncropped_sections_top_iff [elevenTimes] elevenTimes "hardTime").mp hard
  exact absurd short (by decide)

end LeaderboardViewController
end RelicRace
