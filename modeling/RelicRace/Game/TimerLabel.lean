import RelicRace.Game.RecordedTimes
import RelicRace.Library.Clockface

/-!
The texts that tell the time in the single-player scene: `timerLabel`, which the block
of a timer writes, and `timeDisplayLabel`, for which `roundWinDisplay` copies it. The
display comes from a block that runs later than the win it belongs to.
-/

namespace RelicRace
open Library Clockface

/-- `DateComponentsFormatter` with hours, minutes and seconds in the positional style. -/
def positionalString (seconds : Nat) : String :=
  String.ofList (write ':' (dropLeading (fields 60 2 seconds)))

/-- `time` is never negative. -/
def formattedTime (time : Nat) : String :=
  let formattedString := positionalString time
  if time < 60 then
    let formattedString := if time < 10 then "0" ++ formattedString else formattedString
    "0:" ++ formattedString
  else formattedString

/-- What the block of a timer writes. -/
def timerText (time : Nat) : String := "Time Spent: " ++ formattedTime time

/-- The seconds that a label tells. -/
def readTime (label : String) : Nat := read 60 ':' label.toList

/-- The scene with the labels of its `InfoDisplay` that tell a time. The blocks for
    `roundWinDisplay` wait until the main queue runs them. -/
structure LabelledScene where
  timed : TimedScene
  timerLabel : String := "0:00"
  timeDisplayLabel : Option String := none
  waiting : Nat := 0
  displaysRun : Nat := 0

inductive LabelEvent where
  | record (event : RecordEvent)
  | runRoundWinDisplay

def Call.isRoundWin : Call → Bool
  | .roundWinDisplay _ => true
  | _ => false

/-- The blocks for `roundWinDisplay` that the scene has queued so far. -/
def GameScene.roundWins (scene : GameScene) : Nat := scene.trace.countP Call.isRoundWin

namespace LabelledScene

/-- The label changes when a scheduled timer fires. -/
def relabel (scene : LabelledScene) : RecordEvent → String
  | .clock .second =>
      if scene.timed.clock.runLoop.scheduled = [] then scene.timerLabel
      else timerText scene.timed.clock.second.game.time.toNat
  | _ => scene.timerLabel

def roundWinDisplay (scene : LabelledScene) : LabelledScene :=
  { scene with
    timeDisplayLabel := some scene.timerLabel
    waiting := scene.waiting - 1
    displaysRun := scene.displaysRun + 1 }

def step (scene : LabelledScene) : LabelEvent → LabelledScene
  | .record event =>
      let timed := scene.timed.step event
      { scene with
        timed
        timerLabel := scene.relabel event
        waiting := scene.waiting + (timed.clock.game.scene.roundWins -
          scene.timed.clock.game.scene.roundWins) }
  | .runRoundWinDisplay => if scene.waiting = 0 then scene else scene.roundWinDisplay

def Guard (scene : LabelledScene) : LabelEvent → Prop
  | .record event => scene.timed.Guard event
  | .runRoundWinDisplay => True

/-- `sceneDidLoad`, with what `setUpTimerLabel` writes. -/
def start (signedIn : Bool) (difficulty : Difficulty) (trophy : MapPlace)
    (monsters : List String) : LabelledScene :=
  { timed := TimedScene.start signedIn difficulty trophy monsters }

end LabelledScene

/-! ### The texts read back -/

theorem positional_reads (seconds : Nat) :
    read 60 ':' (positionalString seconds).toList = seconds := by
  have short : ∀ field ∈ (dropLeading (fields 60 2 seconds)).tail, field < 100 := by
    intro field member
    have below : field < 60 :=
      fields_below (by decide) 2 seconds field (drop_leading_tail _ member)
    omega
  rw [positionalString, String.toList_ofList, read_write (by decide) _ short, drop_leading_value,
    value_fields]

/-- Zeros in front, and fields of zeros, add nothing. -/
theorem formatted_reads (time : Nat) : readTime (formattedTime time) = time := by
  have zero (text : List Char) : read 60 ':' ('0' :: text) = read 60 ':' text := rfl
  have minutes (text : List Char) : read 60 ':' ('0' :: ':' :: text) = read 60 ':' text := rfl
  have read := positional_reads time
  simp only [readTime, formattedTime]
  split
  · rw [String.toList_append]
    split
    · rw [String.toList_append]
      exact (minutes _).trans ((zero _).trans read)
    · exact (minutes _).trans read
  · exact read

example : [7, 65, 3605].map formattedTime = ["0:07", "1:05", "1:00:05"] := by decide +kernel

theorem timer_text_reads (time : Nat) : readTime (timerText time) = time := by
  have text : (timerText time).toList =
      "Time Spent:".toList ++ ' ' :: (formattedTime time).toList := by
    rw [timerText, String.toList_append]
    rfl
  rw [readTime, text, read_after _ _ _ (by decide) (by decide)]
  exact formatted_reads time

/-! ### What the events do to the time and to the rounds -/

/-- Only the timers change the time. -/
theorem ClockScene.step_time (clock : ClockScene) (event : ClockEvent) (still : event ≠ .second) :
    (clock.step event).game.time = clock.game.time := by
  cases event with
  | second => exact absurd rfl still
  | update playerDraw opponentDraw =>
      rw [ClockScene.step]
      split
      · rfl
      · rw [ClockScene.update_game]
        exact (AIGameScene.update_times playerDraw opponentDraw clock.game).1
  | tapPause =>
      rw [ClockScene.step]
      split
      · rw [ClockScene.tapPause]
        split <;> rfl
      · rfl
  | enterBackground =>
      rw [ClockScene.step, ClockScene.enterBackground]
      split <;> rfl
  | becomeActive =>
      rw [ClockScene.step, ClockScene.becomeActive]
      split <;> rfl
  | physics playerAt opponentAt contacts =>
      rw [ClockScene.step]
      split <;> rfl
  | tapTryAgain draw =>
      rw [ClockScene.step]
      split <;> rfl
  | showDied =>
      rw [ClockScene.step]
      split <;> rfl
  | adLoads => rfl
  | adCloses => rfl

/-- Nothing but Try Again starts a round. -/
theorem ClockScene.step_over (clock : ClockScene) (event : ClockEvent)
    (other : ∀ draw, event ≠ .tapTryAgain draw)
    (finished : isOver clock.game.scene.trace = true) :
    isOver (clock.step event).game.scene.trace = true := by
  cases event with
  | tapTryAgain draw => exact absurd rfl (other draw)
  | update playerDraw opponentDraw =>
      rw [ClockScene.step]
      split
      · exact finished
      · rw [ClockScene.update_game]
        exact AIGameScene.update_over playerDraw opponentDraw clock.game (Or.inl finished)
  | physics playerAt opponentAt contacts =>
      rw [ClockScene.step]
      split
      · exact finished
      · exact (physics_same playerAt opponentAt contacts _).isOver.trans finished
  | tapPause =>
      rw [ClockScene.step]
      split
      · rw [ClockScene.tapPause]
        split <;> exact finished
      · exact finished
  | enterBackground =>
      rw [ClockScene.step, ClockScene.enterBackground]
      split <;> exact finished
  | becomeActive =>
      rw [ClockScene.step, ClockScene.becomeActive]
      split <;> exact finished
  | showDied =>
      rw [ClockScene.step]
      split <;> exact finished
  | second => exact finished
  | adLoads => exact finished
  | adCloses => exact finished

namespace GameScene

/-! The blocks that a frame queues. -/

theorem trophy_round_wins (tile : MapPlace) (scene : GameScene) :
    (scene.playerToTrophyResponse tile).roundWins = scene.roundWins ∧
      (scene.opponentToTrophyResponse tile).roundWins = scene.roundWins := by
  rw [player_response_eq, opponent_response_eq]
  simp only [roundWins, placementCalls]
  split <;> exact ⟨rfl, rfl⟩

theorem lose_life_round_wins (scene : GameScene) : scene.loseLife.roundWins = scene.roundWins := by
  rw [roundWins, lose_life_trace]
  rfl

/-- The end of a round by one of the two actors. -/
theorem end_round_wins (scene : GameScene) (handler : Call) (winner : String)
    (other : handler.isRoundWin = false) :
    ((scene.call handler).endGame.call (.roundWinDisplay winner)).roundWins =
      scene.roundWins + 1 := by
  change List.countP Call.isRoundWin
    (.roundWinDisplay winner :: .endGame :: handler :: scene.trace) = _
  rw [List.countP_cons_of_pos rfl, List.countP_cons_of_neg Bool.false_ne_true,
    List.countP_cons_of_neg (by rw [other]; exact Bool.false_ne_true), roundWins]

theorem opponent_check_round_wins (tile : MapPlace) (scene : GameScene) :
    scene.roundWins ≤ (methods.checkOpponentFlag tile scene).roundWins := by
  rw [opponent_check_eq, checkOpponentWin]
  have scored := (trophy_round_wins tile scene).2
  split
  · split
    · rw [end_round_wins _ _ _ rfl, scored]
      exact Nat.le_succ _
    · exact scored.ge
  · exact Nat.le_refl _

theorem monster_check_round_wins (scene : GameScene) :
    (methods.checkMonsterFlag scene).roundWins = scene.roundWins := by
  rw [monster_check_eq]
  have hurt := scene.lose_life_round_wins
  split
  · split
    · exact hurt
    · exact hurt
  · rfl

/-- The frame in which the player wins queues a block. -/
theorem update_round_wins (playerDraw opponentDraw : MapPlace) (scene : GameScene)
    (touched : scene.player1CollisionFlag = true) (four : scene.player_Score = 4) :
    scene.roundWins < (methods.update playerDraw opponentDraw scene).roundWins := by
  have won : (methods.checkPlayerFlag playerDraw scene).roundWins = scene.roundWins + 1 := by
    rw [player_check_eq, if_pos touched, if_pos four, onPlayerWin, end_round_wins _ _ _ rfl,
      (trophy_round_wins playerDraw scene).1]
  have later := opponent_check_round_wins opponentDraw (methods.checkPlayerFlag playerDraw scene)
  rw [Methods.update, monster_check_round_wins]
  omega

end GameScene

namespace LabelledScene

/-! ### The label of the timer -/

def Tells (scene : LabelledScene) : Prop :=
  scene.timed.clock.game.time = (readTime scene.timerLabel : Int)

theorem relabel_still (scene : LabelledScene) (event : RecordEvent)
    (still : event ≠ .clock .second) : scene.relabel event = scene.timerLabel := by
  rw [relabel]
  exact fun second => absurd second still

theorem second_tells (scene : LabelledScene) (tells : scene.Tells) :
    (scene.step (.record (.clock .second))).Tells := by
  change scene.timed.clock.second.game.time = (readTime (scene.relabel (.clock .second)) : Int)
  rw [relabel]
  split
  · rename_i idle
    rw [ClockScene.second, idle]
    exact (add_zero _).trans tells
  · have later : 0 ≤ scene.timed.clock.second.game.time := by
      rw [ClockScene.second]
      exact add_nonneg (tells ▸ Int.natCast_nonneg _) (Int.natCast_nonneg _)
    rw [timer_text_reads, Int.toNat_of_nonneg later]

theorem step_tells (scene : LabelledScene) (event : LabelEvent) (tells : scene.Tells) :
    (scene.step event).Tells := by
  cases event with
  | runRoundWinDisplay =>
      rw [step]
      split <;> exact tells
  | record event =>
      by_cases second : event = .clock .second
      · exact second ▸ second_tells scene tells
      · have label := scene.relabel_still event second
        have time : (scene.timed.step event).clock.game.time = scene.timed.clock.game.time := by
          cases event with
          | load document => rfl
          | clock event => exact scene.timed.clock.step_time event fun same => second (same ▸ rfl)
        change (scene.timed.step event).clock.game.time = (readTime (scene.relabel event) : Int)
        rw [time, label]
        exact tells

theorem start_tells (signedIn : Bool) (difficulty : Difficulty) (trophy : MapPlace)
    (monsters : List String) : (start signedIn difficulty trophy monsters).Tells := by
  change (0 : Int) = (readTime "0:00" : Int)
  decide

/-! ### From a win to the next round -/

/-- What holds from a win on until Try Again: the timers stand still, so every display
    that runs copies the label of the win. -/
structure Since (won scene : LabelledScene) : Prop where
  recorded : scene.timed.Recorded
  finished : isOver scene.timed.clock.game.scene.trace = true
  label : scene.timerLabel = won.timerLabel
  ran : won.displaysRun ≤ scene.displaysRun
  shown : scene.timeDisplayLabel =
    if scene.displaysRun = won.displaysRun then won.timeDisplayLabel else some won.timerLabel

theorem step_since {won scene : LabelledScene} (since : Since won scene) (event : LabelEvent)
    (other : ∀ draw, event ≠ .record (.clock (.tapTryAgain draw))) (met : scene.Guard event) :
    Since won (scene.step event) := by
  cases event with
  | runRoundWinDisplay =>
      rw [step]
      split
      · exact since
      · refine ⟨since.recorded, since.finished, since.label, Nat.le_succ_of_le since.ran, ?_⟩
        rw [roundWinDisplay, since.label, if_neg]
        exact (Nat.lt_succ_of_le since.ran).ne'
  | record event =>
      refine ⟨TimedScene.step_recorded _ event since.recorded met, ?_, ?_, since.ran, since.shown⟩
      · cases event with
        | load document => exact since.finished
        | clock event =>
            exact scene.timed.clock.step_over event
              (fun draw same => other draw (same ▸ rfl)) since.finished
      · by_cases second : event = .clock .second
        · have still : ¬ scene.timed.clock.Live := by
            rintro ⟨running, -⟩
            rw [since.finished] at running
            cases running
          have idle : scene.timed.clock.runLoop.scheduled = [] := by
            rw [since.recorded.ticking.timers, if_neg still]
          rw [second, step, relabel, if_pos idle]
          exact since.label
        · exact (scene.relabel_still event second).trans since.label

theorem run_since {won : LabelledScene} (events : List LabelEvent)
    (others : ∀ draw, .record (.clock (.tapTryAgain draw)) ∉ events) (scene : LabelledScene)
    (since : Since won scene) (met : Runs.Meets step Guard scene events) :
    Since won (Runs.run step scene events) := by
  induction events generalizing scene with
  | nil => exact since
  | cons event rest ih =>
      refine ih (fun draw member => others draw (List.mem_cons_of_mem event member)) _ ?_ met.2
      exact step_since since event
        (fun draw same => others draw (same ▸ List.mem_cons_self)) met.1

/-- A run under the guard is one of the scene without the labels. -/
theorem run_recorded (events : List LabelEvent) (scene : LabelledScene)
    (recorded : scene.timed.Recorded) (met : Runs.Meets step Guard scene events) :
    (Runs.run step scene events).timed.Recorded := by
  refine Runs.meets_keeps step Guard (fun scene => scene.timed.Recorded) ?_ events scene recorded
    met
  intro scene event recorded met
  cases event with
  | record event => exact TimedScene.step_recorded _ event recorded met
  | runRoundWinDisplay =>
      rw [step]
      split <;> exact recorded

/-- In every state of every run the timer's label tells the time of the scene. After a
    win of the player in a run with one clock the label tells the time that was recorded,
    and every round-win display shows it, until Try Again is tapped. -/
theorem times_shown (signedIn : Bool) (difficulty : Difficulty) (trophy : MapPlace)
    (monsters : List String) :
    (∀ events, (Runs.run step (start signedIn difficulty trophy monsters) events).Tells) ∧
    ∀ before playerDraw opponentDraw after,
      let winning := Runs.run step (start signedIn difficulty trophy monsters) before
      let win := LabelEvent.record (.clock (.update playerDraw opponentDraw))
      let won := winning.step win
      let shown := Runs.run step won after
      Runs.Meets step Guard (start signedIn difficulty trophy monsters) (before ++ win :: after) →
      winning.timed.clock.inBackground = false → winning.timed.clock.game.Wins →
      (∀ draw, .record (.clock (.tapTryAgain draw)) ∉ after) →
        (won.timed.clock.game.times winning.timed.clock.game.difficulty).getLast? =
            some (readTime shown.timerLabel : Int) ∧
          0 < won.waiting ∧
          shown.timeDisplayLabel = if shown.displaysRun = won.displaysRun then
            won.timeDisplayLabel else some shown.timerLabel := by
  have tells (events) : (Runs.run step (start signedIn difficulty trophy monsters) events).Tells :=
    Runs.run_keeps step Tells step_tells events _ (start_tells signedIn difficulty trophy monsters)
  refine ⟨tells, ?_⟩
  intro before playerDraw opponentDraw after winning win won shown met front wins others
  obtain ⟨first, now, later⟩ := (Runs.meets_append step Guard before (win :: after) _).mp met
  have recorded := run_recorded before _
    (TimedScene.start_recorded signedIn difficulty trophy monsters) first
  have game : won.timed.clock.game =
      AIGameScene.methods.update playerDraw opponentDraw winning.timed.clock.game := by
    have foreground : winning.timed.clock.step (.update playerDraw opponentDraw) =
        ClockScene.methods.update playerDraw opponentDraw winning.timed.clock := by
      rw [ClockScene.step, if_neg (by simp [front])]
    exact (congrArg ClockScene.game foreground).trans
      (ClockScene.update_game playerDraw opponentDraw winning.timed.clock)
  obtain ⟨time, times⟩ :=
    AIGameScene.update_times playerDraw opponentDraw winning.timed.clock.game
  have since : Since won won := by
    refine ⟨TimedScene.step_recorded _ (.clock (.update playerDraw opponentDraw)) recorded now, ?_,
      rfl, Nat.le_refl _, (if_pos rfl).symm⟩
    rw [game]
    exact AIGameScene.update_over playerDraw opponentDraw _ (Or.inr wins)
  have ended := run_since after others won since later
  have queued := GameScene.update_round_wins playerDraw opponentDraw
    winning.timed.clock.game.scene wins.1 wins.2
  refine ⟨?_, ?_, ?_⟩
  · have told : winning.timed.clock.game.time = (readTime shown.timerLabel : Int) :=
      (tells before).trans (congrArg (fun label => (readTime label : Int)) ended.label.symm)
    rw [game, times, if_pos ⟨wins, rfl⟩, List.getLast?_concat, told]
  · have grown : winning.timed.clock.game.scene.roundWins <
        won.timed.clock.game.scene.roundWins := by
      rw [game, AIGameScene.update_scene]
      exact queued
    exact Nat.lt_of_lt_of_le (Nat.sub_pos_of_lt grown) (Nat.le_add_left _ _)
  · rw [ended.shown, ended.label]

instance (scene : LabelledScene) : (event : LabelEvent) → Decidable (scene.Guard event)
  | .record event => inferInstanceAs (Decidable (scene.timed.Guard event))
  | .runRoundWinDisplay => inferInstanceAs (Decidable True)

/-- A second, four trophies and the touch of a fifth. -/
def fourTrophies : List LabelEvent :=
  ([[.second],
    (List.replicate 4 [.physics playerTile opponentTile [⟨"player1", "trophy"⟩],
      .update opponentTile opponentTile]).flatten,
    [.physics playerTile opponentTile [⟨"player1", "trophy"⟩]]] :
      List (List ClockEvent)).flatten.map fun event => .record (.clock event)

theorem four_trophies_shown :
    let winning := Runs.run step (start true .Easy playerTile []) fourTrophies
    let won := winning.step (.record (.clock (.update playerTile playerTile)))
    let shown := Runs.run step won [.record (.clock .second), .runRoundWinDisplay]
    (won.timed.clock.game.times .Easy).getLast? = some (readTime shown.timerLabel : Int) ∧
      0 < won.waiting ∧
      shown.timeDisplayLabel = if shown.displaysRun = won.displaysRun then
        won.timeDisplayLabel else some shown.timerLabel :=
  (times_shown true .Easy playerTile []).2 fourTrophies playerTile playerTile
    [.record (.clock .second), .runRoundWinDisplay] (by decide) (by decide) (by decide) (by simp)

end LabelledScene
end RelicRace
