import RelicRace.Account.GameEvents
import RelicRace.Game.Clock
import RelicRace.Game.Display

/-!
The times that `saveTime` records. `time` is set once, when the scene is made, and
Try Again starts the timer but not the time: a round that is won is recorded with the
seconds of all rounds the scene has played. The stopwatch below counts the seconds of
a round and those before it apart.
-/

namespace RelicRace
open Library

/-- The field of the user's document that keeps the times of a difficulty. -/
def Difficulty.field : Difficulty → String
  | .Easy => "easyTime"
  | .Hard => "hardTime"
  | .Impossible => "impossibleTime"

def AIGameScene.times (game : AIGameScene) : Difficulty → List Int
  | .Easy => game.easyTime
  | .Hard => game.hardTime
  | .Impossible => game.impossibleTime

/-- The player collects the fifth trophy in the frame that starts here. -/
def AIGameScene.Wins (game : AIGameScene) : Prop :=
  game.scene.player1CollisionFlag = true ∧ game.scene.player_Score = 4

instance (game : AIGameScene) : Decidable game.Wins := inferInstanceAs (Decidable (_ ∧ _))

/-- An event of the scene, or the completion of `requestGameData`. -/
inductive RecordEvent where
  | clock (event : ClockEvent)
  | load (document : Document)

/-- What a list of times consists of: times of the document and won rounds, with the
    live seconds of the rounds before and of the round itself. -/
inductive TimeEntry where
  | stored (time : Int)
  | won (earlier own : Nat)
  deriving DecidableEq

namespace TimeEntry

def time : TimeEntry → Int
  | .stored time => time
  | .won earlier own => (earlier + own : Nat)

/-- Of two wins the later one counts the whole round of the first, unless both are
    wins of one round. -/
def Behind : TimeEntry → TimeEntry → Prop
  | .won earlier own, .won earlier' own' =>
      earlier + own ≤ earlier' ∨ (earlier = earlier' ∧ own = own')
  | _, _ => True

end TimeEntry

/-- What a clock that starts anew with each round would tell. -/
structure Stopwatch where
  earlier : Nat := 0
  own : Nat := 0
  entries : Difficulty → List TimeEntry := fun _ => []

namespace Stopwatch

def second (watch : Stopwatch) : Stopwatch := { watch with own := watch.own + 1 }

def startRound (watch : Stopwatch) : Stopwatch :=
  { watch with earlier := watch.earlier + watch.own, own := 0 }

def add (watch : Stopwatch) (entries : Difficulty → List TimeEntry) : Stopwatch :=
  { watch with entries := fun level => watch.entries level ++ entries level }

def win (difficulty : Difficulty) (watch : Stopwatch) : Stopwatch :=
  watch.add fun level => if level = difficulty then [.won watch.earlier watch.own] else []

def load (document : Document) (watch : Stopwatch) : Stopwatch :=
  watch.add fun level => (document.ints level.field).map .stored

/-- The stopwatch stands still while the game is paused, in the background or over. -/
def step (clock : ClockScene) (watch : Stopwatch) : RecordEvent → Stopwatch
  | .clock .second => if clock.Live then watch.second else watch
  | .clock (.tapTryAgain _) =>
      if clock.touchable && clock.tryAgainShown then watch.startRound else watch
  | .clock (.update _ _) =>
      if ¬ clock.inBackground ∧ clock.game.Wins then watch.win clock.game.difficulty else watch
  | .load document => watch.load document
  | _ => watch

end Stopwatch

/-- The scene and the stopwatch held next to it. -/
structure TimedScene where
  clock : ClockScene
  watch : Stopwatch := {}

namespace TimedScene

def step (timed : TimedScene) (event : RecordEvent) : TimedScene where
  clock := match event with
    | .clock event => timed.clock.step event
    | .load document => { timed.clock with game := timed.clock.game.loaded document }
  watch := timed.watch.step timed.clock event

def Guard (timed : TimedScene) : RecordEvent → Prop
  | .clock event => timed.clock.ClockGuard event
  | .load _ => True

end TimedScene

/-! ### What the frame records -/

namespace AIGameScene

theorem loaded_times (game : AIGameScene) (document : Document) (level : Difficulty) :
    (game.loaded document).times level = game.times level ++ document.ints level.field := by
  cases level <;> rfl

theorem append_time_times (game : AIGameScene) (level : Difficulty) :
    game.appendTime.times level =
      game.times level ++ if level = game.difficulty then [game.time] else [] := by
  rw [appendTime]
  cases chosen : game.difficulty <;> cases level <;> simp [times]

theorem append_time_time (game : AIGameScene) : game.appendTime.time = game.time := by
  rw [appendTime]
  cases game.difficulty <;> rfl

/-- The three fields of the cached data after `saveTime` are the three lists. -/
theorem append_time_cached (game : AIGameScene) (level : Difficulty) :
    game.appendTime.allUserData.ints level.field = game.appendTime.times level := by
  rw [appendTime]
  cases game.difficulty <;> cases level <;> rfl

theorem store_if_signed_in_times (game : AIGameScene) (level : Difficulty) :
    game.storeIfSignedIn.times level = game.times level ∧
      game.storeIfSignedIn.time = game.time := by
  rw [storeIfSignedIn]
  split <;> cases level <;> exact ⟨rfl, rfl⟩

/-- What a part of the frame leaves of the times. -/
def SameTimes (before after : AIGameScene) : Prop :=
  after.time = before.time ∧ ∀ level, after.times level = before.times level

theorem same_times {before after : AIGameScene} (time : after.time = before.time)
    (easy : after.easyTime = before.easyTime) (hard : after.hardTime = before.hardTime)
    (impossible : after.impossibleTime = before.impossibleTime) : SameTimes before after := by
  refine ⟨time, fun level => ?_⟩
  cases level with
  | Easy => exact easy
  | Hard => exact hard
  | Impossible => exact impossible

theorem store_same_times (game : AIGameScene) : SameTimes game game.storeIfSignedIn :=
  ⟨(store_if_signed_in_times game .Easy).2,
    fun level => (store_if_signed_in_times game level).1⟩

theorem SameTimes.trans {first second third : AIGameScene} (start : SameTimes first second)
    (next : SameTimes second third) : SameTimes first third :=
  ⟨next.1.trans start.1, fun level => (next.2 level).trans (start.2 level)⟩

/-- Every write of the frame comes with a scene that is changed elsewhere only. -/
theorem scene_same_times (game : AIGameScene) (scene : GameScene) :
    SameTimes game { game with scene } := same_times rfl rfl rfl rfl

theorem opponent_check_times (tile : MapPlace) (game : AIGameScene) :
    SameTimes game (methods.checkOpponentFlag tile game) := by
  change SameTimes game (if game.scene.opponentCollisionFlag then
    (game.opponentToTrophyResponse tile).checkOpponentWin else game)
  split
  · rw [checkOpponentWin]
    split
    · have stopped : SameTimes game (game.opponentToTrophyResponse tile).invalidateTimer :=
        same_times rfl rfl rfl rfl
      exact (stopped.trans (store_same_times _)).trans (scene_same_times _ _)
    · exact same_times rfl rfl rfl rfl
  · exact same_times rfl rfl rfl rfl

theorem monster_check_times (game : AIGameScene) :
    SameTimes game (methods.checkMonsterFlag game) := by
  change SameTimes game (if game.scene.monsterCollisionFlag ≠ -1 then
      if game.scene.loseLife.player_Health = 0 then
        onMonsterWin { game with scene := game.scene.loseLife }
      else { game with scene := game.scene.loseLife }
    else game)
  split
  · split
    · have stopped : SameTimes game
          (invalidateTimer { game with scene := game.scene.loseLife }) :=
        same_times rfl rfl rfl rfl
      exact (stopped.trans (store_same_times _)).trans (scene_same_times _ _)
    · exact scene_same_times _ _
  · exact same_times rfl rfl rfl rfl

/-- A win appends the time to the list of the difficulty and leaves it running on. -/
theorem win_times (game : AIGameScene) :
    game.onPlayerWin.time = game.time ∧ ∀ level, game.onPlayerWin.times level =
      game.times level ++ if level = game.difficulty then [game.time] else [] := by
  have shown := (store_same_times game.invalidateTimer.appendTime).trans
    ((scene_same_times _ game.invalidateTimer.saveTime.scene.onPlayerWin).trans
      (store_same_times _))
  constructor
  · exact shown.1.trans (append_time_time game.invalidateTimer)
  · intro level
    have appended := append_time_times game.invalidateTimer level
    exact (shown.2 level).trans appended

theorem solo_player_check (tile : MapPlace) (game : AIGameScene) :
    methods.checkPlayerFlag tile game =
      if game.scene.player1CollisionFlag then
        if game.scene.player_Score = 4 then (game.playerToTrophyResponse tile).onPlayerWin
        else game.playerToTrophyResponse tile
      else game := by
  change (if game.scene.player1CollisionFlag then
      if (game.scene.playerToTrophyResponse tile).player_Score = 5 then _ else _ else game) = _
  simp only [GameScene.fifth_trophy]
  rfl

theorem player_check_times (tile : MapPlace) (game : AIGameScene) :
    (methods.checkPlayerFlag tile game).time = game.time ∧
      ∀ level, (methods.checkPlayerFlag tile game).times level = game.times level ++
        if game.Wins ∧ level = game.difficulty then [game.time] else [] := by
  have scored : SameTimes game (game.playerToTrophyResponse tile) := same_times rfl rfl rfl rfl
  rw [solo_player_check]
  simp only [Wins]
  split
  · rename_i touched
    split
    · rename_i four
      obtain ⟨time, won⟩ := win_times (game.playerToTrophyResponse tile)
      refine ⟨time.trans scored.1, fun level => ?_⟩
      rw [won level, scored.2 level, scored.1]
      refine congrArg (game.times level ++ ·) (if_congr ?_ rfl rfl)
      simp [touched, four, playerToTrophyResponse]
    · rename_i short
      exact ⟨scored.1, fun level => by simp [short, scored.2 level]⟩
  · rename_i missed
    exact ⟨rfl, fun level => by simp [missed]⟩

theorem player_check_cached (tile : MapPlace) (game : AIGameScene) (wins : game.Wins)
    (level : Difficulty) :
    (methods.checkPlayerFlag tile game).allUserData.ints level.field =
      (methods.checkPlayerFlag tile game).times level := by
  have cached := append_time_cached (game.playerToTrophyResponse tile).invalidateTimer level
  rw [solo_player_check, if_pos wins.1, if_pos wins.2, onPlayerWin, store_if_signed_in_data,
    (store_if_signed_in_times _ level).1]
  simp only [saveTime, store_if_signed_in_data]
  rw [cached]
  exact ((store_same_times _).2 level).symm

/-- A frame records the time exactly when the player wins in it. -/
theorem update_times (playerDraw opponentDraw : MapPlace) (game : AIGameScene) :
    (methods.update playerDraw opponentDraw game).time = game.time ∧
      ∀ level, (methods.update playerDraw opponentDraw game).times level = game.times level ++
        if game.Wins ∧ level = game.difficulty then [game.time] else [] := by
  obtain ⟨time, times⟩ := player_check_times playerDraw game
  have later := (opponent_check_times opponentDraw (methods.checkPlayerFlag playerDraw game)).trans
    (monster_check_times _)
  exact ⟨later.1.trans time, fun level => (later.2 level).trans (times level)⟩

/-- The data that the frame of a win leaves, with the three lists. -/
theorem update_cached (playerDraw opponentDraw : MapPlace) (game : AIGameScene)
    (wins : game.Wins) (level : Difficulty) :
    (methods.update playerDraw opponentDraw game).allUserData.ints level.field =
      (methods.update playerDraw opponentDraw game).times level := by
  have later := (opponent_check_times opponentDraw (methods.checkPlayerFlag playerDraw game)).trans
    (monster_check_times _)
  rw [Methods.update, (monster_check_effect _).2, (opponent_check_effect opponentDraw _).2,
    player_check_cached playerDraw game wins]
  exact (later.2 level).symm

/-- A signed-in user's document is written with them. -/
theorem update_written (playerDraw opponentDraw : MapPlace) (game : AIGameScene)
    (wins : game.Wins) (user : game.signedIn = true) :
    ∃ earlier, (methods.update playerDraw opponentDraw game).stored =
      (methods.update playerDraw opponentDraw game).allUserData :: earlier := by
  obtain ⟨count, stored, positive⟩ := (update_effect playerDraw opponentDraw game).stored
  obtain ⟨more, rfl⟩ := Nat.exists_eq_succ_of_ne_zero
    (positive.mpr ⟨user, Or.inl wins⟩).ne'
  exact ⟨_, stored⟩

theorem update_over (playerDraw opponentDraw : MapPlace) (game : AIGameScene)
    (finished : isOver game.scene.trace = true ∨ game.Wins) :
    isOver (methods.update playerDraw opponentDraw game).scene.trace = true := by
  have first := (player_check_over playerDraw game.scene).mpr finished
  have second := (HudScene.opponent_check_over opponentDraw _ (.solo game)).mpr (Or.inl first)
  rw [update_scene, Methods.update]
  exact (HudScene.monster_check_over _).mpr (Or.inl second)

end AIGameScene

/-! ### The stopwatch beside the scene -/

namespace Stopwatch

/-- A won round lies behind the one that is played, or is that one and over. -/
def Past (watch : Stopwatch) (finished : Prop) : TimeEntry → Prop
  | .stored _ => True
  | .won earlier own =>
      earlier + own ≤ watch.earlier ∨ (finished ∧ earlier = watch.earlier ∧ own = watch.own)

theorem past_running {watch : Stopwatch} {finished : Prop} {entry : TimeEntry}
    (past : watch.Past finished entry) (running : ¬ finished) (next : Stopwatch)
    (same : next.earlier = watch.earlier) : next.Past finished entry := by
  cases entry with
  | stored time => trivial
  | won earlier own =>
      rw [Past, same]
      exact Or.inl (past.resolve_right fun ended => running ended.1)

theorem past_mono {watch : Stopwatch} {finished finished' : Prop} {entry : TimeEntry}
    (past : watch.Past finished entry) (ends : finished → finished') :
    watch.Past finished' entry := by
  cases entry with
  | stored time => trivial
  | won earlier own => exact past.imp id fun ended => ⟨ends ended.1, ended.2⟩

theorem past_next_round {watch : Stopwatch} {finished : Prop} {entry : TimeEntry}
    (past : watch.Past finished entry) (finished' : Prop) :
    watch.startRound.Past finished' entry := by
  cases entry with
  | stored time => trivial
  | won earlier own =>
      refine Or.inl ?_
      change earlier + own ≤ watch.earlier + watch.own
      rcases past with behind | ⟨-, rfl, rfl⟩
      · exact behind.trans (Nat.le_add_right _ _)
      · exact Nat.le_refl _

theorem past_behind {watch : Stopwatch} {finished : Prop} {entry : TimeEntry}
    (past : watch.Past finished entry) :
    entry.Behind (.won watch.earlier watch.own) := by
  cases entry with
  | stored time => trivial
  | won earlier own => exact past.imp id fun ended => ended.2

theorem behind_stored (entry : TimeEntry) (time : Int) : entry.Behind (.stored time) := by
  cases entry <;> trivial

end Stopwatch

namespace TimedScene

/-- The invariant: the scene's time is the sum of both parts of the stopwatch. -/
structure Recorded (timed : TimedScene) : Prop where
  ticking : timed.clock.Ticking
  time : timed.clock.game.time = (timed.watch.earlier + timed.watch.own : Nat)
  times : ∀ level, timed.clock.game.times level =
    (timed.watch.entries level).map TimeEntry.time
  past : ∀ level, ∀ entry ∈ timed.watch.entries level,
    timed.watch.Past (isOver timed.clock.game.scene.trace = true) entry
  ordered : ∀ level, (timed.watch.entries level).Pairwise TimeEntry.Behind

/-- An event that leaves the times and the stopwatch alone. -/
theorem recorded_still {timed : TimedScene} (recorded : timed.Recorded) (clock : ClockScene)
    (ticking : clock.Ticking) (same : timed.clock.game.SameTimes clock.game)
    (ends : isOver timed.clock.game.scene.trace = true → isOver clock.game.scene.trace = true) :
    Recorded ⟨clock, timed.watch⟩ where
  ticking := ticking
  time := same.1.trans recorded.time
  times level := (same.2 level).trans (recorded.times level)
  past level entry member := Stopwatch.past_mono (recorded.past level entry member) ends
  ordered := recorded.ordered

/-- An event that appends the same entries to the lists and to the stopwatch. -/
theorem recorded_add {timed : TimedScene} (recorded : timed.Recorded) (clock : ClockScene)
    (added : Difficulty → List TimeEntry) (ticking : clock.Ticking)
    (time : clock.game.time = timed.clock.game.time)
    (times : ∀ level, clock.game.times level =
      timed.clock.game.times level ++ (added level).map TimeEntry.time)
    (ends : isOver timed.clock.game.scene.trace = true → isOver clock.game.scene.trace = true)
    (past : ∀ level, ∀ entry ∈ added level,
      timed.watch.Past (isOver clock.game.scene.trace = true) entry)
    (behind : ∀ level, (added level).Pairwise TimeEntry.Behind ∧
      ∀ earlier, timed.watch.Past (isOver clock.game.scene.trace = true) earlier →
        ∀ entry ∈ added level, earlier.Behind entry) :
    Recorded ⟨clock, timed.watch.add added⟩ := by
  have kept (level) : ∀ entry ∈ timed.watch.entries level,
      timed.watch.Past (isOver clock.game.scene.trace = true) entry :=
    fun entry member => Stopwatch.past_mono (recorded.past level entry member) ends
  refine ⟨ticking, time.trans recorded.time, fun level => ?_, fun level entry member => ?_,
    fun level => ?_⟩
  · rw [times level, recorded.times level, Stopwatch.add, List.map_append]
  · rcases List.mem_append.mp member with old | new
    · exact kept level entry old
    · exact past level entry new
  · refine List.pairwise_append.mpr ⟨recorded.ordered level, (behind level).1, ?_⟩
    intro earlier member
    exact (behind level).2 earlier (kept level earlier member)

theorem recorded_second {timed : TimedScene} (recorded : timed.Recorded) :
    (timed.step (.clock .second)).Recorded := by
  have ticking := (timed.clock.step_decides .second recorded.ticking).2 trivial
  have added := ClockScene.second_adds recorded.ticking
  rw [step, Stopwatch.step]
  split
  · rename_i live
    rw [if_pos live] at added
    refine ⟨ticking, ?_, recorded.times, fun level entry member => ?_, recorded.ordered⟩
    · change timed.clock.second.game.time = (timed.watch.earlier + (timed.watch.own + 1) : Nat)
      rw [added, recorded.time]
      rfl
    · exact Stopwatch.past_running (recorded.past level entry member) (by simp [live.1]) _ rfl
  · rename_i still
    rw [if_neg still, add_zero] at added
    exact recorded_still recorded _ ticking ⟨added, fun level => by cases level <;> rfl⟩ id

/-- The frame of a win, as the stopwatch sees it. -/
theorem recorded_win {timed : TimedScene} (recorded : timed.Recorded)
    (playerDraw opponentDraw : MapPlace) (wins : timed.clock.game.Wins)
    (ticking : (ClockScene.methods.update playerDraw opponentDraw timed.clock).Ticking) :
    Recorded ⟨ClockScene.methods.update playerDraw opponentDraw timed.clock,
      timed.watch.win timed.clock.game.difficulty⟩ := by
  obtain ⟨time, times⟩ := timed.clock.game.update_times playerDraw opponentDraw
  have finished := timed.clock.game.update_over playerDraw opponentDraw (Or.inr wins)
  rw [← ClockScene.update_game] at time times finished
  have won (level : Difficulty) (entry : TimeEntry) (member : entry ∈
      if level = timed.clock.game.difficulty then
        [TimeEntry.won timed.watch.earlier timed.watch.own] else []) :
      entry = .won timed.watch.earlier timed.watch.own := by
    split at member
    · exact List.mem_singleton.mp member
    · cases member
  refine recorded_add recorded _ _ ticking time (fun level => ?_) (fun _ => finished)
    (fun level entry member => ?_) (fun level => ⟨?_, fun earlier past entry member => ?_⟩)
  · rw [times level, recorded.time]
    refine congrArg _ ?_
    by_cases chosen : level = timed.clock.game.difficulty
    · rw [if_pos chosen, if_pos ⟨wins, chosen⟩]
      rfl
    · rw [if_neg chosen, if_neg fun both => chosen both.2]
      rfl
  · rw [won level entry member]
    exact Or.inr ⟨finished, rfl, rfl⟩
  · split
    · exact List.pairwise_singleton _ _
    · exact List.Pairwise.nil
  · rw [won level entry member]
    exact Stopwatch.past_behind past

theorem recorded_update {timed : TimedScene} (recorded : timed.Recorded)
    (playerDraw opponentDraw : MapPlace) :
    (timed.step (.clock (.update playerDraw opponentDraw))).Recorded := by
  have ticking := (timed.clock.step_decides (.update playerDraw opponentDraw)
    recorded.ticking).2 trivial
  rw [ClockScene.step] at ticking
  rw [step, Stopwatch.step]
  cases behind : timed.clock.inBackground with
  | true =>
      simpa [ClockScene.step, behind] using recorded
  | false =>
      rw [behind, if_neg Bool.false_ne_true] at ticking
      simp only [ClockScene.step, behind, if_false, Bool.false_eq_true, not_false_eq_true, true_and]
      split
      · rename_i wins
        exact recorded_win recorded playerDraw opponentDraw wins ticking
      · rename_i short
        obtain ⟨time, times⟩ := timed.clock.game.update_times playerDraw opponentDraw
        have ends := fun finished =>
          timed.clock.game.update_over playerDraw opponentDraw (Or.inl finished)
        rw [← ClockScene.update_game] at time times ends
        refine recorded_still recorded _ ticking ⟨time, fun level => ?_⟩ ends
        rw [times level, if_neg fun both => short both.1, List.append_nil]

/-- The stopwatch starts a new round when Try Again ends the finished one. -/
theorem recorded_try_again {timed : TimedScene} (recorded : timed.Recorded) (draw : MapPlace)
    (met : timed.clock.ClockGuard (.tapTryAgain draw)) :
    (timed.step (.clock (.tapTryAgain draw))).Recorded := by
  have ticking := (timed.clock.step_decides (.tapTryAgain draw) recorded.ticking).2 met
  rw [step, Stopwatch.step]
  split
  · rename_i shown
    simp only [ClockScene.step, if_pos shown] at ticking ⊢
    refine ⟨ticking, ?_, fun level => ?_, fun level entry member => ?_, recorded.ordered⟩
    · exact recorded.time
    · refine Eq.trans ?_ (recorded.times level)
      cases level <;> rfl
    · exact Stopwatch.past_next_round (recorded.past level entry member) _
  · rename_i unseen
    simp only [ClockScene.step, if_neg unseen]
    exact recorded

theorem recorded_load {timed : TimedScene} (recorded : timed.Recorded) (document : Document) :
    (timed.step (.load document)).Recorded := by
  refine recorded_add recorded _ _ ?_ rfl (fun level => ?_) id (fun level entry member => ?_)
    fun level => ⟨?_, fun earlier _ entry member => ?_⟩
  · exact ClockScene.kept_ticking (ClockScene.game_kept timed.clock _ rfl rfl rfl) recorded.ticking
  · rw [AIGameScene.loaded_times, List.map_map]
    refine congrArg _ (List.map_id _).symm
  · obtain ⟨time, -, rfl⟩ := List.mem_map.mp member
    trivial
  · rw [List.pairwise_map]
    exact List.pairwise_of_forall fun _ _ => trivial
  · obtain ⟨time, -, rfl⟩ := List.mem_map.mp member
    exact Stopwatch.behind_stored earlier time

/-- The other events leave the times alone and end no round. -/
theorem recorded_other {timed : TimedScene} (recorded : timed.Recorded) (clock : ClockScene)
    (ticking : clock.Ticking)
    (same : ∃ scene, clock.game = { timed.clock.game with scene } ∧
      isOver scene.trace = isOver timed.clock.game.scene.trace) :
    Recorded ⟨clock, timed.watch⟩ := by
  obtain ⟨scene, game, ends⟩ := same
  refine recorded_still recorded clock ticking ?_ ?_
  · rw [game]
    exact AIGameScene.scene_same_times _ scene
  · rw [game, ends]
    exact id

theorem step_recorded (timed : TimedScene) (event : RecordEvent) (recorded : timed.Recorded)
    (met : timed.Guard event) : (timed.step event).Recorded := by
  cases event with
  | load document => exact recorded_load recorded document
  | clock event =>
      have ticking := (timed.clock.step_decides event recorded.ticking).2 met
      cases event with
      | second => exact recorded_second recorded
      | update playerDraw opponentDraw => exact recorded_update recorded playerDraw opponentDraw
      | tapTryAgain draw => exact recorded_try_again recorded draw met
      | physics playerAt opponentAt contacts =>
          refine recorded_other recorded
            (timed.clock.step (.physics playerAt opponentAt contacts)) ticking ?_
          rw [ClockScene.step]
          split
          · exact ⟨_, rfl, rfl⟩
          · exact ⟨_, rfl, (physics_same playerAt opponentAt contacts _).isOver⟩
      | tapPause =>
          refine recorded_other recorded (timed.clock.step .tapPause) ticking ?_
          rw [ClockScene.step]
          split
          · rw [ClockScene.tapPause]
            split <;> exact ⟨_, rfl, rfl⟩
          · exact ⟨_, rfl, rfl⟩
      | showDied =>
          refine recorded_other recorded (timed.clock.step .showDied) ticking ?_
          rw [ClockScene.step]
          split <;> exact ⟨_, rfl, rfl⟩
      | enterBackground =>
          refine recorded_other recorded (timed.clock.step .enterBackground) ticking ?_
          rw [ClockScene.step, ClockScene.enterBackground]
          split <;> exact ⟨_, rfl, rfl⟩
      | becomeActive =>
          refine recorded_other recorded (timed.clock.step .becomeActive) ticking ?_
          rw [ClockScene.step, ClockScene.becomeActive]
          split <;> exact ⟨_, rfl, rfl⟩
      | adLoads => exact recorded_other recorded _ ticking ⟨_, rfl, rfl⟩
      | adCloses => exact recorded_other recorded _ ticking ⟨_, rfl, rfl⟩

/-- `sceneDidLoad`, with a stopwatch at zero. -/
def start (signedIn : Bool) (difficulty : Difficulty) (trophy : MapPlace)
    (monsters : List String) : TimedScene :=
  ⟨ClockScene.load signedIn difficulty trophy monsters, {}⟩

theorem start_recorded (signedIn : Bool) (difficulty : Difficulty) (trophy : MapPlace)
    (monsters : List String) : (start signedIn difficulty trophy monsters).Recorded where
  ticking := ClockScene.load_ticking signedIn difficulty trophy monsters
  time := rfl
  times level := by cases level <;> rfl
  past _ _ member := by cases member
  ordered _ := List.Pairwise.nil

/-- In every run with one clock the scene's lists hold what the stopwatch tells: a
    round that is won is recorded with its own live seconds and those of all earlier
    rounds, and of two wins the later one counts the whole round of the first. The
    frame of a win writes these lists to the document of a signed-in user. -/
theorem recorded_times (signedIn : Bool) (difficulty : Difficulty) (trophy : MapPlace)
    (monsters : List String) (events : List RecordEvent)
    (met : Runs.Meets step Guard (start signedIn difficulty trophy monsters) events) :
    let timed := Runs.run step (start signedIn difficulty trophy monsters) events
    (∀ level, timed.clock.game.times level = (timed.watch.entries level).map TimeEntry.time ∧
      (timed.watch.entries level).Pairwise TimeEntry.Behind) ∧
    ∀ playerDraw opponentDraw, timed.clock.inBackground = false → timed.clock.game.Wins →
      timed.clock.game.signedIn = true →
      let won := timed.step (.clock (.update playerDraw opponentDraw))
      ∃ document earlier, won.clock.game.stored = document :: earlier ∧
        ∀ level, document.ints level.field = (won.watch.entries level).map TimeEntry.time := by
  intro timed
  have recorded : timed.Recorded := Runs.meets_keeps step Guard Recorded step_recorded events _
    (start_recorded signedIn difficulty trophy monsters) met
  refine ⟨fun level => ⟨recorded.times level, recorded.ordered level⟩, ?_⟩
  intro playerDraw opponentDraw front wins user won
  have after : won.Recorded := recorded_update recorded playerDraw opponentDraw
  have game : won.clock.game =
      AIGameScene.methods.update playerDraw opponentDraw timed.clock.game := by
    have foreground : timed.clock.step (.update playerDraw opponentDraw) =
        ClockScene.methods.update playerDraw opponentDraw timed.clock := by
      rw [ClockScene.step, if_neg (by simp [front])]
    exact (congrArg ClockScene.game foreground).trans
      (ClockScene.update_game playerDraw opponentDraw timed.clock)
  obtain ⟨earlier, stored⟩ :=
    timed.clock.game.update_written playerDraw opponentDraw wins user
  refine ⟨_, earlier, (congrArg AIGameScene.stored game).trans stored, fun level => ?_⟩
  rw [timed.clock.game.update_cached playerDraw opponentDraw wins level, ← game]
  exact after.times level

instance (clock : ClockScene) : (event : ClockEvent) → Decidable (clock.ClockGuard event)
  | .becomeActive => inferInstanceAs (Decidable (clock.adShown = false → _ ∧ _))
  | .tapTryAgain _ => inferInstanceAs
      (Decidable (clock.touchable = true → clock.tryAgainShown = true → _ ∧ _))
  | .physics .. | .update .. | .second | .tapPause | .showDied | .adLoads | .adCloses
  | .enterBackground => inferInstanceAs (Decidable True)

instance (timed : TimedScene) : (event : RecordEvent) → Decidable (timed.Guard event)
  | .clock event => inferInstanceAs (Decidable (timed.clock.ClockGuard event))
  | .load _ => inferInstanceAs (Decidable True)

/-- One second of a round in which the monster takes all lives, Try Again, and one
    second of a round in which the player collects four trophies and touches a fifth. -/
def lostAndWon : List RecordEvent :=
  ([[.second],
    (List.replicate 3 [.physics playerTile opponentTile [⟨"player1", "monster1"⟩],
      .update opponentTile opponentTile]).flatten,
    [.second, .showDied, .tapTryAgain opponentTile, .second],
    (List.replicate 4 [.physics playerTile opponentTile [⟨"player1", "trophy"⟩],
      .update opponentTile opponentTile]).flatten,
    [.physics playerTile opponentTile [⟨"player1", "trophy"⟩]]] :
      List (List ClockEvent)).flatten.map .clock

theorem lost_and_won_recorded :
    let won := (Runs.run step (start true .Easy playerTile ["monster1"]) lostAndWon).step
      (.clock (.update playerTile playerTile))
    ∃ document earlier, won.clock.game.stored = document :: earlier ∧
      ∀ level, document.ints level.field = (won.watch.entries level).map TimeEntry.time :=
  (recorded_times true .Easy playerTile ["monster1"] lostAndWon (by decide)).2 playerTile
    playerTile (by decide) (by decide) (by decide)

/-- The round took one second and is recorded with two. -/
example : ((Runs.run step (start true .Easy playerTile ["monster1"]) lostAndWon).step
    (.clock (.update playerTile playerTile))).watch.entries .Easy = [.won 1 1] := by decide

end TimedScene
end RelicRace
