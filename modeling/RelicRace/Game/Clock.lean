import RelicRace.Game.Rounds

/-!
The clock of the single-player scene: the timers of the run loop and the one
reference `timer` that six places overwrite or invalidate. The scene below is
`AIGameScene` with its overrides of the ends of a round, the touches and the
two calls of `AppDelegate` that see it.
-/

namespace RelicRace
open Library

/-- The repeating timers of the run loop that are not invalidated, by number. -/
structure RunLoop where
  scheduled : List Nat
  next : Nat

/-- Timer 0 is the `Timer()` that is never scheduled. -/
structure ClockScene where
  game : AIGameScene
  runLoop : RunLoop
  timer : Nat
  isPausing : Bool := false
  inBackground : Bool := false
  interstitialReady : Bool := false
  adShown : Bool := false
  diedDisplays : Nat := 0
  tryAgainShown : Bool := false

/-- `second` is the time after which every scheduled timer has fired once more;
    `showDied` runs a closure queued by `onMonsterWin`. -/
inductive ClockEvent where
  | physics (playerAt opponentAt : MapPlace) (contacts : List Contact)
  | update (playerDraw opponentDraw : MapPlace)
  | second
  | tapPause
  | tapTryAgain (draw : MapPlace)
  | showDied
  | adLoads
  | adCloses
  | enterBackground
  | becomeActive

namespace ClockScene

/-! ### The timer -/

/-- `timer = Timer.scheduledTimer(...)`. -/
def schedule (clock : ClockScene) : ClockScene :=
  { clock with
    timer := clock.runLoop.next
    runLoop := ⟨clock.runLoop.next :: clock.runLoop.scheduled, clock.runLoop.next + 1⟩ }

/-- `timer.invalidate()`. -/
def invalidate (clock : ClockScene) : ClockScene :=
  { clock with
    runLoop := { clock.runLoop with scheduled := clock.runLoop.scheduled.erase clock.timer } }

/-- Every scheduled timer adds one to `time`. -/
def second (clock : ClockScene) : ClockScene :=
  { clock with
    game := { clock.game with time := clock.game.time + clock.runLoop.scheduled.length } }

/-- `sceneDidLoad`. -/
def load (signedIn : Bool) (difficulty : Difficulty) (trophy : MapPlace)
    (monsters : List String) : ClockScene :=
  schedule ⟨.start signedIn difficulty trophy monsters, ⟨[], 1⟩, 0, false, false, false, false, 0,
    false⟩

/-! ### Overrides -/

def presentAd (clock : ClockScene) : ClockScene :=
  if clock.interstitialReady then { clock with interstitialReady := false, adShown := true }
  else clock

def playerToTrophyResponse (tile : MapPlace) (clock : ClockScene) : ClockScene :=
  { clock with game := clock.game.playerToTrophyResponse tile }

def opponentToTrophyResponse (tile : MapPlace) (clock : ClockScene) : ClockScene :=
  { clock with game := clock.game.opponentToTrophyResponse tile }

def onPlayerWin (clock : ClockScene) : ClockScene :=
  let clock := clock.invalidate.presentAd
  { clock with game := clock.game.onPlayerWin }

def onMonsterWin (clock : ClockScene) : ClockScene :=
  let clock := clock.invalidate.presentAd
  { clock with game := clock.game.onMonsterWin, diedDisplays := clock.diedDisplays + 1 }

def checkOpponentWin (clock : ClockScene) : ClockScene :=
  let clock := if clock.game.scene.score ≥ 5 then clock.invalidate.presentAd else clock
  { clock with game := clock.game.checkOpponentWin }

def methods : Methods ClockScene where
  base clock := clock.game.scene
  withBase clock scene := { clock with game := { clock.game with scene } }
  playerToTrophyResponse := playerToTrophyResponse
  opponentToTrophyResponse := opponentToTrophyResponse
  onPlayerWin := onPlayerWin
  onMonsterWin := onMonsterWin
  checkOpponentWin := checkOpponentWin

/-! ### Touches and the application -/

/-- The game screen is on top and takes touches. -/
def touchable (clock : ClockScene) : Bool := !clock.inBackground && !clock.adShown

/-- The branches for "pause" of both classes. -/
def tapPause (clock : ClockScene) : ClockScene :=
  let clock := if clock.isPausing then clock.schedule else clock.invalidate
  let scene := { clock.game.scene with joystickDisabled := !clock.isPausing }
  { clock with game := { clock.game with scene }, isPausing := !clock.isPausing }

/-- The branches for "tryagain" of both classes. -/
def tapTryAgain (draw : MapPlace) (clock : ClockScene) : ClockScene :=
  let clock := clock.schedule
  { clock with game := clock.game.tapTryAgain draw, tryAgainShown := false }

/-- `applicationDidEnterBackground`. -/
def enterBackground (clock : ClockScene) : ClockScene :=
  let clock := if clock.adShown then clock else clock.invalidate
  { clock with inBackground := true }

/-- `applicationDidBecomeActive`. -/
def becomeActive (clock : ClockScene) : ClockScene :=
  let clock := if clock.adShown then clock else clock.invalidate.schedule
  { clock with inBackground := false }

/-- In the background nothing is simulated; a node that is hidden or that has
    not been added takes no touch. -/
def step (clock : ClockScene) : ClockEvent → ClockScene
  | .physics playerAt opponentAt contacts =>
      if clock.inBackground then clock
      else { clock with game := clock.game.step (.physics playerAt opponentAt contacts) }
  | .update playerDraw opponentDraw =>
      if clock.inBackground then clock else methods.update playerDraw opponentDraw clock
  | .second => clock.second
  | .tapPause =>
      if clock.touchable && !clock.game.scene.pauseHidden then clock.tapPause else clock
  | .tapTryAgain draw =>
      if clock.touchable && clock.tryAgainShown then clock.tapTryAgain draw else clock
  | .showDied =>
      if clock.diedDisplays = 0 then clock
      else { clock with diedDisplays := clock.diedDisplays - 1, tryAgainShown := true }
  | .adLoads => { clock with interstitialReady := true }
  | .adCloses => { clock with adShown := false }
  | .enterBackground => clock.enterBackground
  | .becomeActive => clock.becomeActive

/-! ### What the clock should be -/

/-- The round is running, unpaused and in the foreground. -/
def Live (clock : ClockScene) : Prop :=
  isOver clock.game.scene.trace = false ∧ clock.isPausing = false ∧ clock.inBackground = false

instance (clock : ClockScene) : Decidable clock.Live := inferInstanceAs (Decidable (_ ∧ _))

def OneClock (clock : ClockScene) : Prop :=
  clock.runLoop.scheduled.length = if clock.Live then 1 else 0

/-- The application becomes active with the game on top only while a round runs
    unpaused; Try Again is tapped only in a finished round that is not paused. -/
def ClockGuard (clock : ClockScene) : ClockEvent → Prop
  | .becomeActive =>
      clock.adShown = false → isOver clock.game.scene.trace = false ∧ clock.isPausing = false
  | .tapTryAgain _ =>
      clock.touchable = true → clock.tryAgainShown = true →
        isOver clock.game.scene.trace = true ∧ clock.isPausing = false
  | _ => True

/-- The invariant: `timer` refers to the one timer that runs while the game is live. -/
structure Ticking (clock : ClockScene) : Prop where
  timers : clock.runLoop.scheduled = if clock.Live then [clock.timer] else []
  hidden : clock.game.scene.pauseHidden = isOver clock.game.scene.trace
  ads : clock.adShown = true → isOver clock.game.scene.trace = true
  flag : clock.game.timerRunning = !isOver clock.game.scene.trace

theorem ticking_one_clock {clock : ClockScene} (ticking : clock.Ticking) : clock.OneClock := by
  rw [OneClock, ticking.timers]
  split <;> rfl

/-- A second adds one to the time while the game is live and nothing otherwise. -/
theorem second_adds {clock : ClockScene} (ticking : clock.Ticking) :
    clock.second.game.time = clock.game.time + if clock.Live then 1 else 0 := by
  have count := ticking_one_clock ticking
  rw [OneClock] at count
  simp only [second, count]
  split <;> rfl

/-! ### A frame -/

/-- What a part of the frame leaves alone when no round ends in it. -/
structure Kept (before after : ClockScene) : Prop where
  runLoop : after.runLoop = before.runLoop
  timer : after.timer = before.timer
  isPausing : after.isPausing = before.isPausing
  inBackground : after.inBackground = before.inBackground
  adShown : after.adShown = before.adShown
  isOver : isOver after.game.scene.trace = isOver before.game.scene.trace
  hidden : after.game.scene.pauseHidden = before.game.scene.pauseHidden
  flag : after.game.timerRunning = before.game.timerRunning

/-- The end of a round invalidates the timer. -/
structure Ended (before after : ClockScene) : Prop where
  timers : after.runLoop.scheduled = before.runLoop.scheduled.erase before.timer
  isPausing : after.isPausing = before.isPausing
  isOver : isOver after.game.scene.trace = true
  hidden : after.game.scene.pauseHidden = true
  flag : after.game.timerRunning = false

theorem kept_live {before after : ClockScene} (kept : Kept before after) :
    after.Live ↔ before.Live := by
  rw [Live, Live, kept.isOver, kept.isPausing, kept.inBackground]

theorem kept_ticking {before after : ClockScene} (kept : Kept before after)
    (ticking : before.Ticking) : after.Ticking where
  timers := by simp only [kept.runLoop, kept.timer, kept_live kept, ticking.timers]
  hidden := by rw [kept.hidden, kept.isOver, ticking.hidden]
  ads := by
    rw [kept.adShown, kept.isOver]
    exact ticking.ads
  flag := by rw [kept.flag, kept.isOver, ticking.flag]

/-- While the reference is right, invalidating it leaves no timer. -/
theorem ticking_invalidated {clock : ClockScene} (ticking : clock.Ticking) :
    clock.runLoop.scheduled.erase clock.timer = [] := by
  rw [ticking.timers]
  split
  · exact List.erase_cons_head ..
  · rfl

theorem ended_ticking {before after : ClockScene} (ended : Ended before after)
    (ticking : before.Ticking) : after.Ticking where
  timers := by
    have still : ¬ after.Live := by
      rintro ⟨running, -⟩
      rw [ended.isOver] at running
      cases running
    rw [ended.timers, ticking_invalidated ticking, if_neg still]
  hidden := ended.hidden.trans ended.isOver.symm
  ads _ := ended.isOver
  flag := by rw [ended.flag, ended.isOver, Bool.not_true]

theorem present_ad_keeps (clock : ClockScene) :
    clock.presentAd.game = clock.game ∧ clock.presentAd.runLoop = clock.runLoop ∧
      clock.presentAd.isPausing = clock.isPausing := by
  rw [presentAd]
  split <;> exact ⟨rfl, rfl, rfl⟩

/-- The three ends of a round, by what they leave of the game. -/
theorem ending_ended (clock : ClockScene) (game : AIGameScene) (displays : Nat)
    (finished : isOver game.scene.trace = true) (hidden : game.scene.pauseHidden = true)
    (flag : game.timerRunning = false) :
    Ended clock { clock.invalidate.presentAd with game, diedDisplays := displays } := by
  obtain ⟨-, runLoop, isPausing⟩ := present_ad_keeps clock.invalidate
  exact ⟨by rw [runLoop, invalidate], by rw [isPausing, invalidate], finished, hidden, flag⟩

end ClockScene

/-! What the ends of a round leave of the single-player scene. -/

namespace AIGameScene

theorem store_if_signed_in_flag (game : AIGameScene) :
    game.storeIfSignedIn.timerRunning = game.timerRunning := by
  rw [storeIfSignedIn]
  split <;> rfl

theorem save_time_flag (game : AIGameScene) : game.saveTime.timerRunning = game.timerRunning := by
  rw [saveTime, store_if_signed_in_flag, appendTime]
  cases game.difficulty <;> rfl

end AIGameScene

namespace ClockScene

theorem player_win_ended (clock : ClockScene) : Ended clock clock.onPlayerWin := by
  have kept := (present_ad_keeps clock.invalidate).1
  have won : isOver clock.game.onPlayerWin.scene.trace = true ∧
      clock.game.onPlayerWin.scene.pauseHidden = true := by
    rw [AIGameScene.onPlayerWin, AIGameScene.store_if_signed_in_scene]
    exact ⟨rfl, rfl⟩
  have flag : clock.game.onPlayerWin.timerRunning = false := by
    rw [AIGameScene.onPlayerWin, AIGameScene.store_if_signed_in_flag,
      AIGameScene.save_time_flag, AIGameScene.invalidateTimer]
  have ended := ending_ended clock clock.game.onPlayerWin clock.invalidate.presentAd.diedDisplays
    won.1 won.2 flag
  rw [onPlayerWin, kept]
  exact ended

theorem monster_win_ended (clock : ClockScene) : Ended clock clock.onMonsterWin := by
  have kept := (present_ad_keeps clock.invalidate).1
  have flag : clock.game.onMonsterWin.timerRunning = false := by
    rw [AIGameScene.onMonsterWin, AIGameScene.store_if_signed_in_flag,
      AIGameScene.invalidateTimer]
  have ended := ending_ended clock clock.game.onMonsterWin
    (clock.invalidate.presentAd.diedDisplays + 1) rfl rfl flag
  rw [onMonsterWin, kept]
  exact ended

theorem opponent_win_cases (clock : ClockScene) :
    Kept clock clock.checkOpponentWin ∨ Ended clock clock.checkOpponentWin := by
  by_cases won : clock.game.scene.score ≥ 5
  · refine Or.inr ?_
    have kept := (present_ad_keeps clock.invalidate).1
    have finished : isOver clock.game.checkOpponentWin.scene.trace = true ∧
        clock.game.checkOpponentWin.scene.pauseHidden = true := by
      rw [AIGameScene.check_opponent_win_scene, GameScene.checkOpponentWin, if_pos won]
      exact ⟨rfl, rfl⟩
    have flag : clock.game.checkOpponentWin.timerRunning = false := by
      rw [AIGameScene.checkOpponentWin, if_pos won, AIGameScene.store_if_signed_in_flag,
        AIGameScene.invalidateTimer]
    have ended := ending_ended clock clock.game.checkOpponentWin
      clock.invalidate.presentAd.diedDisplays finished.1 finished.2 flag
    rw [checkOpponentWin, if_pos won, kept]
    exact ended
  · refine Or.inl ?_
    have same : clock.game.checkOpponentWin = clock.game := by
      rw [AIGameScene.checkOpponentWin, if_neg won, GameScene.checkOpponentWin, if_neg won]
    rw [checkOpponentWin, if_neg won, same]
    exact ⟨rfl, rfl, rfl, rfl, rfl, rfl, rfl, rfl⟩

/-- A change of the game that ends no round. -/
theorem game_kept (clock : ClockScene) (game : AIGameScene)
    (finished : isOver game.scene.trace = isOver clock.game.scene.trace)
    (hidden : game.scene.pauseHidden = clock.game.scene.pauseHidden)
    (flag : game.timerRunning = clock.game.timerRunning) : Kept clock { clock with game } :=
  ⟨rfl, rfl, rfl, rfl, rfl, finished, hidden, flag⟩

theorem player_trophy_kept (tile : MapPlace) (clock : ClockScene) :
    Kept clock (clock.playerToTrophyResponse tile) := by
  refine game_kept clock _ ?_ ?_ rfl
  · change isOver (clock.game.scene.playerToTrophyResponse tile).trace = _
    rw [GameScene.player_response_eq, award_over]
  · change (clock.game.scene.playerToTrophyResponse tile).pauseHidden = _
    rw [GameScene.player_response_eq]

theorem opponent_trophy_kept (tile : MapPlace) (clock : ClockScene) :
    Kept clock (clock.opponentToTrophyResponse tile) := by
  refine game_kept clock _ ?_ ?_ rfl
  · change isOver (clock.game.scene.opponentToTrophyResponse tile).trace = _
    rw [GameScene.opponent_response_eq, award_over]
  · change (clock.game.scene.opponentToTrophyResponse tile).pauseHidden = _
    rw [GameScene.opponent_response_eq]

theorem lose_life_kept (clock : ClockScene) :
    Kept clock (methods.withBase clock clock.game.scene.loseLife) := by
  refine game_kept clock _ ?_ ?_ rfl
  · change isOver clock.game.scene.loseLife.trace = _
    rw [GameScene.lose_life_trace]
  · rw [GameScene.lose_life_eq]

theorem player_check_ticking (tile : MapPlace) (clock : ClockScene) (ticking : clock.Ticking) :
    (methods.checkPlayerFlag tile clock).Ticking := by
  have scored := kept_ticking (player_trophy_kept tile clock) ticking
  rw [Methods.checkPlayerFlag, Methods.playerCollisionResponse]
  split
  · split
    · exact ended_ticking (player_win_ended _) scored
    · exact scored
  · exact ticking

theorem opponent_check_ticking (tile : MapPlace) (clock : ClockScene) (ticking : clock.Ticking) :
    (methods.checkOpponentFlag tile clock).Ticking := by
  have scored := kept_ticking (opponent_trophy_kept tile clock) ticking
  rw [Methods.checkOpponentFlag, Methods.opponentCollisionResponse]
  split
  · rcases opponent_win_cases (clock.opponentToTrophyResponse tile) with kept | ended
    · exact kept_ticking kept scored
    · exact ended_ticking ended scored
  · exact ticking

theorem monster_check_ticking (clock : ClockScene) (ticking : clock.Ticking) :
    (methods.checkMonsterFlag clock).Ticking := by
  have hurt := kept_ticking (lose_life_kept clock) ticking
  rw [Methods.checkMonsterFlag, Methods.monsterCollisionResponse]
  split
  · split
    · exact ended_ticking (monster_win_ended _) hurt
    · exact hurt
  · exact ticking

theorem update_ticking (playerDraw opponentDraw : MapPlace) (clock : ClockScene)
    (ticking : clock.Ticking) : (methods.update playerDraw opponentDraw clock).Ticking :=
  monster_check_ticking _ (opponent_check_ticking opponentDraw _
    (player_check_ticking playerDraw clock ticking))

/-! A frame plays the frame of the scene without a run loop. -/

theorem player_check_game (tile : MapPlace) (clock : ClockScene) :
    (methods.checkPlayerFlag tile clock).game =
      AIGameScene.methods.checkPlayerFlag tile clock.game := by
  have won (clock : ClockScene) : clock.onPlayerWin.game = clock.game.onPlayerWin := by
    rw [onPlayerWin, (present_ad_keeps _).1, invalidate]
  simp only [Methods.checkPlayerFlag, Methods.playerCollisionResponse, apply_ite game]
  change (if _ then if _ then (clock.playerToTrophyResponse tile).onPlayerWin.game
    else _ else _) = _
  rw [won]
  rfl

theorem opponent_check_game (tile : MapPlace) (clock : ClockScene) :
    (methods.checkOpponentFlag tile clock).game =
      AIGameScene.methods.checkOpponentFlag tile clock.game := by
  have won (clock : ClockScene) : clock.checkOpponentWin.game = clock.game.checkOpponentWin := by
    rw [checkOpponentWin]
    split
    · rw [(present_ad_keeps _).1, invalidate]
    · rfl
  simp only [Methods.checkOpponentFlag, Methods.opponentCollisionResponse, apply_ite game]
  change (if _ then (clock.opponentToTrophyResponse tile).checkOpponentWin.game else _) = _
  rw [won]
  rfl

theorem monster_check_game (clock : ClockScene) :
    (methods.checkMonsterFlag clock).game = AIGameScene.methods.checkMonsterFlag clock.game := by
  have won (clock : ClockScene) : clock.onMonsterWin.game = clock.game.onMonsterWin := by
    rw [onMonsterWin, (present_ad_keeps _).1, invalidate]
  simp only [Methods.checkMonsterFlag, Methods.monsterCollisionResponse, apply_ite game]
  change (if _ then if _ then
    (methods.withBase clock clock.game.scene.loseLife).onMonsterWin.game else _ else _) = _
  rw [won]
  rfl

theorem update_game (playerDraw opponentDraw : MapPlace) (clock : ClockScene) :
    (methods.update playerDraw opponentDraw clock).game =
      AIGameScene.methods.update playerDraw opponentDraw clock.game := by
  rw [Methods.update, monster_check_game, opponent_check_game, player_check_game]
  rfl

/-! ### Every event -/

theorem physics_kept (playerAt opponentAt : MapPlace) (contacts : List Contact)
    (clock : ClockScene) :
    Kept clock { clock with game := clock.game.step (.physics playerAt opponentAt contacts) } := by
  refine game_kept clock _ (physics_same playerAt opponentAt contacts clock.game.scene).isOver
    ?_ rfl
  exact (physics_display playerAt opponentAt contacts clock.game.scene).2

/-- After a tap on pause the timer runs exactly when the game goes on. -/
theorem pause_ticking {clock : ClockScene} (ticking : clock.Ticking)
    (shown : clock.game.scene.pauseHidden = false) (front : clock.inBackground = false) :
    clock.tapPause.Ticking := by
  have running : isOver clock.game.scene.trace = false := ticking.hidden ▸ shown
  refine ⟨?_, ?_, ?_, ?_⟩
  · cases paused : clock.isPausing with
    | true =>
        have none : clock.runLoop.scheduled = [] := by simp [ticking.timers, Live, paused]
        simp [tapPause, paused, schedule, Live, running, front, none]
    | false =>
        have none := ticking_invalidated ticking
        simp [tapPause, paused, invalidate, Live, none]
  all_goals
    cases paused : clock.isPausing <;>
      simp only [tapPause, paused, if_true, if_false, schedule, invalidate, Bool.false_eq_true]
  exacts [ticking.hidden, ticking.hidden, ticking.ads, ticking.ads, ticking.flag, ticking.flag]

/-- A timer that is scheduled on top of those of a right clock. -/
theorem scheduled_count {clock : ClockScene} (ticking : clock.Ticking) :
    clock.schedule.runLoop.scheduled.length = (if clock.Live then 1 else 0) + 1 := by
  rw [schedule, List.length_cons, ticking_one_clock ticking]

theorem try_again_round (draw : MapPlace) (clock : ClockScene) :
    isOver (clock.tapTryAgain draw).game.scene.trace = false ∧
      (clock.tapTryAgain draw).game.scene.pauseHidden = false :=
  ⟨(reset_trace draw clock.game.scene).1, rfl⟩

theorem try_again_decides (draw : MapPlace) {clock : ClockScene} (ticking : clock.Ticking)
    (touched : clock.touchable = true) :
    ((clock.tapTryAgain draw).OneClock ↔
      isOver clock.game.scene.trace = true ∧ clock.isPausing = false) ∧
    (isOver clock.game.scene.trace = true ∧ clock.isPausing = false →
      (clock.tapTryAgain draw).Ticking) := by
  simp only [touchable, Bool.and_eq_true, Bool.not_eq_true'] at touched
  obtain ⟨front, uncovered⟩ := touched
  obtain ⟨running, hidden⟩ := try_again_round draw clock
  have live : (clock.tapTryAgain draw).Live ↔ clock.isPausing = false := by
    rw [Live, running]
    exact ⟨fun now => now.2.1, fun unpaused => ⟨rfl, unpaused, front⟩⟩
  have before : clock.Live ↔ isOver clock.game.scene.trace = false ∧ clock.isPausing = false := by
    rw [Live, front]
    tauto
  have count : (clock.tapTryAgain draw).runLoop.scheduled.length =
      (if clock.Live then 1 else 0) + 1 := scheduled_count ticking
  constructor
  · simp only [OneClock, count, live, before]
    cases isOver clock.game.scene.trace <;> cases clock.isPausing <;> simp
  · rintro ⟨finished, unpaused⟩
    have none : clock.runLoop.scheduled = [] := by simp [ticking.timers, before, finished]
    refine ⟨?_, hidden.trans running.symm, fun shown => ?_, ?_⟩
    · rw [if_pos (live.mpr unpaused)]
      simp [tapTryAgain, schedule, none]
    · exact absurd (uncovered.symm.trans shown) (by simp)
    · rw [running]
      rfl

/-- With the same game the timers alone decide. -/
theorem retimed_ticking {before after : ClockScene} (ticking : before.Ticking)
    (same : after.game = before.game ∧ after.adShown = before.adShown)
    (timers : after.runLoop.scheduled = if after.Live then [after.timer] else []) :
    after.Ticking := by
  obtain ⟨game, ads⟩ := same
  refine ⟨timers, ?_, ?_, ?_⟩
  · rw [game]
    exact ticking.hidden
  · rw [game, ads]
    exact ticking.ads
  · rw [game]
    exact ticking.flag

theorem covered_timers {clock : ClockScene} (ticking : clock.Ticking)
    (shown : clock.adShown = true) : clock.runLoop.scheduled = [] := by
  simp [ticking.timers, Live, ticking.ads shown]

theorem background_ticking {clock : ClockScene} (ticking : clock.Ticking) :
    clock.enterBackground.Ticking := by
  have same : clock.enterBackground.game = clock.game ∧
      clock.enterBackground.adShown = clock.adShown := by
    rw [enterBackground]
    split <;> exact ⟨rfl, rfl⟩
  have still : ¬ clock.enterBackground.Live := by
    rintro ⟨-, -, front⟩
    cases front
  refine retimed_ticking ticking same ?_
  rw [if_neg still]
  cases shown : clock.adShown with
  | true => simpa [enterBackground, shown] using covered_timers ticking shown
  | false => simpa [enterBackground, shown, invalidate] using ticking_invalidated ticking

theorem tap_try_again_decides (draw : MapPlace) {clock : ClockScene} (ticking : clock.Ticking) :
    ((clock.step (.tapTryAgain draw)).OneClock ↔ clock.ClockGuard (.tapTryAgain draw)) ∧
      (clock.ClockGuard (.tapTryAgain draw) → (clock.step (.tapTryAgain draw)).Ticking) := by
  rw [step, ClockGuard]
  split
  · rename_i shown
    rw [Bool.and_eq_true] at shown
    have decides := try_again_decides draw ticking shown.1
    simpa [shown.1, shown.2] using decides
  · rename_i unseen
    have free : clock.touchable = true → clock.tryAgainShown = true →
        isOver clock.game.scene.trace = true ∧ clock.isPausing = false := fun touched shown =>
      absurd (by simp [touched, shown]) unseen
    exact ⟨iff_of_true (ticking_one_clock ticking) free, fun _ => ticking⟩

theorem active_decides {clock : ClockScene} (ticking : clock.Ticking) :
    (clock.becomeActive.OneClock ↔ clock.ClockGuard .becomeActive) ∧
    (clock.ClockGuard .becomeActive → clock.becomeActive.Ticking) := by
  have same : clock.becomeActive.game = clock.game ∧
      clock.becomeActive.adShown = clock.adShown := by
    rw [becomeActive]
    split <;> exact ⟨rfl, rfl⟩
  cases shown : clock.adShown with
  | true =>
      have after : clock.becomeActive.Ticking := by
        refine retimed_ticking ticking same ?_
        simp [becomeActive, shown, covered_timers ticking shown, Live, ticking.ads shown]
      exact ⟨iff_of_true (ticking_one_clock after) (fun covered => by simp [shown] at covered),
        fun _ => after⟩
  | false =>
      have none := ticking_invalidated ticking
      have timers : clock.becomeActive.runLoop.scheduled = [clock.becomeActive.timer] := by
        simp [becomeActive, shown, schedule, invalidate, none]
      have live : clock.becomeActive.Live ↔ clock.ClockGuard .becomeActive := by
        simp [becomeActive, shown, Live, schedule, invalidate, ClockGuard]
      constructor
      · rw [OneClock, timers, ← live]
        by_cases now : clock.becomeActive.Live <;> simp [now]
      · intro running
        refine retimed_ticking ticking same ?_
        rw [timers, if_pos (live.mpr running)]

/-- From a right clock an event leads to a right one exactly when it meets its guard. -/
theorem step_decides (clock : ClockScene) (event : ClockEvent) (ticking : clock.Ticking) :
    ((clock.step event).OneClock ↔ clock.ClockGuard event) ∧
      (clock.ClockGuard event → (clock.step event).Ticking) := by
  have always (after : (clock.step event).Ticking) (free : clock.ClockGuard event) :
      ((clock.step event).OneClock ↔ clock.ClockGuard event) ∧
        (clock.ClockGuard event → (clock.step event).Ticking) :=
    ⟨iff_of_true (ticking_one_clock after) free, fun _ => after⟩
  cases event with
  | physics playerAt opponentAt contacts =>
      refine always ?_ trivial
      rw [step]
      split
      · exact ticking
      · exact kept_ticking (physics_kept playerAt opponentAt contacts clock) ticking
  | update playerDraw opponentDraw =>
      refine always ?_ trivial
      rw [step]
      split
      · exact ticking
      · exact update_ticking playerDraw opponentDraw clock ticking
  | second =>
      exact always (kept_ticking (game_kept clock _ rfl rfl rfl) ticking) trivial
  | tapPause =>
      refine always ?_ trivial
      rw [step]
      split
      · rename_i shown
        simp only [touchable, Bool.and_eq_true, Bool.not_eq_true'] at shown
        exact pause_ticking ticking shown.2 shown.1.1
      · exact ticking
  | tapTryAgain draw => exact tap_try_again_decides draw ticking
  | showDied =>
      refine always ?_ trivial
      rw [step]
      split
      · exact ticking
      · exact retimed_ticking ticking ⟨rfl, rfl⟩ ticking.timers
  | adLoads => exact always (retimed_ticking ticking ⟨rfl, rfl⟩ ticking.timers) trivial
  | adCloses =>
      exact always ⟨ticking.timers, ticking.hidden, fun shown => by simp [step] at shown,
        ticking.flag⟩ trivial
  | enterBackground => exact always (background_ticking ticking) trivial
  | becomeActive => exact active_decides ticking

theorem load_ticking (signedIn : Bool) (difficulty : Difficulty) (trophy : MapPlace)
    (monsters : List String) : (load signedIn difficulty trophy monsters).Ticking :=
  ⟨rfl, rfl, fun shown => by simp [load, schedule] at shown, rfl⟩

/-- In every run of the single-player scene the clock has one timer while the
    round is running, unpaused and in the foreground and none otherwise, exactly
    when every event of the run meets its guard. -/
theorem one_clock_iff (signedIn : Bool) (difficulty : Difficulty) (trophy : MapPlace)
    (monsters : List String) (events : List ClockEvent) :
    Runs.Always step OneClock (load signedIn difficulty trophy monsters) events ↔
      Runs.Meets step ClockGuard (load signedIn difficulty trophy monsters) events :=
  Runs.always_iff_meets step ClockGuard OneClock Ticking (fun _ => ticking_one_clock)
    step_decides events _ (load_ticking signedIn difficulty trophy monsters)

/-- The game is paused, left and opened again. -/
theorem paused_clock_runs : ¬ ∀ events : List ClockEvent,
    Runs.Always step OneClock (load true .Easy playerTile []) events := by
  intro always
  have paused := always [.tapPause, .enterBackground, .becomeActive] 3
  rw [OneClock, if_neg (by decide)] at paused
  exact absurd paused (by decide)

end ClockScene
end RelicRace
