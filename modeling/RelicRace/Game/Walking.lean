import RelicRace.Game.Screen

/-!
The joystick and the walking animation over a whole game. Refreshes of the display
move the player no faster than the substrate is wide, and not at all while the
joystick is disabled. `prevDir` outlives a stop, so that a player who goes on in the
direction of before is not animated.
-/

namespace RelicRace
open Library

section Walking
variable {K : Type}

namespace GameScreen

/-- What the walking animation depends on: the handler of the stick that stops, and the
    direction of every tick. -/
inductive WalkMark where
  | stopped
  | walked (direction : Direction)
  deriving DecidableEq

/-- The direction of the last tick, stops left out. -/
def heading (marks : List WalkMark) : Option Direction :=
  marks.foldl (fun last mark =>
    match mark with
    | .stopped => last
    | .walked direction => some direction) none

/-- The heading has changed to a direction, and since then there were only ticks in it. -/
def WalksOn (direction : Direction) (marks : List WalkMark) : Prop :=
  ∃ older newer, marks = older ++ .walked direction :: newer ∧
    (∀ mark ∈ newer, mark = .walked direction) ∧ heading older ≠ some direction

theorem heading_stopped (marks : List WalkMark) :
    heading (marks ++ [.stopped]) = heading marks := by
  simp [heading]

theorem heading_walked (marks : List WalkMark) (direction : Direction) :
    heading (marks ++ [.walked direction]) = some direction := by
  simp [heading]

theorem walks_on_heading (direction : Direction) (marks : List WalkMark)
    (walks : WalksOn direction marks) : heading marks = some direction := by
  obtain ⟨older, newer, rfl, same, -⟩ := walks
  induction newer using List.reverseRecOn with
  | nil => exact heading_walked older direction
  | append_singleton others last ih =>
      rw [same last (by simp), ← List.cons_append, ← List.append_assoc]
      exact heading_walked _ direction

theorem walks_on_stopped (direction : Direction) (marks : List WalkMark) :
    ¬ WalksOn direction (marks ++ [.stopped]) := by
  rintro ⟨older, newer, split, same, -⟩
  cases newer using List.reverseRecOn with
  | nil => simpa using (List.append_inj' split rfl).2
  | append_singleton others last =>
      rw [← List.cons_append, ← List.append_assoc] at split
      have final := (List.append_inj' split rfl).2
      rw [same last (by simp)] at final
      simp at final

theorem walks_on_walked (direction next : Direction) (marks : List WalkMark) :
    WalksOn direction (marks ++ [.walked next]) ↔
      direction = next ∧ (heading marks ≠ some next ∨ WalksOn next marks) := by
  constructor
  · rintro ⟨older, newer, split, same, turned⟩
    cases newer using List.reverseRecOn with
    | nil =>
        obtain ⟨rfl, last⟩ := List.append_inj' split rfl
        obtain rfl : next = direction := by simpa using last
        exact ⟨rfl, .inl turned⟩
    | append_singleton others last =>
        have walked := same last (by simp)
        rw [← List.cons_append, ← List.append_assoc] at split
        obtain ⟨rest, final⟩ := List.append_inj' split rfl
        obtain rfl : next = direction := by simpa [walked] using final
        exact ⟨rfl, .inr ⟨older, others, rest, fun mark member => same mark (by simp [member]),
          turned⟩⟩
  · rintro ⟨rfl, turned | ⟨older, newer, rfl, same, turned⟩⟩
    · exact ⟨marks, [], rfl, by simp, turned⟩
    · refine ⟨older, newer ++ [.walked direction], by simp, ?_, turned⟩
      intro mark member
      rcases List.mem_append.mp member with earlier | last
      · exact same mark earlier
      · simpa using last

/-- The direction of the last tick is remembered, and the animation that runs is that of
    a direction in which the player walks on. -/
structure Recorded (screen : GameScreen K) (marks : List WalkMark) : Prop where
  heading : screen.prevDir = GameScreen.heading marks
  walk : ∀ direction, direction ≠ .none → (screen.walk = direction ↔ WalksOn direction marks)

theorem stopped_recorded (screen : GameScreen K) (marks : List WalkMark)
    (recorded : Recorded screen marks) (joystick : AnalogJoystick K) (prevPos : Option (CGPoint K))
    (sounds : Sounds) (isPausing : Bool) :
    Recorded { screen with joystick, prevPos, sounds, isPausing, walk := .none }
      (marks ++ [.stopped]) := by
  constructor
  · rw [heading_stopped]
    exact recorded.heading
  · intro direction real
    exact iff_of_false (fun still => real still.symm) (walks_on_stopped direction marks)

/-- Footsteps are heard of a player who is animated, with the sounds on. -/
def FootstepsFit (screen : GameScreen K) : Prop :=
  screen.sounds.footsteps = true →
    screen.walk ≠ .none ∧ screen.sounds.settings.music_Is_On = true

theorem animated_fits (screen : GameScreen K) (direction : Direction) :
    (screen.animateWalk direction).FootstepsFit := by
  intro heard
  simpa [animateWalk, Sounds.walk] using heard

/-- Neither the physics engine nor a monster moves the player. -/
def Undisturbed : ScreenEvent K → Prop
  | .displaced _ => False
  | .monsterHit => False
  | _ => True

/-- The taps that take the lock off a disabled joystick. -/
def KeepsLocked (screen : GameScreen K) : ScreenEvent K → Prop
  | .tapPause => screen.isPausing = false
  | .tryAgain => False
  | event => Undisturbed event

theorem keeps_undisturbed (screen : GameScreen K) (event : ScreenEvent K)
    (keeps : screen.KeepsLocked event) : Undisturbed event := by
  cases event with
  | tapPause => trivial
  | tryAgain => exact keeps.elim
  | _ => exact keeps

variable [Field K] [LinearOrder K]

/-- The player after the movement of a tick. -/
def tickTarget (screen : GameScreen K) : CGPoint K :=
  ⟨screen.player.x + screen.joystick.velocity.x * velocityMultiplier,
    screen.player.y + screen.joystick.velocity.y * velocityMultiplier⟩

def walkMark (screen : GameScreen K) : ScreenEvent K → Option WalkMark
  | .touchesEnded => some .stopped
  | .listen =>
      if screen.joystick.tracking then
        some (.walked (selectCorrectWalk screen.prevPos screen.tickTarget))
      else none
  | .tapPause => if screen.isPausing then none else some .stopped
  | .endGame => some .stopped
  | _ => none

section Steps
variable [FloorRing K] (manager : TileManager) (frame : SceneFrame K)

/-- What a tick does to the player and to the animation. -/
theorem track_walk (screen : GameScreen K) :
    (screen.track manager frame).player = screen.tickTarget ∧
      (screen.track manager frame).joystick = screen.joystick ∧
      (screen.track manager frame).prevDir =
        some (selectCorrectWalk screen.prevPos screen.tickTarget) ∧
      (screen.track manager frame).walk =
        if some (selectCorrectWalk screen.prevPos screen.tickTarget) ≠ screen.prevDir then
          selectCorrectWalk screen.prevPos screen.tickTarget
        else screen.walk := by
  by_cases turned : some (selectCorrectWalk screen.prevPos screen.tickTarget) ≠ screen.prevDir
  · rw [if_pos turned]
    simp only [tickTarget] at turned
    simp only [track, if_pos turned]
    exact ⟨rfl, rfl, rfl, rfl⟩
  · rw [if_neg turned]
    simp only [tickTarget] at turned
    simp only [track, if_neg turned]
    exact ⟨rfl, rfl, rfl, rfl⟩

theorem tracked_recorded (screen : GameScreen K) (marks : List WalkMark)
    (recorded : Recorded screen marks) :
    Recorded (screen.track manager frame)
      (marks ++ [.walked (selectCorrectWalk screen.prevPos screen.tickTarget)]) := by
  obtain ⟨-, -, remembered, animated⟩ := track_walk manager frame screen
  constructor
  · rw [remembered, heading_walked]
  · intro direction real
    rw [animated, walks_on_walked, ← recorded.heading]
    by_cases turned : some (selectCorrectWalk screen.prevPos screen.tickTarget) ≠ screen.prevDir
    · rw [if_pos turned]
      exact ⟨fun same => ⟨same.symm, .inl (Ne.symm turned)⟩, fun both => both.1.symm⟩
    · rw [if_neg turned, recorded.walk direction real]
      have same := not_not.mp turned
      constructor
      · intro walks
        have last := walks_on_heading direction marks walks
        rw [← recorded.heading, ← same] at last
        obtain rfl := Option.some.inj last
        exact ⟨rfl, .inr walks⟩
      · rintro ⟨rfl, other | walks⟩
        · exact absurd same.symm other
        · exact walks

variable [SquareRoot K]

theorem step_recorded (screen : GameScreen K) (marks : List WalkMark) (event : ScreenEvent K)
    (recorded : Recorded screen marks) :
    Recorded (step manager frame screen event) (marks ++ (screen.walkMark event).toList) := by
  cases event with
  | touchesEnded => exact stopped_recorded screen marks recorded _ _ _ _
  | listen =>
      rw [step, walkMark]
      split
      · exact tracked_recorded manager frame screen marks recorded
      · simpa using recorded
  | tapPause =>
      simp only [step, tapPause, setDisabled, walkMark]
      cases screen.isPausing with
      | true => simpa using ⟨recorded.heading, recorded.walk⟩
      | false => exact stopped_recorded screen marks recorded _ _ _ _
  | endGame => exact stopped_recorded screen marks recorded _ _ _ _
  | touchesBegan onStick => simpa [walkMark] using ⟨recorded.heading, recorded.walk⟩
  | touchesMoved locations => simpa [walkMark] using ⟨recorded.heading, recorded.walk⟩
  | displaced position => simpa [walkMark] using ⟨recorded.heading, recorded.walk⟩
  | monsterHit => simpa [walkMark] using ⟨recorded.heading, recorded.walk⟩
  | goToSettings => simpa [walkMark] using ⟨recorded.heading, recorded.walk⟩
  | moveJoystick toTheRight => simpa [walkMark] using ⟨recorded.heading, recorded.walk⟩
  | moveMinimap toTheRight => simpa [walkMark] using ⟨recorded.heading, recorded.walk⟩
  | changeSound turnOn => simpa [walkMark] using ⟨recorded.heading, recorded.walk⟩
  | tryAgain => simpa [walkMark] using ⟨recorded.heading, recorded.walk⟩

theorem step_footsteps (screen : GameScreen K) (event : ScreenEvent K)
    (fits : screen.FootstepsFit) : (step manager frame screen event).FootstepsFit := by
  cases event with
  | touchesEnded => exact animated_fits _ .none
  | listen =>
      rw [step]
      split
      · simp only [track]
        split
        · exact animated_fits { screen with player := screen.tickTarget } _
        · exact fits
      · exact fits
  | tapPause =>
      simp only [step, tapPause, setDisabled]
      cases screen.isPausing with
      | true => exact fits
      | false => exact animated_fits screen .none
  | endGame => exact animated_fits screen .none
  | changeSound turnOn =>
      intro heard
      simp [step, changeSound, Sounds.changeSound] at heard
  | _ => exact fits

/-- After every run the player is shown walking in a direction exactly when its heading
    has changed to that direction and it has not stopped since; footsteps are heard only
    while it is shown walking with the sounds on. -/
theorem walking_shown_iff (settings : Settings) (solo : Bool) (events : List (ScreenEvent K)) :
    (∀ direction, direction ≠ .none →
      ((Runs.run (step manager frame) (setupGame manager frame (.start settings solo))
          events).walk = direction ↔
        WalksOn direction (Runs.history (step manager frame) walkMark
          (setupGame manager frame (.start settings solo)) events))) ∧
    Runs.Always (step manager frame) FootstepsFit
      (setupGame manager frame (.start settings solo)) events := by
  constructor
  · have start : Recorded (setupGame manager frame (.start settings solo)) [] := by
      refine ⟨rfl, fun direction real => iff_of_false (fun still => real still.symm) ?_⟩
      rintro ⟨older, newer, split, -, -⟩
      simp at split
    have recorded := Runs.history_keeps (step manager frame) walkMark Recorded
      (step_recorded manager frame) events _ [] start
    rw [List.nil_append] at recorded
    exact recorded.walk
  · intro count
    apply Runs.run_keeps (step manager frame) FootstepsFit (step_footsteps manager frame)
    intro heard
    have silent : (setupGame manager frame (.start settings solo)).sounds.footsteps = false := rfl
    rw [silent] at heard
    cases heard

/-! ### How far the joystick moves the player -/

theorem step_player (screen : GameScreen K) (event : ScreenEvent K)
    (undisturbed : Undisturbed event) :
    (step manager frame screen event).player =
      match event with
      | .listen => if screen.joystick.tracking then screen.tickTarget else screen.player
      | _ => screen.player := by
  cases event with
  | listen =>
      rw [step]
      split
      · exact (track_walk manager frame screen).1
      · rfl
  | tapPause =>
      simp only [step, tapPause, setDisabled]
      split <;> rfl
  | displaced position => exact undisturbed.elim
  | monsterHit => exact undisturbed.elim
  | _ => rfl

/-- No touch, no refresh and no other tap takes the lock off the joystick. -/
theorem locked_step (screen : GameScreen K) (event : ScreenEvent K)
    (disabled : screen.joystick.disabled = true) (keeps : screen.KeepsLocked event) :
    (step manager frame screen event).joystick.disabled = true := by
  cases event with
  | touchesBegan onStick => simp [step, AnalogJoystick.touchesBegan, disabled]
  | touchesMoved locations =>
      exact (AnalogJoystick.moved_keeps locations screen.joystick).2.1.trans disabled
  | touchesEnded => exact disabled
  | listen =>
      rw [step]
      split
      · rw [(track_walk manager frame screen).2.1]
        exact disabled
      · exact disabled
  | displaced position => exact keeps.elim
  | monsterHit => exact keeps.elim
  | tapPause =>
      have unpaused : screen.isPausing = false := keeps
      simp [step, tapPause, setDisabled, unpaused, resetStick, animateWalk,
        AnalogJoystick.resetStick]
  | goToSettings => exact disabled
  | moveJoystick toTheRight => exact disabled
  | moveMinimap toTheRight => exact disabled
  | changeSound turnOn => exact disabled
  | endGame => rfl
  | tryAgain => exact keeps.elim

end Steps

section Limits
variable [IsStrictOrderedRing K]

/-- The stick is sound and has the radius that it was spawned with. -/
def SoundStick (screen : GameScreen K) : Prop :=
  screen.joystick.Sound ∧ screen.joystick.radius = AnalogJoystick.spawnRadius

theorem set_disabled_sound (screen : GameScreen K) (isDisabled : Bool)
    (sound : screen.SoundStick) : (screen.setDisabled isDisabled).SoundStick := by
  cases isDisabled with
  | true => exact ⟨AnalogJoystick.reset_sound screen.joystick true sound.1, sound.2⟩
  | false => exact ⟨AnalogJoystick.enable_sound screen.joystick sound.1, sound.2⟩

/-- The target is at most the distance away from the source. -/
def Reaches (distance : K) (source target : CGPoint K) : Prop :=
  0 ≤ distance ∧ (target.x - source.x) * (target.x - source.x) +
    (target.y - source.y) * (target.y - source.y) ≤ distance * distance

theorem reaches_trans (first second : K) (source middle target : CGPoint K)
    (near : Reaches first source middle) (further : Reaches second middle target) :
    Reaches (first + second) source target := by
  obtain ⟨positive, within⟩ := near
  obtain ⟨positive', within'⟩ := further
  let a := middle.x - source.x
  let b := middle.y - source.y
  let c := target.x - middle.x
  let d := target.y - middle.y
  have first' : 0 ≤ a * a + b * b := add_nonneg (mul_self_nonneg a) (mul_self_nonneg b)
  -- The inner product of the two ways is at most the product of their lengths.
  have square : (a * c + b * d) ^ 2 ≤ (first * second) ^ 2 := calc
    (a * c + b * d) ^ 2 = (a * a + b * b) * (c * c + d * d) - (a * d - b * c) ^ 2 := by ring
    _ ≤ (a * a + b * b) * (c * c + d * d) := sub_le_self _ (sq_nonneg _)
    _ ≤ (first * first) * (second * second) :=
        mul_le_mul within within' (add_nonneg (mul_self_nonneg c) (mul_self_nonneg d))
          (mul_self_nonneg first)
    _ = (first * second) ^ 2 := by ring
  have inner : a * c + b * d ≤ first * second :=
    le_of_sq_le_sq square (mul_nonneg positive positive')
  refine ⟨add_nonneg positive positive', ?_⟩
  calc (target.x - source.x) * (target.x - source.x) + (target.y - source.y) *
        (target.y - source.y)
      = (a * a + b * b) + (c * c + d * d) + 2 * (a * c + b * d) := by ring
    _ ≤ first * first + second * second + 2 * (first * second) := by linarith
    _ = (first + second) * (first + second) := by ring

/-- In a refresh the player is moved by a tenth of the substrate's radius at most. -/
theorem tick_reaches (screen : GameScreen K) (sound : screen.SoundStick) :
    Reaches (AnalogJoystick.spawnRadius * velocityMultiplier) screen.player screen.tickTarget := by
  have slow : (0 : K) ≤ velocityMultiplier := by
    simp only [velocityMultiplier]
    positivity
  obtain ⟨⟨-, -, held, wide⟩, radius⟩ := sound
  rw [radius] at held wide
  refine ⟨mul_nonneg wide slow, ?_⟩
  have scaled := mul_le_mul_of_nonneg_right held (mul_self_nonneg (velocityMultiplier : K))
  simp only [tickTarget, add_sub_cancel_left]
  calc _ = (screen.joystick.velocity.x * screen.joystick.velocity.x +
          screen.joystick.velocity.y * screen.joystick.velocity.y) *
            (velocityMultiplier * velocityMultiplier) := by ring
    _ ≤ _ := scaled
    _ = _ := by ring

variable [FloorRing K] (manager : TileManager) (frame : SceneFrame K)

theorem setup_sound (sounds : Sounds) : (setupGame manager frame sounds).SoundStick :=
  ⟨AnalogJoystick.make_sound _ (by simp only [AnalogJoystick.spawnRadius]; positivity), rfl⟩

variable [SquareRoot K]

theorem step_sound (screen : GameScreen K) (event : ScreenEvent K) (sound : screen.SoundStick) :
    (step manager frame screen event).SoundStick := by
  cases event with
  | touchesBegan onStick =>
      refine ⟨AnalogJoystick.began_sound onStick screen.joystick sound.1, ?_⟩
      simp only [step, AnalogJoystick.touchesBegan]
      split <;> exact sound.2
  | touchesMoved locations =>
      exact ⟨AnalogJoystick.moved_sound locations screen.joystick sound.1,
        (AnalogJoystick.moved_keeps locations screen.joystick).2.2.trans sound.2⟩
  | touchesEnded =>
      exact ⟨AnalogJoystick.reset_sound screen.joystick screen.joystick.disabled sound.1, sound.2⟩
  | listen =>
      rw [step]
      split
      · rw [SoundStick, (track_walk manager frame screen).2.1]
        exact sound
      · exact sound
  | tapPause => exact set_disabled_sound screen _ sound
  | endGame => exact set_disabled_sound screen true sound
  | tryAgain => exact set_disabled_sound screen false sound
  | _ => exact sound

def isListen : ScreenEvent K → Bool
  | .listen => true
  | _ => false

theorem step_reaches (screen : GameScreen K) (event : ScreenEvent K)
    (undisturbed : Undisturbed event) (sound : screen.SoundStick) :
    Reaches ((if isListen event then 1 else 0) * (AnalogJoystick.spawnRadius * velocityMultiplier))
      screen.player (step manager frame screen event).player := by
  have stays : Reaches (0 : K) screen.player screen.player := ⟨le_rfl, by simp⟩
  rw [step_player manager frame screen event undisturbed]
  cases event with
  | listen =>
      simp only [isListen, if_true, one_mul]
      split
      · exact tick_reaches screen sound
      · exact ⟨(tick_reaches screen sound).1, by simpa using mul_self_nonneg _⟩
  | _ => simpa [isListen] using stays

theorem run_reaches (events : List (ScreenEvent K))
    (undisturbed : ∀ event ∈ events, Undisturbed event) (screen : GameScreen K)
    (sound : screen.SoundStick) :
    Reaches ((events.countP isListen : K) * (AnalogJoystick.spawnRadius * velocityMultiplier))
      screen.player (Runs.run (step manager frame) screen events).player := by
  induction events generalizing screen with
  | nil => exact ⟨by simp, by simp⟩
  | cons event rest ih =>
      have first := step_reaches manager frame screen event
        (undisturbed event List.mem_cons_self) sound
      have later := ih (fun other member => undisturbed other (List.mem_cons_of_mem event member))
        (step manager frame screen event) (step_sound manager frame screen event sound)
      have both := reaches_trans _ _ _ _ _ first later
      rw [← add_mul] at both
      rw [List.countP_cons]
      push_cast
      rwa [add_comm] at both

/-- While the lock stays on, the player stays where it is. -/
theorem locked_run (events : List (ScreenEvent K)) (screen : GameScreen K)
    (sound : screen.SoundStick) (disabled : screen.joystick.disabled = true)
    (keeps : Runs.Meets (step manager frame) KeepsLocked screen events) :
    (Runs.run (step manager frame) screen events).player = screen.player := by
  have kept := Runs.meets_keeps (step manager frame) KeepsLocked
    (fun state => state.SoundStick ∧ state.joystick.disabled = true ∧
      state.player = screen.player) ?_ events screen ⟨sound, disabled, rfl⟩ keeps
  · exact kept.2.2
  · rintro state event ⟨sound, disabled, same⟩ keeps
    refine ⟨step_sound manager frame state event sound,
      locked_step manager frame state event disabled keeps, ?_⟩
    rw [step_player manager frame state event (keeps_undisturbed state event keeps), ← same]
    have idle := sound.1.enabled disabled
    cases event with
    | listen => simp [idle]
    | _ => rfl

/-- From any moment of a game on, as long as neither the engine nor a monster moves the
    player, it gets no further than 16.25 points for each refresh of the display; and
    from a moment at which the joystick is disabled (the game is paused, or its round is
    over) not at all, until a tap resumes the game or asks for another round. -/
theorem player_held (sounds : Sounds) (before after : List (ScreenEvent K)) :
    ((∀ event ∈ after, Undisturbed event) →
      Reaches ((after.countP isListen : K) * (AnalogJoystick.spawnRadius * velocityMultiplier))
        (Runs.run (step manager frame) (setupGame manager frame sounds) before).player
        (Runs.run (step manager frame) (setupGame manager frame sounds) (before ++ after)).player) ∧
    ((Runs.run (step manager frame) (setupGame manager frame sounds)
        before).joystick.disabled = true →
      Runs.Meets (step manager frame) KeepsLocked
        (Runs.run (step manager frame) (setupGame manager frame sounds) before) after →
      (Runs.run (step manager frame) (setupGame manager frame sounds) (before ++ after)).player =
        (Runs.run (step manager frame) (setupGame manager frame sounds) before).player) := by
  have sound := Runs.run_keeps (step manager frame) SoundStick (step_sound manager frame) before _
    (setup_sound manager frame sounds)
  have joined : Runs.run (step manager frame) (setupGame manager frame sounds) (before ++ after) =
      Runs.run (step manager frame)
        (Runs.run (step manager frame) (setupGame manager frame sounds) before) after := by
    simp only [Runs.run, List.foldl_append]
  rw [joined]
  exact ⟨fun undisturbed => run_reaches manager frame after undisturbed _ sound,
    fun disabled keeps => locked_run manager frame after _ sound disabled keeps⟩

end Limits
end GameScreen
end Walking

/-- A touch in a paused game. -/
theorem held_in_pause :
    GameScreen.Reaches (((1 : Nat) : ℝ) * (AnalogJoystick.spawnRadius * velocityMultiplier))
      (Runs.run (GameScreen.step .empty .realUnit) (GameScreen.setupGame .empty .realUnit .fresh)
        [.tapPause]).player
      (Runs.run (GameScreen.step .empty .realUnit) (GameScreen.setupGame .empty .realUnit .fresh)
        ([.tapPause] ++ [.touchesBegan true, .listen])).player ∧
    (Runs.run (GameScreen.step .empty .realUnit) (GameScreen.setupGame .empty .realUnit .fresh)
      ([.tapPause] ++ [.touchesBegan true, .listen])).player =
        (Runs.run (GameScreen.step .empty .realUnit)
          (GameScreen.setupGame .empty .realUnit .fresh) [.tapPause]).player := by
  obtain ⟨near, still⟩ := GameScreen.player_held .empty .realUnit .fresh [.tapPause]
    [.touchesBegan true, .listen]
  exact ⟨near (by simp [GameScreen.Undisturbed]), still rfl ⟨trivial, trivial, trivial⟩⟩

end RelicRace
