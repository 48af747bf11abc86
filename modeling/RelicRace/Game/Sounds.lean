import RelicRace.Game.Settings

/-!
The background music of a game screen and the looped footsteps. The screen starts
and stops the music as it appears and disappears, the switch of the settings menu
while it is shown; an app that enters the background stops it too, and nothing
starts it when the app is active again.
-/

namespace RelicRace
open Library

/-- `music` is the player of the screen's `soundController`; `solo` tells the
    `GameViewController` from the `PvPViewController`. -/
structure Sounds where
  settings : Settings
  solo : Bool
  shown : Bool := false
  music : Bool := false
  footsteps : Bool := false

namespace Sounds

def play (sounds : Sounds) : Sounds := { sounds with music := true }

def stop (sounds : Sounds) : Sounds := { sounds with music := false }

/-- `viewWillAppear` of a `GameViewController`, `viewDidAppear` of a `PvPViewController`. -/
def appear (sounds : Sounds) : Sounds :=
  let sounds := { sounds with shown := true }
  if sounds.settings.music_Is_On then sounds.play else sounds

def disappear (sounds : Sounds) : Sounds :=
  let sounds := { sounds with shown := false }
  if sounds.settings.music_Is_On then sounds.stop else sounds

/-- `changeSound(turnOn:)`; all audio nodes are stopped at its end. -/
def changeSound (turnOn : Bool) (sounds : Sounds) : Sounds :=
  let sounds :=
    if turnOn then if !sounds.settings.music_Is_On then sounds.play else sounds
    else sounds.stop
  { sounds with settings := sounds.settings.setMusic turnOn, footsteps := false }

/-- `applicationDidEnterBackground`, which looks for a `GameViewController` on top. -/
def didEnterBackground (sounds : Sounds) : Sounds :=
  if sounds.solo && sounds.shown then
    if sounds.settings.music_Is_On then sounds.stop else sounds
  else sounds

/-- The sound of `animateWalk`. -/
def walk (moving : Bool) (sounds : Sounds) : Sounds :=
  { sounds with footsteps := moving && sounds.settings.music_Is_On }

/-- What happens to the sounds of one screen. The main screen and the settings screen
    are used while it is not shown. -/
inductive Event where
  | appear
  | disappear
  | changeSound (turnOn : Bool)
  | mainDidLoad
  | settingsDidLoad
  | onMusicClick (turnOn : Bool)
  | didEnterBackground
  | didBecomeActive
  | walk (moving : Bool)

def step (sounds : Sounds) : Event → Sounds
  | .appear => sounds.appear
  | .disappear => sounds.disappear
  | .changeSound turnOn => if sounds.shown then sounds.changeSound turnOn else sounds
  | .mainDidLoad =>
      if sounds.shown then sounds else { sounds with settings := sounds.settings.mainDidLoad }
  | .settingsDidLoad =>
      if sounds.shown then sounds else { sounds with settings := sounds.settings.settingsDidLoad }
  | .onMusicClick turnOn =>
      if sounds.shown then sounds else { sounds with settings := sounds.settings.setMusic turnOn }
  | .didEnterBackground => sounds.didEnterBackground
  -- `applicationDidBecomeActive` sets the timer and nothing of the sounds.
  | .didBecomeActive => sounds
  | .walk moving => sounds.walk moving

/-- The music plays when and only when the screen is shown with the music on. -/
def Follows (sounds : Sounds) : Prop :=
  sounds.music = (sounds.shown && sounds.settings.music_Is_On)

/-- The app does not go to the background out of a solo game whose music is on. -/
def StaysInFront (sounds : Sounds) : Event → Prop
  | .didEnterBackground =>
      ¬ (sounds.solo = true ∧ sounds.shown = true ∧ sounds.settings.music_Is_On = true)
  | _ => True

/-- The music is never heard from a screen that is not shown or is switched off. -/
def Discreet (sounds : Sounds) : Prop :=
  sounds.music = true → sounds.shown = true ∧ sounds.settings.music_Is_On = true

/-- Before the screen appears. -/
def start (settings : Settings) (solo : Bool) : Sounds := { settings, solo }

/-- A solo game on a device that has stored nothing, after the main screen. -/
def fresh : Sounds := start (Settings.mainDidLoad { data := ⟨none, none, none⟩ }) true

theorem start_silent (settings : Settings) (solo : Bool) :
    (start settings solo).Follows ∧ (start settings solo).Discreet := by
  simp [start, Follows, Discreet]

/-- A screen that is not shown keeps silent whatever its settings become. -/
theorem unshown_discreet (sounds : Sounds) (settings : Settings) (discreet : sounds.Discreet) :
    (if sounds.shown then sounds else { sounds with settings }).Discreet := by
  split
  · exact discreet
  · rename_i unshown
    intro playing
    exact absurd (discreet playing).1 unshown

theorem step_discreet (sounds : Sounds) (event : Event) (discreet : sounds.Discreet) :
    (sounds.step event).Discreet := by
  cases event with
  | appear =>
      cases on : sounds.settings.music_Is_On
      · simpa [step, appear, on, Discreet] using discreet
      · simp [step, appear, on, Discreet, play]
  | disappear =>
      cases on : sounds.settings.music_Is_On
      · simpa [step, disappear, on, Discreet] using discreet
      · simp [step, disappear, on, Discreet, stop]
  | changeSound turnOn =>
      rw [step]
      split
      · rename_i shown
        cases turnOn <;> simp [changeSound, Discreet, Settings.setMusic, stop, shown]
        split <;> simp [play, shown]
      · exact discreet
  | mainDidLoad => exact unshown_discreet sounds _ discreet
  | settingsDidLoad => exact unshown_discreet sounds _ discreet
  | onMusicClick turnOn => exact unshown_discreet sounds _ discreet
  | didEnterBackground =>
      rw [step, didEnterBackground]
      split_ifs
      · simp [Discreet, stop]
      · exact discreet
      · exact discreet
  | didBecomeActive => exact discreet
  | walk moving => exact discreet

theorem unshown_follows (sounds : Sounds) (settings : Settings) (follows : sounds.Follows) :
    (if sounds.shown then sounds else { sounds with settings }).Follows := by
  split
  · exact follows
  · rename_i unshown
    simpa [Follows, unshown] using follows

/-- Only the way to the background takes the music out of step with its switch. -/
theorem step_follows (sounds : Sounds) (event : Event) (follows : sounds.Follows) :
    (sounds.step event).Follows ↔ sounds.StaysInFront event := by
  cases event with
  | appear =>
      refine iff_of_true ?_ trivial
      cases on : sounds.settings.music_Is_On
      · simpa [step, appear, on, Follows] using follows
      · simp [step, appear, on, Follows, play]
  | disappear =>
      refine iff_of_true ?_ trivial
      cases on : sounds.settings.music_Is_On
      · simpa [step, disappear, on, Follows] using follows
      · simp [step, disappear, on, Follows, stop]
  | changeSound turnOn =>
      refine iff_of_true ?_ trivial
      rw [step]
      split
      · rename_i shown
        cases turnOn
        · simp [changeSound, Follows, Settings.setMusic, stop]
        · cases on : sounds.settings.music_Is_On
          · simp [changeSound, Follows, Settings.setMusic, play, on, shown]
          · simpa [changeSound, Follows, Settings.setMusic, on, shown] using follows
      · exact follows
  | mainDidLoad => exact iff_of_true (unshown_follows sounds _ follows) trivial
  | settingsDidLoad => exact iff_of_true (unshown_follows sounds _ follows) trivial
  | onMusicClick turnOn => exact iff_of_true (unshown_follows sounds _ follows) trivial
  | didEnterBackground =>
      rw [step, didEnterBackground, StaysInFront]
      split_ifs with front on
      · rw [Bool.and_eq_true] at front
        simp [Follows, stop, front, on]
      · exact iff_of_true follows fun leaves => on leaves.2.2
      · rw [Bool.and_eq_true] at front
        exact iff_of_true follows fun leaves => front ⟨leaves.1, leaves.2.1⟩
  | didBecomeActive => exact iff_of_true follows trivial
  | walk moving => exact iff_of_true follows trivial

/-- From the launch on, in every state of every run the music plays only from a
    screen that is shown with its music on; and it plays in all these states exactly
    when the app never goes to the background from a solo game with its music on. -/
theorem music_follows_switch_iff (settings : Settings) (solo : Bool) (events : List Event) :
    Runs.Always step Discreet (start settings solo) events ∧
      (Runs.Always step Follows (start settings solo) events ↔
        Runs.Meets step StaysInFront (start settings solo) events) := by
  constructor
  · intro count
    exact Runs.run_keeps step Discreet step_discreet _ _ (start_silent settings solo).2
  · exact Runs.always_iff_meets step StaysInFront Follows Follows (fun _ follows => follows)
      (fun sounds event follows =>
        ⟨step_follows sounds event follows, (step_follows sounds event follows).mpr⟩)
      events _ (start_silent settings solo).1

end Sounds
end RelicRace
