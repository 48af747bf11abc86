import RelicRace.Game.Layout

/-!
The settings over the life of the app on a device: launches, the main screen, the
settings screen and whole games. A launch starts with the values of the
declarations; what was chosen last, on whichever screen, is loaded again.
-/

namespace RelicRace
open Library

section Preferences
variable {K : Type} [Field K] [LinearOrder K] [FloorRing K] [SquareRoot K]

/-- A launch goes on to the main screen; a game ends anywhere, also with its process. -/
inductive AppEvent (K : Type) [Zero K] [LT K] where
  | launch
  | mainDidLoad
  | settingsDidLoad
  | onJoystickClick (toTheRight : Bool)
  | onMinimapClick (onTheLeft : Bool)
  | onMusicClick (turnOn : Bool)
  | play (manager : TileManager) (frame : SceneFrame K) (solo : Bool)
      (events : List (ScreenEvent K))

namespace AppEvent

def apply (settings : Settings) : AppEvent K → Settings
  | .launch => settings.launch.mainDidLoad
  | .mainDidLoad => settings.mainDidLoad
  | .settingsDidLoad => settings.settingsDidLoad
  | .onJoystickClick toTheRight => settings.setJoystick toTheRight
  | .onMinimapClick onTheLeft => settings.setMinimap onTheLeft
  | .onMusicClick turnOn => settings.setMusic turnOn
  | .play manager frame solo events =>
      (Runs.run (GameScreen.step manager frame)
        (GameScreen.setupGame manager frame (.start settings solo)) events).sounds.settings

/-- The side that a game's settings menu was last asked for. -/
def joystickMove : ScreenEvent K → Option Bool
  | .moveJoystick toTheRight => some toTheRight
  | _ => none

def minimapMove : ScreenEvent K → Option Bool
  | .moveMinimap toTheRight => some (!toTheRight)
  | _ => none

def soundChange : ScreenEvent K → Option Bool
  | .changeSound turnOn => some turnOn
  | _ => none

/-- What the user chose for the joystick, if anything. -/
def joystickChoice : AppEvent K → Option Bool
  | .onJoystickClick toTheRight => some toTheRight
  | .play _ _ _ events => (events.filterMap joystickMove).getLast?
  | _ => none

def minimapChoice : AppEvent K → Option Bool
  | .onMinimapClick onTheLeft => some onTheLeft
  | .play _ _ _ events => (events.filterMap minimapMove).getLast?
  | _ => none

def musicChoice : AppEvent K → Option Bool
  | .onMusicClick turnOn => some turnOn
  | .play _ _ _ events => (events.filterMap soundChange).getLast?
  | _ => none

theorem step_settings (manager : TileManager) (frame : SceneFrame K) (screen : GameScreen K)
    (event : ScreenEvent K) :
    (GameScreen.step manager frame screen event).sounds.settings.joystick_On_The_Right =
        (joystickMove event).getD screen.sounds.settings.joystick_On_The_Right ∧
      (GameScreen.step manager frame screen event).sounds.settings.minimap_On_The_Left =
        (minimapMove event).getD screen.sounds.settings.minimap_On_The_Left ∧
      (GameScreen.step manager frame screen event).sounds.settings.music_Is_On =
        (soundChange event).getD screen.sounds.settings.music_Is_On := by
  cases event with
  | listen =>
      rw [GameScreen.step]
      split
      · rw [(GameScreen.track_eq manager frame screen).2.2.2]
        exact ⟨rfl, rfl, rfl⟩
      · exact ⟨rfl, rfl, rfl⟩
  | tapPause =>
      simp only [GameScreen.step, GameScreen.tapPause, GameScreen.setDisabled]
      split <;> exact ⟨rfl, rfl, rfl⟩
  | changeSound turnOn =>
      simp only [GameScreen.step, GameScreen.changeSound, GameScreen.change_sound_settings]
      exact ⟨rfl, rfl, rfl⟩
  | _ => exact ⟨rfl, rfl, rfl⟩

/-- A game keeps what it finds stored, but for the last choice of each kind in it. -/
theorem play_settings (manager : TileManager) (frame : SceneFrame K) (solo : Bool)
    (events : List (ScreenEvent K)) (settings : Settings) (stored : settings.Stored) :
    (apply settings (.play manager frame solo events)).joystick_On_The_Right =
        (joystickChoice (.play manager frame solo events)).getD settings.joystick_On_The_Right ∧
      (apply settings (.play manager frame solo events)).minimap_On_The_Left =
        (minimapChoice (.play manager frame solo events)).getD settings.minimap_On_The_Left ∧
      (apply settings (.play manager frame solo events)).music_Is_On =
        (musicChoice (.play manager frame solo events)).getD settings.music_Is_On := by
  have same := (GameScreen.setup_hud manager frame (.start settings solo) stored).1
  have start : (Sounds.start settings solo).settings = settings := rfl
  simp only [apply, joystickChoice, minimapChoice, musicChoice, ← List.getLastD_eq_getLast?]
  refine ⟨?_, ?_, ?_⟩
  · rw [Runs.run_last_write (GameScreen.step manager frame)
      (fun screen => screen.sounds.settings.joystick_On_The_Right) joystickMove events
      fun event _ screen => (step_settings manager frame screen event).1, same, start]
  · rw [Runs.run_last_write (GameScreen.step manager frame)
      (fun screen => screen.sounds.settings.minimap_On_The_Left) minimapMove events
      fun event _ screen => (step_settings manager frame screen event).2.1, same, start]
  · rw [Runs.run_last_write (GameScreen.step manager frame)
      (fun screen => screen.sounds.settings.music_Is_On) soundChange events
      fun event _ screen => (step_settings manager frame screen event).2.2, same, start]

/-- With stored settings a launch up to the main screen changes nothing. -/
theorem launch_stored (settings : Settings) (stored : settings.Stored) :
    settings.launch.mainDidLoad = settings := by
  obtain ⟨joystick, minimap, music⟩ := stored
  simp [Settings.mainDidLoad, Settings.launch, Settings.load, UserDefaults.bool, joystick, minimap,
    music]

theorem apply_choices (settings : Settings) (event : AppEvent K) (stored : settings.Stored) :
    (apply settings event).joystick_On_The_Right =
        (joystickChoice event).getD settings.joystick_On_The_Right ∧
      (apply settings event).minimap_On_The_Left =
        (minimapChoice event).getD settings.minimap_On_The_Left ∧
      (apply settings event).music_Is_On = (musicChoice event).getD settings.music_Is_On := by
  cases event with
  | launch =>
      rw [apply, launch_stored settings stored]
      exact ⟨rfl, rfl, rfl⟩
  | mainDidLoad =>
      rw [apply, Settings.main_did_load_stored settings stored]
      exact ⟨rfl, rfl, rfl⟩
  | settingsDidLoad =>
      rw [apply, Settings.settings_did_load_stored settings stored]
      exact ⟨rfl, rfl, rfl⟩
  | onJoystickClick toTheRight => exact ⟨rfl, rfl, rfl⟩
  | onMinimapClick onTheLeft => exact ⟨rfl, rfl, rfl⟩
  | onMusicClick turnOn => exact ⟨rfl, rfl, rfl⟩
  | play manager frame solo events => exact play_settings manager frame solo events settings stored

variable [IsStrictOrderedRing K]

theorem apply_stored (settings : Settings) (event : AppEvent K) (stored : settings.Stored) :
    (apply settings event).Stored := by
  cases event with
  | launch =>
      rw [apply, launch_stored settings stored]
      exact stored
  | mainDidLoad =>
      rw [apply, Settings.main_did_load_stored settings stored]
      exact stored
  | settingsDidLoad =>
      rw [apply, Settings.settings_did_load_stored settings stored]
      exact stored
  | onJoystickClick toTheRight => exact ⟨rfl, stored.minimap, stored.music⟩
  | onMinimapClick onTheLeft => exact ⟨stored.joystick, rfl, stored.music⟩
  | onMusicClick turnOn => exact ⟨stored.joystick, stored.minimap, rfl⟩
  | play manager frame solo events =>
      exact (Runs.run_keeps (GameScreen.step manager frame) GameScreen.AsSet
        (GameScreen.step_as_set manager frame) events _
        (GameScreen.setup_as_set manager frame (.start settings solo) stored)).stored

/-- Whatever a device has stored, from its first launch on every setting is the one the
    user chose last, on whichever screen, or the one the launch found; the values are
    stored at every moment, and the next launch finds them. -/
theorem settings_survive (settings : Settings) (events : List (AppEvent K)) :
    (Runs.run apply settings.launch.mainDidLoad events).Stored ∧
      (Runs.run apply settings.launch.mainDidLoad events).launch.mainDidLoad =
        Runs.run apply settings.launch.mainDidLoad events ∧
      (Runs.run apply settings.launch.mainDidLoad events).joystick_On_The_Right =
        (events.filterMap joystickChoice).getLastD
          settings.launch.mainDidLoad.joystick_On_The_Right ∧
      (Runs.run apply settings.launch.mainDidLoad events).minimap_On_The_Left =
        (events.filterMap minimapChoice).getLastD
          settings.launch.mainDidLoad.minimap_On_The_Left ∧
      (Runs.run apply settings.launch.mainDidLoad events).music_Is_On =
        (events.filterMap musicChoice).getLastD settings.launch.mainDidLoad.music_Is_On := by
  have start := Settings.launched_stored settings
  have stored : (Runs.run apply settings.launch.mainDidLoad events).Stored :=
    Runs.run_keeps apply Settings.Stored apply_stored events _ start
  refine ⟨stored, launch_stored _ stored, ?_, ?_, ?_⟩
  · exact Runs.kept_last_write apply Settings.Stored apply_stored _ joystickChoice
      (fun state event kept => (apply_choices state event kept).1) events _ start
  · exact Runs.kept_last_write apply Settings.Stored apply_stored _ minimapChoice
      (fun state event kept => (apply_choices state event kept).2.1) events _ start
  · exact Runs.kept_last_write apply Settings.Stored apply_stored _ musicChoice
      (fun state event kept => (apply_choices state event kept).2.2) events _ start

end AppEvent
end Preferences

/-- The joystick is moved in a game that does not end before the next launch. -/
theorem settings_survive_launch :
    (Runs.run AppEvent.apply (Settings.launch { data := ⟨some true, none, none⟩ }).mainDidLoad
      [.play .empty SceneFrame.realUnit true [.moveJoystick false], .launch]).Stored ∧
    (Runs.run AppEvent.apply (Settings.launch { data := ⟨some true, none, none⟩ }).mainDidLoad
      [.play .empty SceneFrame.realUnit true [.moveJoystick false],
        .launch]).joystick_On_The_Right = false := by
  obtain ⟨stored, -, joystick, -, -⟩ := AppEvent.settings_survive
    { data := ⟨some true, none, none⟩ }
    [.play .empty SceneFrame.realUnit true [.moveJoystick false], .launch]
  exact ⟨stored, joystick⟩

end RelicRace
