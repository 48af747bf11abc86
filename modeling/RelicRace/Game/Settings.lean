import RelicRace.Library.Runs

/-!
The three settings: global variables, their copies in `UserDefaults`, and the
screens that read and write both. The main screen loads them at every launch,
the settings screen when it is opened; the running game changes them too.
-/

namespace RelicRace
open Library

/-- The keys that the app keeps in `UserDefaults.standard`. -/
structure UserDefaults where
  joystickPos : Option Bool
  minimapPos : Option Bool
  musicOn : Option Bool
  deriving DecidableEq

/-- `bool(forKey:)`, false for a key that is not there. -/
def UserDefaults.bool (value : Option Bool) : Bool := value.getD false

/-- The global variables with the values they have at a launch. -/
structure Settings where
  data : UserDefaults
  joystick_On_The_Right : Bool := true
  minimap_On_The_Left : Bool := true
  music_Is_On : Bool := true
  deriving DecidableEq

namespace Settings

/-- A new process: the dictionary is what is left of the one before. -/
def launch (settings : Settings) : Settings := { data := settings.data }

def load (settings : Settings) : Settings :=
  { settings with
    joystick_On_The_Right := UserDefaults.bool settings.data.joystickPos
    minimap_On_The_Left := UserDefaults.bool settings.data.minimapPos
    music_Is_On := UserDefaults.bool settings.data.musicOn }

/-- The branch for missing keys; it leaves the global variables as they are. -/
def storeDefaults (settings : Settings) : Settings :=
  { settings with data := ⟨some true, some true, some true⟩ }

/-- `MainViewController.viewDidLoad`. -/
def mainDidLoad (settings : Settings) : Settings :=
  if settings.data.joystickPos ≠ none ∧ settings.data.minimapPos ≠ none ∧
      settings.data.musicOn ≠ none then settings.load
  else settings.storeDefaults

/-- `SettingsViewController.viewDidLoad`; it does not ask for the third key. -/
def settingsDidLoad (settings : Settings) : Settings :=
  if settings.data.joystickPos ≠ none ∧ settings.data.minimapPos ≠ none then settings.load
  else settings.storeDefaults

/-- `onRightJoystickClick`, `onLeftJoystickClick` and the end of `moveJoystick`. -/
def setJoystick (toTheRight : Bool) (settings : Settings) : Settings :=
  { settings with
    joystick_On_The_Right := toTheRight
    data := { settings.data with joystickPos := some toTheRight } }

/-- `onLeftMinimapClick`, `onRightMinimapClick` and the end of `moveMinimap`. -/
def setMinimap (onTheLeft : Bool) (settings : Settings) : Settings :=
  { settings with
    minimap_On_The_Left := onTheLeft
    data := { settings.data with minimapPos := some onTheLeft } }

/-- `onMusicOnClick`, `onMusicOffClick` and the end of `changeSound`. -/
def setMusic (turnOn : Bool) (settings : Settings) : Settings :=
  { settings with
    music_Is_On := turnOn
    data := { settings.data with musicOn := some turnOn } }

/-- Every global variable is the value that is stored for it. -/
structure Stored (settings : Settings) : Prop where
  joystick : settings.data.joystickPos = some settings.joystick_On_The_Right
  minimap : settings.data.minimapPos = some settings.minimap_On_The_Left
  music : settings.data.musicOn = some settings.music_Is_On

theorem load_stored (settings : Settings) (stored : settings.Stored) :
    settings.load = settings := by
  obtain ⟨joystick, minimap, music⟩ := stored
  simp [load, UserDefaults.bool, joystick, minimap, music]

theorem main_did_load_stored (settings : Settings) (stored : settings.Stored) :
    settings.mainDidLoad = settings := by
  rw [mainDidLoad, if_pos ⟨by simp [stored.joystick], by simp [stored.minimap],
    by simp [stored.music]⟩, load_stored settings stored]

theorem settings_did_load_stored (settings : Settings) (stored : settings.Stored) :
    settings.settingsDidLoad = settings := by
  rw [settingsDidLoad, if_pos ⟨by simp [stored.joystick], by simp [stored.minimap]⟩,
    load_stored settings stored]

/-- Whatever the dictionary holds, the first screen of a launch makes both agree. -/
theorem launched_stored (settings : Settings) : settings.launch.mainDidLoad.Stored := by
  rw [mainDidLoad]
  split
  · rename_i present
    obtain ⟨joystick, minimap, music⟩ := present
    exact ⟨(Option.getD_of_ne_none joystick false).symm,
      (Option.getD_of_ne_none minimap false).symm, (Option.getD_of_ne_none music false).symm⟩
  · exact ⟨rfl, rfl, rfl⟩

end Settings
end RelicRace
