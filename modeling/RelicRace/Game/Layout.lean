import RelicRace.Game.Screen

/-!
The HUD and the settings menu over a whole game. The sides of the HUD and the green
labels follow the settings. The nodes follow the camera; after a monster's hit the
score labels stand where the health panel's offset puts them, until the next tick.
-/

namespace RelicRace
open Library

section Layout
variable {K : Type} [Field K]

/-- An offset on the side where it is declared, or on the other one. -/
def side (declared : Bool) (offset : K) : K := if declared then offset else offset * -1

/-- Every offset has its declared length and the side that the settings ask for. -/
structure HudOffsets.AsSet (settings : Settings) (offsets : HudOffsets K) : Prop where
  joystick : offsets.JOYSTICK_X_OFFSET = side settings.joystick_On_The_Right ((600 : Nat) : K)
  label : offsets.LABEL_OFFSET_X = side settings.joystick_On_The_Right ((600 : Nat) : K)
  minimap : offsets.MINIMAP_OFFSET_X = side settings.minimap_On_The_Left ((600 : Nat) : K)
  display : offsets.DISPLAY_OFFSET_X = side settings.minimap_On_The_Left ((625 : Nat) : K)

namespace Hud

/-! Placing a node changes its position and nothing else. -/

section Places
variable (player : CGPoint K) (hud : Hud K)

@[simp] theorem place_joystick_offsets : (hud.placeJoystick player).offsets = hud.offsets := rfl

@[simp] theorem place_minimap_offsets : (hud.placeMinimap player).offsets = hud.offsets := rfl

@[simp] theorem update_health_offsets : (hud.updateHealthPos player).offsets = hud.offsets := rfl

@[simp] theorem update_score_offsets :
    (hud.updateScoreLabelPos player).offsets = hud.offsets := rfl

@[simp] theorem place_score_offsets : (hud.placeScoreLabels player).offsets = hud.offsets := rfl

@[simp] theorem place_pause_offsets : (hud.placePause player).offsets = hud.offsets := rfl

@[simp] theorem follow_offsets : (hud.follow player).offsets = hud.offsets := by simp [follow]

@[simp] theorem respawn_offsets : (hud.respawn player).offsets = hud.offsets := by simp [respawn]

@[simp] theorem initialize_offsets (settings : Settings) :
    (hud.initializeHudPositions settings player).offsets = hud.offsets.initialized settings := by
  simp [initializeHudPositions]

theorem initialized_as_set (settings : Settings) :
    ((Hud.spawn player).initializeHudPositions settings player).offsets.AsSet settings := by
  rw [initialize_offsets, HudOffsets.initialized]
  cases right : settings.joystick_On_The_Right <;> cases left : settings.minimap_On_The_Left <;>
    exact ⟨by rw [side, right]; rfl, by rw [side, right]; rfl, by rw [side, left]; rfl,
      by rw [side, left]; rfl⟩

end Places

/-- Joystick, minimap, health panel and pause button at their offsets from a point. -/
structure InPlace (centre : CGPoint K) (hud : Hud K) : Prop where
  joystick : hud.joystick =
    ⟨centre.x + hud.offsets.JOYSTICK_X_OFFSET, centre.y - JOYSTICK_Y_OFFSET⟩
  minimap : hud.minimap = ⟨centre.x - hud.offsets.MINIMAP_OFFSET_X, centre.y + MINIMAP_OFFSET_Y⟩
  healthPanel : hud.healthPanel =
    ⟨centre.x + hud.offsets.DISPLAY_OFFSET_X, centre.y + DISPLAY_OFFSET_Y⟩
  pause : hud.pause = ⟨centre.x, centre.y + DISPLAY_OFFSET_Y + ((35 : Nat) : K)⟩

structure LabelsInPlace (centre : CGPoint K) (hud : Hud K) : Prop where
  player : hud.playerScoreLabel =
    ⟨centre.x - hud.offsets.LABEL_OFFSET_X, centre.y - LABEL_OFFSET_Y⟩
  opponent : hud.AIScoreLabel =
    ⟨centre.x - hud.offsets.LABEL_OFFSET_X, centre.y - LABEL_OFFSET_Y - ((75 : Nat) : K)⟩

theorem follow_in_place (centre : CGPoint K) (hud : Hud K) :
    (hud.follow centre).InPlace centre ∧ (hud.follow centre).LabelsInPlace centre := by
  simp only [follow, placeJoystick, placeMinimap, updateHealthPos, updateScoreLabelPos, placePause,
    placeScoreLabels]
  exact ⟨⟨rfl, rfl, rfl, rfl⟩, rfl, rfl⟩

theorem initialized_in_place (centre : CGPoint K) (settings : Settings) :
    ((Hud.spawn centre).initializeHudPositions settings centre).InPlace centre := by
  simp only [spawn, initializeHudPositions, placeJoystick, placeMinimap, updateHealthPos,
    updateScoreLabelPos, placePause, placeScoreLabels]
  exact ⟨rfl, rfl, rfl, rfl⟩

theorem respawn_in_place (centre : CGPoint K) (hud : Hud K) :
    (hud.respawn centre).InPlace centre := by
  simp only [respawn, placeJoystick, placeMinimap, updateHealthPos, updateScoreLabelPos, placePause]
  exact ⟨rfl, rfl, rfl, rfl⟩

variable [LinearOrder K]

theorem move_joystick_in_place (toTheRight : Bool) (centre : CGPoint K) (hud : Hud K)
    (placed : hud.InPlace centre) :
    (hud.moveJoystick toTheRight centre).InPlace centre ∧
      (hud.moveJoystick toTheRight centre).LabelsInPlace centre :=
  ⟨⟨rfl, placed.minimap, placed.healthPanel, placed.pause⟩, rfl, rfl⟩

theorem move_minimap_in_place (toTheRight : Bool) (centre : CGPoint K) (hud : Hud K)
    (placed : hud.InPlace centre) : (hud.moveMinimap toTheRight centre).InPlace centre :=
  ⟨placed.joystick, rfl, rfl, placed.pause⟩

variable [IsStrictOrderedRing K]

theorem turned_side (negative declared : Bool) (offset : K) (positive : 0 < offset) :
    turned negative (side declared offset) = side (!negative) offset := by
  have other : ¬ 0 < -offset := not_lt.mpr (neg_nonpos.mpr positive.le)
  cases negative <;> cases declared <;> simp [turned, side, positive, other, positive.le]

theorem move_joystick_as_set (toTheRight : Bool) (player : CGPoint K) (settings : Settings)
    (hud : Hud K) (set : hud.offsets.AsSet settings) :
    (hud.moveJoystick toTheRight player).offsets.AsSet (settings.setJoystick toTheRight) := by
  have declared := turned_side (!toTheRight) settings.joystick_On_The_Right ((600 : Nat) : K)
    (by norm_num)
  rw [Bool.not_not] at declared
  refine ⟨?_, ?_, set.minimap, set.display⟩
  · exact (congrArg _ set.joystick).trans declared
  · exact (congrArg _ set.label).trans declared

theorem move_minimap_as_set (toTheRight : Bool) (player : CGPoint K) (settings : Settings)
    (hud : Hud K) (set : hud.offsets.AsSet settings) :
    (hud.moveMinimap toTheRight player).offsets.AsSet (settings.setMinimap (!toTheRight)) := by
  refine ⟨set.joystick, set.label, ?_, ?_⟩
  · exact (congrArg _ set.minimap).trans (turned_side toTheRight _ _ (by norm_num))
  · exact (congrArg _ set.display).trans (turned_side toTheRight _ _ (by norm_num))

/-- The offset of the health panel never puts the score labels in their place. -/
theorem respawn_labels (centre : CGPoint K) (settings : Settings) (hud : Hud K)
    (set : hud.offsets.AsSet settings) : ¬ (hud.respawn centre).LabelsInPlace centre := by
  intro placed
  have column : centre.x - hud.offsets.DISPLAY_OFFSET_X =
      centre.x - hud.offsets.LABEL_OFFSET_X := congrArg CGPoint.x placed.player
  rw [sub_right_inj, set.display, set.label] at column
  cases right : settings.joystick_On_The_Right <;> cases left : settings.minimap_On_The_Left <;>
    norm_num [side, right, left] at column

end Hud

namespace GameScreen
variable [LinearOrder K]

/-- The settings menu shows the settings in force. -/
def MenuTruthful (screen : GameScreen K) : Prop :=
  ∀ label, label ∈ screen.greens ↔ label ∈ optionLabels screen.sounds.settings

/-- The global variables are stored and the offsets have the sides that they name. -/
structure AsSet (screen : GameScreen K) : Prop where
  stored : screen.sounds.settings.Stored
  hud : screen.hud.offsets.AsSet screen.sounds.settings

theorem change_sound_settings (sounds : Sounds) (turnOn : Bool) :
    (sounds.changeSound turnOn).settings = sounds.settings.setMusic turnOn := by
  cases turnOn with
  | true =>
      simp only [Sounds.changeSound, if_true]
      split <;> rfl
  | false => rfl

theorem mem_recolour (green white label : OptionLabel) (greens : List OptionLabel) :
    label ∈ recolour green white greens ↔
      label = green ∨ (label ∈ greens ∧ label ≠ green ∧ label ≠ white) := by
  simp [recolour]

/-- A label belongs to the one setting that it names. -/
theorem mem_option_labels (settings : Settings) (label : OptionLabel) :
    label ∈ optionLabels settings ↔
      match label with
      | .moveJoystick_Right => settings.joystick_On_The_Right = true
      | .moveJoystck_Left => settings.joystick_On_The_Right = false
      | .moveMap_Left => settings.minimap_On_The_Left = true
      | .moveMap_Right => settings.minimap_On_The_Left = false
      | .soundOnLabel => settings.music_Is_On = true
      | .soundOffLabel => settings.music_Is_On = false := by
  obtain ⟨data, joystick, minimap, music⟩ := settings
  cases joystick <;> cases minimap <;> cases music <;> cases label <;> simp [optionLabels]

/-- The HUD is at its offsets from the camera. -/
def HudInPlace (screen : GameScreen K) : Prop := screen.hud.InPlace screen.camera

/-- So are the labels of the scores. -/
def LabelsInPlace (screen : GameScreen K) : Prop := screen.hud.LabelsInPlace screen.camera

/-- The HUD is moved to another side while the camera is on the player. -/
def MovesFromPlayer (screen : GameScreen K) : ScreenEvent K → Prop
  | .moveJoystick _ => screen.player = screen.camera
  | .moveMinimap _ => screen.player = screen.camera
  | _ => True

theorem move_joystick_placed (screen : GameScreen K) (toTheRight : Bool)
    (placed : screen.HudInPlace) :
    (screen.moveJoystick toTheRight).HudInPlace ↔ screen.player = screen.camera := by
  constructor
  · intro moved
    have column := congrArg CGPoint.x moved.joystick
    have row := congrArg CGPoint.y moved.joystick
    exact CGPoint.ext (add_right_cancel column) (sub_left_injective row)
  · intro same
    rw [HudInPlace, moveJoystick, same]
    exact (Hud.move_joystick_in_place toTheRight screen.camera screen.hud placed).1

theorem move_minimap_placed (screen : GameScreen K) (toTheRight : Bool)
    (placed : screen.HudInPlace) :
    (screen.moveMinimap toTheRight).HudInPlace ↔ screen.player = screen.camera := by
  constructor
  · intro moved
    have column := congrArg CGPoint.x moved.minimap
    have row := congrArg CGPoint.y moved.minimap
    exact CGPoint.ext (sub_left_injective column) (add_right_cancel row)
  · intro same
    rw [HudInPlace, moveMinimap, same]
    exact Hud.move_minimap_in_place toTheRight screen.camera screen.hud placed

section Steps
variable [FloorRing K] (manager : TileManager) (frame : SceneFrame K)

/-- What a tick leaves of the screen and where it leaves the HUD. -/
theorem track_eq (screen : GameScreen K) :
    (screen.track manager frame).camera = (screen.track manager frame).player ∧
      (screen.track manager frame).hud = screen.hud.follow (screen.track manager frame).player ∧
      (screen.track manager frame).greens = screen.greens ∧
      (screen.track manager frame).sounds.settings = screen.sounds.settings := by
  simp only [track]
  split <;> exact ⟨rfl, rfl, rfl, rfl⟩

/-- The HUD after the setup, from the stored settings. -/
theorem setup_hud (sounds : Sounds) (stored : sounds.settings.Stored) :
    (setupGame manager frame sounds).sounds.settings = sounds.settings ∧
      (setupGame manager frame sounds).hud =
        (((Hud.spawn (frame.tilePosition playerTile.1)).initializeHudPositions sounds.settings
          (frame.tilePosition playerTile.1)).moveMinimap (!sounds.settings.minimap_On_The_Left)
            (frame.tilePosition playerTile.1)).moveJoystick sounds.settings.joystick_On_The_Right
              (frame.tilePosition playerTile.1) := by
  obtain ⟨joystick, minimap, music⟩ := stored
  have same : ((sounds.settings.setMinimap (!(!sounds.settings.minimap_On_The_Left))).setJoystick
      sounds.settings.joystick_On_The_Right) = sounds.settings := by
    simp [Settings.setMinimap, Settings.setJoystick, ← joystick, ← minimap]
  simp only [setupGame, viewOnScreenTiles, moveMinimap, moveJoystick, joystick, minimap,
    UserDefaults.bool, Option.getD_some]
  exact ⟨same, trivial⟩

theorem setup_placed (sounds : Sounds) (stored : sounds.settings.Stored) :
    (setupGame manager frame sounds).HudInPlace ∧
      (setupGame manager frame sounds).LabelsInPlace := by
  have camera : (setupGame manager frame sounds).camera = frame.tilePosition playerTile.1 := rfl
  rw [HudInPlace, LabelsInPlace, camera, (setup_hud manager frame sounds stored).2]
  exact Hud.move_joystick_in_place _ _ _ (Hud.move_minimap_in_place _ _ _
    (Hud.initialized_in_place _ _))

section Runs
variable [SquareRoot K]

theorem step_menu_truthful (screen : GameScreen K) (event : ScreenEvent K)
    (truthful : screen.MenuTruthful) : (step manager frame screen event).MenuTruthful := by
  cases event with
  | touchesBegan onStick => exact truthful
  | touchesMoved locations => exact truthful
  | touchesEnded => exact truthful
  | listen =>
      rw [step]
      split
      · obtain ⟨-, -, kept, same⟩ := track_eq manager frame screen
        rw [MenuTruthful, kept, same]
        exact truthful
      · exact truthful
  | displaced position => exact truthful
  | monsterHit => exact truthful
  | tapPause =>
      simp only [step, tapPause, setDisabled]
      split <;> exact truthful
  | goToSettings => exact fun label => Iff.rfl
  | moveJoystick toTheRight =>
      intro label
      have now := truthful label
      rw [mem_option_labels] at now ⊢
      cases toTheRight <;> cases label <;>
        simp_all [step, moveJoystick, mem_recolour, Settings.setJoystick]
  | moveMinimap toTheRight =>
      intro label
      have now := truthful label
      rw [mem_option_labels] at now ⊢
      cases toTheRight <;> cases label <;>
        simp_all [step, moveMinimap, mem_recolour, Settings.setMinimap]
  | changeSound turnOn =>
      intro label
      have now := truthful label
      rw [mem_option_labels] at now ⊢
      simp only [step, changeSound, change_sound_settings]
      cases turnOn <;> cases label <;> simp_all [mem_recolour, Settings.setMusic]
  | endGame => exact truthful
  | tryAgain => exact truthful

theorem step_hud_placed (screen : GameScreen K) (event : ScreenEvent K)
    (placed : screen.HudInPlace) :
    (step manager frame screen event).HudInPlace ↔ screen.MovesFromPlayer event := by
  cases event with
  | touchesBegan onStick => exact iff_of_true placed trivial
  | touchesMoved locations => exact iff_of_true placed trivial
  | touchesEnded => exact iff_of_true placed trivial
  | listen =>
      refine iff_of_true ?_ trivial
      rw [step]
      split
      · obtain ⟨follows, moved, -, -⟩ := track_eq manager frame screen
        rw [HudInPlace, follows, moved]
        exact (Hud.follow_in_place _ _).1
      · exact placed
  | displaced position => exact iff_of_true placed trivial
  | monsterHit => exact iff_of_true (Hud.respawn_in_place _ _) trivial
  | tapPause =>
      refine iff_of_true ?_ trivial
      simp only [step, tapPause, setDisabled]
      split <;> exact placed
  | goToSettings => exact iff_of_true placed trivial
  | moveJoystick toTheRight => exact move_joystick_placed screen toTheRight placed
  | moveMinimap toTheRight => exact move_minimap_placed screen toTheRight placed
  | changeSound turnOn => exact iff_of_true placed trivial
  | endGame => exact iff_of_true placed trivial
  | tryAgain => exact iff_of_true placed trivial

end Runs

variable [IsStrictOrderedRing K]

theorem setup_as_set (sounds : Sounds) (stored : sounds.settings.Stored) :
    (setupGame manager frame sounds).AsSet := by
  obtain ⟨settings, hud⟩ := setup_hud manager frame sounds stored
  have minimap := Hud.move_minimap_as_set (!sounds.settings.minimap_On_The_Left)
    (frame.tilePosition playerTile.1) sounds.settings _
    (Hud.initialized_as_set (frame.tilePosition playerTile.1) sounds.settings)
  have joystick := Hud.move_joystick_as_set sounds.settings.joystick_On_The_Right
    (frame.tilePosition playerTile.1) _ _ minimap
  constructor
  · rw [settings]
    exact stored
  · rw [settings, hud]
    exact ⟨joystick.joystick, joystick.label, by simpa [Settings.setMinimap, Settings.setJoystick]
      using joystick.minimap, by simpa [Settings.setMinimap, Settings.setJoystick]
      using joystick.display⟩

variable [SquareRoot K]

theorem step_as_set (screen : GameScreen K) (event : ScreenEvent K) (set : screen.AsSet) :
    (step manager frame screen event).AsSet := by
  obtain ⟨stored, hud⟩ := set
  cases event with
  | touchesBegan onStick => exact ⟨stored, hud⟩
  | touchesMoved locations => exact ⟨stored, hud⟩
  | touchesEnded => exact ⟨stored, hud⟩
  | listen =>
      rw [step]
      split
      · obtain ⟨-, follows, -, same⟩ := track_eq manager frame screen
        constructor
        · rw [same]
          exact stored
        · rw [same, follows]
          rwa [Hud.follow_offsets]
      · exact ⟨stored, hud⟩
  | displaced position => exact ⟨stored, hud⟩
  | monsterHit =>
      refine ⟨stored, ?_⟩
      rw [step, hittingMonster, viewOnScreenTiles]
      rwa [Hud.respawn_offsets]
  | tapPause =>
      simp only [step, tapPause, setDisabled]
      split <;> exact ⟨stored, hud⟩
  | goToSettings => exact ⟨stored, hud⟩
  | moveJoystick toTheRight =>
      exact ⟨⟨rfl, stored.minimap, stored.music⟩, Hud.move_joystick_as_set _ _ _ _ hud⟩
  | moveMinimap toTheRight =>
      exact ⟨⟨stored.joystick, rfl, stored.music⟩, Hud.move_minimap_as_set _ _ _ _ hud⟩
  | changeSound turnOn =>
      constructor
      · simp only [step, changeSound, change_sound_settings]
        exact ⟨stored.joystick, stored.minimap, rfl⟩
      · simp only [step, changeSound, change_sound_settings]
        exact ⟨hud.joystick, hud.label, hud.minimap, hud.display⟩
  | endGame => exact ⟨stored, hud⟩
  | tryAgain => exact ⟨stored, hud⟩

/-- In every state of a game that starts with stored settings they stay stored, the
    offsets of the HUD have the sides that they name, and the settings menu, once it has
    been opened, shows them. -/
theorem settings_shown (sounds : Sounds) (stored : sounds.settings.Stored) :
    (∀ events : List (ScreenEvent K),
      Runs.Always (step manager frame) AsSet (setupGame manager frame sounds) events) ∧
    ∀ before after : List (ScreenEvent K),
      (Runs.run (step manager frame) (setupGame manager frame sounds)
        (before ++ .goToSettings :: after)).MenuTruthful := by
  constructor
  · intro events count
    exact Runs.run_keeps (step manager frame) AsSet (step_as_set manager frame) _ _
      (setup_as_set manager frame sounds stored)
  · intro before after
    rw [Runs.run, List.foldl_append]
    exact Runs.run_keeps (step manager frame) MenuTruthful (step_menu_truthful manager frame)
      after _ fun label => Iff.rfl

/-- The whole HUD, the labels of the scores with it. -/
def AllInPlace (screen : GameScreen K) : Prop := screen.HudInPlace ∧ screen.LabelsInPlace

/-- The HUD is moved from the player only, and no monster hits. -/
def MovesUnhit (screen : GameScreen K) : ScreenEvent K → Prop
  | .monsterHit => False
  | event => screen.MovesFromPlayer event

theorem step_all_placed (screen : GameScreen K) (event : ScreenEvent K) (set : screen.AsSet)
    (placed : screen.AllInPlace) :
    (step manager frame screen event).AllInPlace ↔ screen.MovesUnhit event := by
  obtain ⟨hud, labels⟩ := placed
  have moves := step_hud_placed manager frame screen event hud
  cases event with
  | touchesBegan onStick => exact iff_of_true ⟨hud, labels⟩ trivial
  | touchesMoved locations => exact iff_of_true ⟨hud, labels⟩ trivial
  | touchesEnded => exact iff_of_true ⟨hud, labels⟩ trivial
  | listen =>
      refine iff_of_true ⟨moves.mpr trivial, ?_⟩ trivial
      rw [step]
      split
      · obtain ⟨follows, moved, -, -⟩ := track_eq manager frame screen
        rw [LabelsInPlace, follows, moved]
        exact (Hud.follow_in_place _ _).2
      · exact labels
  | displaced position => exact iff_of_true ⟨hud, labels⟩ trivial
  | monsterHit =>
      exact iff_of_false (fun placed => Hud.respawn_labels _ _ _ set.hud placed.2) id
  | tapPause =>
      refine iff_of_true ⟨moves.mpr trivial, ?_⟩ trivial
      simp only [step, tapPause, setDisabled]
      split <;> exact labels
  | goToSettings => exact iff_of_true ⟨hud, labels⟩ trivial
  | moveJoystick toTheRight =>
      refine ⟨fun placed => moves.mp placed.1, fun same => ⟨moves.mpr same, ?_⟩⟩
      have centre : screen.player = screen.camera := same
      rw [step, LabelsInPlace, moveJoystick, centre]
      exact (Hud.move_joystick_in_place toTheRight screen.camera screen.hud hud).2
  | moveMinimap toTheRight =>
      exact ⟨fun placed => moves.mp placed.1,
        fun same => ⟨moves.mpr same, labels.player, labels.opponent⟩⟩
  | changeSound turnOn => exact iff_of_true ⟨hud, labels⟩ trivial
  | endGame => exact iff_of_true ⟨hud, labels⟩ trivial
  | tryAgain => exact iff_of_true ⟨hud, labels⟩ trivial

/-- The joystick, the minimap, the hearts and the pause button follow the camera in
    every state of a game exactly when the HUD is changed only while the camera is on
    the player; they and the labels of the scores do so exactly when no monster hits
    besides. -/
theorem hud_follows_camera_iff (sounds : Sounds) (stored : sounds.settings.Stored)
    (events : List (ScreenEvent K)) :
    (Runs.Always (step manager frame) HudInPlace (setupGame manager frame sounds) events ↔
      Runs.Meets (step manager frame) MovesFromPlayer (setupGame manager frame sounds) events) ∧
    (Runs.Always (step manager frame) AllInPlace (setupGame manager frame sounds) events ↔
      Runs.Meets (step manager frame) MovesUnhit (setupGame manager frame sounds) events) := by
  have start := setup_placed manager frame sounds stored
  constructor
  · exact Runs.always_iff_meets (step manager frame) MovesFromPlayer HudInPlace HudInPlace
      (fun _ placed => placed)
      (fun screen event placed => ⟨step_hud_placed manager frame screen event placed,
        (step_hud_placed manager frame screen event placed).mpr⟩)
      events _ start.1
  · exact Runs.always_iff_meets (step manager frame) MovesUnhit AllInPlace
      (fun screen => screen.AsSet ∧ screen.AllInPlace) (fun _ both => both.2)
      (fun screen event both => ⟨step_all_placed manager frame screen event both.1 both.2,
        fun met => ⟨step_as_set manager frame screen event both.1,
          (step_all_placed manager frame screen event both.1 both.2).mpr met⟩⟩)
      events _ ⟨setup_as_set manager frame sounds stored, start⟩

end Steps
end GameScreen
end Layout

theorem fresh_stored : Sounds.fresh.settings.Stored := ⟨rfl, rfl, rfl⟩

/-- The minimap is moved to the right before and after the menu is opened. -/
theorem settings_shown_moved :
    (Runs.run (GameScreen.step .empty .realUnit) (GameScreen.setupGame .empty .realUnit .fresh)
      [.moveMinimap true]).AsSet ∧
    (Runs.run (GameScreen.step .empty .realUnit) (GameScreen.setupGame .empty .realUnit .fresh)
      ([.moveMinimap true] ++ [.goToSettings, .moveMinimap true])).MenuTruthful := by
  obtain ⟨always, truthful⟩ :=
    GameScreen.settings_shown .empty .realUnit .fresh fresh_stored
  exact ⟨always [.moveMinimap true] 1, truthful [.moveMinimap true] [.moveMinimap true]⟩

/-- A monster hits. -/
theorem hud_follows_hit :
    (Runs.Always (GameScreen.step .empty .realUnit) GameScreen.HudInPlace
        (GameScreen.setupGame .empty .realUnit .fresh) [.monsterHit] ↔
      Runs.Meets (GameScreen.step .empty .realUnit) GameScreen.MovesFromPlayer
        (GameScreen.setupGame .empty .realUnit .fresh) [.monsterHit]) ∧
    (Runs.Always (GameScreen.step .empty .realUnit) GameScreen.AllInPlace
        (GameScreen.setupGame .empty .realUnit .fresh) [.monsterHit] ↔
      Runs.Meets (GameScreen.step .empty .realUnit) GameScreen.MovesUnhit
        (GameScreen.setupGame .empty .realUnit .fresh) [.monsterHit]) :=
  GameScreen.hud_follows_camera_iff .empty .realUnit .fresh fresh_stored _

end RelicRace
