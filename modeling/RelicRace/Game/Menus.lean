import RelicRace.Library.Runs
import RelicRace.Library.SceneTree

/-!
The displays of `InfoDisplay` that share the scene: the win display, the pause
menu with its settings, the display after a death. Several are shown by blocks
that run later, and three of them add the same `darkBackground`. The nodes are
modelled first; then a model of the menus alone tells which events are safe.
-/

namespace RelicRace
open Library

/-- The nodes that `InfoDisplay` adds to the scene or to the health panel. -/
inductive InfoNode where
  | heart1 | heart2 | heart3 | healthPanel | playerScoreLabel | AIScoreLabel | timerLabel
  | darkBackground
  | messageLabel | exitLabel | timeDisplayLabel
  | pausedLabel1 | returnLabel | settingsLabel
  | message1 | message2
  | back | moveJoystick_Title | moveJoystick_Right | moveJoystck_Left
  | moveMap_Title | moveMap_Right | moveMap_Left | soundTitle | soundOnLabel | soundOffLabel
  deriving DecidableEq

/-- The blocks given to `asyncAfter` that add nodes or show them again. -/
inductive DisplayBlock where
  | roundWinDisplay
  | playerDiedDisplay
  | settings
  | exitSettings
  deriving DecidableEq

/-- `children` are the nodes that have a parent; the display and what it reads
    of its scene. -/
structure MenuDisplay where
  children : Finset InfoNode := ∅
  pausedLabel1Hidden : Bool := false
  returnLabelHidden : Bool := false
  pauseHidden : Bool := false
  isPausing : Bool := false
  pending : List DisplayBlock := []

/-- The taps are on nodes that the scene shows. A round ends by `onPlayerWin`,
    `checkOpponentWin` or `onMonsterWin`; a peer ends it by a score or the byte 1. -/
inductive MenuEvent where
  | tapPause
  | tapSettings
  | tapBack
  | tapTryAgain
  | playerWin
  | opponentWin
  | monsterWin
  | receiveScoring (score : Int)
  | receiveDeath
  | runBlock (block : DisplayBlock)

namespace MenuDisplay

/-- `addChild` one after the other; `none` is the exception of a node that has a parent. -/
def addChildren (display : MenuDisplay) (nodes : List InfoNode) : Option MenuDisplay := do
  let children ← SceneTree.addChildren display.children nodes
  return { display with children }

def removeFromParent (display : MenuDisplay) (nodes : List InfoNode) : MenuDisplay :=
  { display with children := SceneTree.removeFromParent display.children nodes }

def asyncAfter (display : MenuDisplay) (block : DisplayBlock) : MenuDisplay :=
  { display with pending := display.pending ++ [block] }

def displayHealth (display : MenuDisplay) : Option MenuDisplay :=
  display.addChildren [.heart1, .heart2, .heart3, .healthPanel]

def displayPlayerScore (display : MenuDisplay) : Option MenuDisplay :=
  display.addChildren [.playerScoreLabel]

def displayAIScore (display : MenuDisplay) : Option MenuDisplay :=
  display.addChildren [.AIScoreLabel]

def setUpTimerLabel (display : MenuDisplay) : Option MenuDisplay :=
  display.addChildren [.timerLabel]

def setUpBackground (display : MenuDisplay) : Option MenuDisplay :=
  display.addChildren [.darkBackground]

def roundWinDisplay (display : MenuDisplay) : Option MenuDisplay := do
  let display ← display.setUpBackground
  display.addChildren [.messageLabel, .exitLabel, .timeDisplayLabel]

def pauseGame (display : MenuDisplay) : Option MenuDisplay := do
  let display ← display.setUpBackground
  display.addChildren [.pausedLabel1, .returnLabel, .settingsLabel]

def removePauseGame (display : MenuDisplay) : MenuDisplay :=
  display.removeFromParent [.darkBackground, .pausedLabel1, .returnLabel, .settingsLabel]

def playerDiedDisplay (display : MenuDisplay) : Option MenuDisplay := do
  let display ← display.setUpBackground
  display.addChildren [.message1, .message2]

def removePlayerDiedDisplay (display : MenuDisplay) : MenuDisplay :=
  display.removeFromParent [.darkBackground, .message1, .message2]

/-- The labels of the settings, in the order in which they are added. -/
def settingsNodes : List InfoNode :=
  [.back, .moveJoystick_Title, .moveJoystick_Right, .moveJoystck_Left, .moveMap_Title,
    .moveMap_Right, .moveMap_Left, .soundTitle, .soundOnLabel, .soundOffLabel]

def goToSettings (display : MenuDisplay) : MenuDisplay :=
  let display := { display with
    pausedLabel1Hidden := true, returnLabelHidden := true, pauseHidden := true }
  display.asyncAfter .settings

def exitSettings (display : MenuDisplay) : MenuDisplay :=
  (display.removeFromParent settingsNodes).asyncAfter .exitSettings

/-- The part of `endGame` that the displays depend on. -/
def endGame (display : MenuDisplay) : MenuDisplay := { display with pauseHidden := true }

def onPlayerWin (display : MenuDisplay) : MenuDisplay :=
  display.endGame.asyncAfter .roundWinDisplay

def onMonsterWin (display : MenuDisplay) : MenuDisplay :=
  display.endGame.asyncAfter .playerDiedDisplay

def checkOpponentWin (score : Int) (display : MenuDisplay) : MenuDisplay :=
  if score ≥ 5 then display.endGame.asyncAfter .roundWinDisplay else display

/-- The body of a block. -/
def run (display : MenuDisplay) : DisplayBlock → Option MenuDisplay
  | .roundWinDisplay => display.roundWinDisplay
  | .playerDiedDisplay => display.playerDiedDisplay
  | .settings => display.addChildren settingsNodes
  | .exitSettings =>
      some { display with
        pausedLabel1Hidden := false, returnLabelHidden := false, pauseHidden := false }

/-- The branch for "pause" of `touchesBegan`. -/
def touchPause (display : MenuDisplay) : Option MenuDisplay := do
  if display.isPausing then
    return { display.removePauseGame with isPausing := false }
  else
    let display ← display.pauseGame
    return { display with isPausing := true }

/-- `resetGameAfterPlayerDied`. -/
def resetGame (display : MenuDisplay) : MenuDisplay :=
  { display.removePlayerDiedDisplay with pauseHidden := false }

/-- A node takes a tap when it has a parent and is not hidden. -/
def step (display : MenuDisplay) : MenuEvent → Option MenuDisplay
  | .tapPause => if display.pauseHidden then some display else display.touchPause
  | .tapSettings =>
      some (if .settingsLabel ∈ display.children then display.goToSettings else display)
  | .tapBack => some (if .back ∈ display.children then display.exitSettings else display)
  | .tapTryAgain => some (if .message2 ∈ display.children then display.resetGame else display)
  | .playerWin => some display.onPlayerWin
  | .opponentWin => some (display.checkOpponentWin 5)
  | .monsterWin => some display.onMonsterWin
  | .receiveScoring score => some (display.checkOpponentWin score)
  | .receiveDeath => display.roundWinDisplay
  | .runBlock block =>
      if block ∈ display.pending then
        { display with pending := display.pending.erase block }.run block
      else some display

/-- `spawnInfo`, and `setUpTimerLabel` in the single-player scene. -/
def setup (solo : Bool) : Option MenuDisplay := do
  let display : MenuDisplay := {}
  let display ← display.displayHealth
  let display ← display.displayPlayerScore
  let display ← display.displayAIScore
  if solo then display.setUpTimerLabel else return display

end MenuDisplay

/-! ### The menus alone -/

/-- What covers the game. -/
inductive Screen where
  | game
  | won
  | paused
  | died
  deriving DecidableEq

structure Menus where
  screen : Screen := .game
  settings : Bool := false
  pauseHidden : Bool := false
  pending : List DisplayBlock := []

namespace Menus

def schedule (menus : Menus) (block : DisplayBlock) : Menus :=
  { menus with pending := menus.pending ++ [block] }

def finish (menus : Menus) (block : DisplayBlock) : Menus :=
  { menus with pauseHidden := true }.schedule block

def run (menus : Menus) : DisplayBlock → Menus
  | .roundWinDisplay => { menus with screen := .won }
  | .playerDiedDisplay => { menus with screen := .died }
  | .settings => { menus with settings := true }
  | .exitSettings => { menus with pauseHidden := false }

def step (menus : Menus) : MenuEvent → Menus
  | .tapPause =>
      if menus.pauseHidden then menus
      else { menus with screen := if menus.screen = .paused then .game else .paused }
  | .tapSettings =>
      if menus.screen = .paused then { menus with pauseHidden := true }.schedule .settings
      else menus
  | .tapBack =>
      if menus.settings then { menus with settings := false }.schedule .exitSettings else menus
  | .tapTryAgain =>
      if menus.screen = .died then { menus with screen := .game, pauseHidden := false } else menus
  | .playerWin => menus.finish .roundWinDisplay
  | .opponentWin => menus.finish .roundWinDisplay
  | .monsterWin => menus.finish .playerDiedDisplay
  | .receiveScoring score => if score ≥ 5 then menus.finish .roundWinDisplay else menus
  | .receiveDeath => { menus with screen := .won }
  | .runBlock block =>
      if block ∈ menus.pending then { menus with pending := menus.pending.erase block }.run block
      else menus

/-- A display is opened over the game only, and the settings only while they are closed. -/
def Opens (menus : Menus) : DisplayBlock → Prop
  | .roundWinDisplay => menus.screen = .game
  | .playerDiedDisplay => menus.screen = .game
  | .settings => menus.settings = false
  | .exitSettings => True

def OneAtATime (menus : Menus) : MenuEvent → Prop
  | .tapPause => menus.pauseHidden = false → menus.screen = .game ∨ menus.screen = .paused
  | .receiveDeath => menus.screen = .game
  | .runBlock block => block ∈ menus.pending → menus.Opens block
  | _ => True

end Menus
/-! ### The nodes of the menus -/

/-- The nodes of what covers the game, in the order in which they are added. -/
def Screen.nodes : Screen → List InfoNode
  | .game => []
  | .won => [.darkBackground, .messageLabel, .exitLabel, .timeDisplayLabel]
  | .paused => [.darkBackground, .pausedLabel1, .returnLabel, .settingsLabel]
  | .died => [.darkBackground, .message1, .message2]

/-- The nodes that are added once, when the scene is set up. -/
def hudNodes (solo : Bool) : List InfoNode :=
  [.heart1, .heart2, .heart3, .healthPanel, .playerScoreLabel, .AIScoreLabel] ++
    if solo then [.timerLabel] else []

namespace Menus

/-- The nodes that are there whatever covers the game. -/
def settled (solo settings : Bool) : Finset InfoNode :=
  (if settings then MenuDisplay.settingsNodes.toFinset else ∅) ∪ (hudNodes solo).toFinset

def nodes (solo : Bool) (menus : Menus) : Finset InfoNode :=
  menus.screen.nodes.toFinset ∪ settled solo menus.settings

/-- The display shows these menus and nothing else. -/
structure Laid (solo : Bool) (display : MenuDisplay) (menus : Menus) : Prop where
  children : display.children = menus.nodes solo
  isPausing : display.isPausing = decide (menus.screen = .paused)
  pauseHidden : display.pauseHidden = menus.pauseHidden
  pending : display.pending = menus.pending

variable {solo : Bool}

theorem screen_apart (screen : Screen) (settings : Bool) :
    Disjoint screen.nodes.toFinset (settled solo settings) := by
  cases screen <;> cases settings <;> cases solo <;> decide

/-- Two displays share `darkBackground`. -/
theorem displays_share (screen other : Screen) (shown : screen ≠ .game) :
    Disjoint screen.nodes.toFinset other.nodes.toFinset ↔ other = .game := by
  cases screen with
  | game => exact absurd rfl shown
  | won => cases other <;> decide
  | paused => cases other <;> decide
  | died => cases other <;> decide

theorem display_fits (menus : Menus) (screen : Screen) (shown : screen ≠ .game) :
    Disjoint screen.nodes.toFinset (menus.nodes solo) ↔ menus.screen = .game := by
  rw [nodes, Finset.disjoint_union_right, displays_share screen menus.screen shown]
  exact and_iff_left (screen_apart screen menus.settings)

theorem settings_fit (solo : Bool) (menus : Menus) :
    Disjoint MenuDisplay.settingsNodes.toFinset (menus.nodes solo) ↔ menus.settings = false := by
  have fits (screen : Screen) (settings : Bool) : Disjoint MenuDisplay.settingsNodes.toFinset
      (screen.nodes.toFinset ∪ settled solo settings) ↔ settings = false := by
    cases screen <;> cases settings <;> cases solo <;> decide
  exact fits menus.screen menus.settings

theorem tappable (solo : Bool) (menus : Menus) :
    (.settingsLabel ∈ menus.nodes solo ↔ menus.screen = .paused) ∧
      (.back ∈ menus.nodes solo ↔ menus.settings = true) ∧
      (.message2 ∈ menus.nodes solo ↔ menus.screen = .died) := by
  have names (screen : Screen) (settings : Bool) :
      (.settingsLabel ∈ screen.nodes.toFinset ∪ settled solo settings ↔ screen = .paused) ∧
        (.back ∈ screen.nodes.toFinset ∪ settled solo settings ↔ settings = true) ∧
        (.message2 ∈ screen.nodes.toFinset ∪ settled solo settings ↔ screen = .died) := by
    cases screen <;> cases settings <;> cases solo <;> decide
  exact names menus.screen menus.settings

/-! ### What the methods of the display do -/

theorem add_children_append (display : MenuDisplay) (first second : List InfoNode) :
    (display.addChildren first >>= fun display => display.addChildren second) =
      display.addChildren (first ++ second) := by
  simp only [MenuDisplay.addChildren, SceneTree.addChildren, List.foldlM_append]
  cases first.foldlM SceneTree.addChild display.children <;> rfl

/-- A display is opened over the game and raises the exception over another one. -/
theorem add_display (display : MenuDisplay) (menus : Menus) (laid : Laid solo display menus)
    (screen : Screen) (shown : screen ≠ .game) :
    display.addChildren screen.nodes = if menus.screen = .game then
      some { display with children := { menus with screen }.nodes solo } else none := by
  have distinct : screen.nodes.Nodup := by cases screen <;> decide
  rw [MenuDisplay.addChildren, SceneTree.add_children_eq _ distinct, laid.children]
  simp only [display_fits menus screen shown]
  split
  · rename_i game
    have union : screen.nodes.toFinset ∪ menus.nodes solo = { menus with screen }.nodes solo := by
      rw [nodes, nodes, game]
      simp [Screen.nodes]
    rw [union]
    rfl
  · rfl

theorem add_settings (display : MenuDisplay) (menus : Menus) (laid : Laid solo display menus) :
    display.addChildren MenuDisplay.settingsNodes = if menus.settings = false then
      some { display with children := { menus with settings := true }.nodes solo } else none := by
  rw [MenuDisplay.addChildren, SceneTree.add_children_eq _ (by decide), laid.children]
  simp only [settings_fit solo menus]
  split
  · rename_i closed
    have union : MenuDisplay.settingsNodes.toFinset ∪ menus.nodes solo =
        { menus with settings := true }.nodes solo := by
      rw [nodes, nodes, Finset.union_left_comm, settled, settled, closed]
      simp
    rw [union]
    rfl
  · rfl

theorem remove_display (display : MenuDisplay) (menus : Menus) (laid : Laid solo display menus) :
    SceneTree.removeFromParent display.children menus.screen.nodes =
      { menus with screen := .game }.nodes solo := by
  rw [laid.children, nodes, SceneTree.remove_added _ _ (screen_apart menus.screen menus.settings)]
  simp [nodes, Screen.nodes]

theorem remove_settings (display : MenuDisplay) (menus : Menus) (laid : Laid solo display menus)
    (opened : menus.settings = true) :
    SceneTree.removeFromParent display.children MenuDisplay.settingsNodes =
      { menus with settings := false }.nodes solo := by
  have apart := (settings_fit solo { menus with settings := false }).mpr rfl
  have union : menus.nodes solo = MenuDisplay.settingsNodes.toFinset ∪
      { menus with settings := false }.nodes solo := by
    rw [nodes, nodes, Finset.union_left_comm, settled, settled, opened]
    simp
  rw [laid.children, union, SceneTree.remove_added _ _ apart]

theorem win_display_eq (display : MenuDisplay) :
    display.roundWinDisplay = display.addChildren Screen.won.nodes :=
  add_children_append display _ _

theorem died_display_eq (display : MenuDisplay) :
    display.playerDiedDisplay = display.addChildren Screen.died.nodes :=
  add_children_append display _ _

theorem pause_display_eq (display : MenuDisplay) :
    display.pauseGame = display.addChildren Screen.paused.nodes :=
  add_children_append display _ _

/-! ### Every event -/

/-- An event goes through exactly when the menus allow it, and then shows what they say. -/
def Agrees (solo : Bool) (result : Option MenuDisplay) (allowed : Prop) (after : Menus) : Prop :=
  (allowed → ∃ next, result = some next ∧ Laid solo next after) ∧ (¬ allowed → result = none)

theorem agrees_some {display : MenuDisplay} {allowed : Prop} {after : Menus} (free : allowed)
    (laid : Laid solo display after) : Agrees solo (some display) allowed after :=
  ⟨fun _ => ⟨display, rfl, laid⟩, fun never => absurd free never⟩

/-- A display that ends the pause is opened over the game only. -/
theorem open_agrees {display : MenuDisplay} {menus : Menus} (laid : Laid solo display menus)
    (screen : Screen) (shown : screen ≠ .game) (finished : screen ≠ .paused) :
    Agrees solo (display.addChildren screen.nodes) (menus.screen = .game)
      { menus with screen } := by
  rw [add_display display menus laid screen shown]
  constructor
  · intro game
    refine ⟨_, if_pos game, rfl, ?_, laid.pauseHidden, laid.pending⟩
    simpa [game, finished] using laid.isPausing
  · exact fun covered => if_neg covered

theorem pause_agrees {display : MenuDisplay} {menus : Menus} (laid : Laid solo display menus) :
    Agrees solo (display.step .tapPause) (menus.OneAtATime .tapPause) (menus.step .tapPause) := by
  have hidden := laid.pauseHidden
  have pausing := laid.isPausing
  rw [MenuDisplay.step, step, OneAtATime, hidden]
  cases shown : menus.pauseHidden with
  | true => exact agrees_some (fun visible => by cases visible) (by simpa using laid)
  | false =>
      simp only [Bool.false_eq_true, if_false, forall_const]
      rw [MenuDisplay.touchPause, pausing]
      by_cases paused : menus.screen = .paused
      · have removed := remove_display display menus laid
        rw [paused] at removed
        simp only [paused, decide_true, if_true]
        exact agrees_some (Or.inr trivial) ⟨removed, by simp, hidden.trans shown, laid.pending⟩
      · simp only [paused, decide_false, Bool.false_eq_true, if_false, or_false, pause_display_eq,
          add_display display menus laid .paused (by decide)]
        constructor
        · intro game
          rw [if_pos game]
          exact ⟨_, rfl, rfl, by simp, hidden.trans shown, laid.pending⟩
        · intro covered
          rw [if_neg covered]
          rfl

theorem schedule_laid {display : MenuDisplay} {menus : Menus} (laid : Laid solo display menus)
    (block : DisplayBlock) : Laid solo (display.asyncAfter block) (menus.schedule block) :=
  ⟨laid.children, laid.isPausing, laid.pauseHidden,
    by rw [MenuDisplay.asyncAfter, schedule, laid.pending]⟩

theorem finish_laid {display : MenuDisplay} {menus : Menus} (laid : Laid solo display menus)
    (block : DisplayBlock) : Laid solo (display.endGame.asyncAfter block) (menus.finish block) := by
  have hidden : Laid solo display.endGame { menus with pauseHidden := true } :=
    ⟨laid.children, laid.isPausing, rfl, laid.pending⟩
  exact schedule_laid hidden block

theorem score_laid {display : MenuDisplay} {menus : Menus} (laid : Laid solo display menus)
    (score : Int) : Laid solo (display.checkOpponentWin score)
      (menus.step (.receiveScoring score)) := by
  rw [MenuDisplay.checkOpponentWin, step]
  split
  · exact finish_laid laid .roundWinDisplay
  · exact laid

theorem block_agrees {display : MenuDisplay} {menus : Menus} (laid : Laid solo display menus)
    (block : DisplayBlock) : Agrees solo (display.run block) (menus.Opens block)
      (menus.run block) := by
  cases block with
  | roundWinDisplay =>
      rw [MenuDisplay.run, win_display_eq]
      exact open_agrees laid .won (by decide) (by decide)
  | playerDiedDisplay =>
      rw [MenuDisplay.run, died_display_eq]
      exact open_agrees laid .died (by decide) (by decide)
  | settings =>
      rw [MenuDisplay.run, add_settings display menus laid]
      exact ⟨fun closed => ⟨_, if_pos closed, rfl, laid.isPausing, laid.pauseHidden, laid.pending⟩,
        fun opened => if_neg opened⟩
  | exitSettings =>
      exact agrees_some trivial ⟨laid.children, laid.isPausing, rfl, laid.pending⟩

theorem go_to_settings_laid {display : MenuDisplay} {menus : Menus}
    (laid : Laid solo display menus) :
    Laid solo display.goToSettings ({ menus with pauseHidden := true }.schedule .settings) := by
  have hidden : Laid solo { display with
      pausedLabel1Hidden := true, returnLabelHidden := true, pauseHidden := true }
      { menus with pauseHidden := true } := ⟨laid.children, laid.isPausing, rfl, laid.pending⟩
  exact schedule_laid hidden .settings

theorem exit_settings_laid {display : MenuDisplay} {menus : Menus}
    (laid : Laid solo display menus) (opened : menus.settings = true) :
    Laid solo display.exitSettings ({ menus with settings := false }.schedule .exitSettings) := by
  have closed : Laid solo (display.removeFromParent MenuDisplay.settingsNodes)
      { menus with settings := false } :=
    ⟨remove_settings display menus laid opened, laid.isPausing, laid.pauseHidden, laid.pending⟩
  exact schedule_laid closed .exitSettings

theorem reset_laid {display : MenuDisplay} {menus : Menus} (laid : Laid solo display menus)
    (died : menus.screen = .died) :
    Laid solo display.resetGame { menus with screen := .game, pauseHidden := false } := by
  have removed := remove_display display menus laid
  rw [died] at removed
  exact ⟨removed, laid.isPausing.trans (by simp [died]), rfl, laid.pending⟩

theorem run_agrees {display : MenuDisplay} {menus : Menus} (laid : Laid solo display menus)
    (block : DisplayBlock) :
    Agrees solo (display.step (.runBlock block)) (menus.OneAtATime (.runBlock block))
      (menus.step (.runBlock block)) := by
  rw [MenuDisplay.step, step, OneAtATime, laid.pending]
  split
  · rename_i waiting
    have started : Laid solo { display with pending := menus.pending.erase block }
        { menus with pending := menus.pending.erase block } :=
      ⟨laid.children, laid.isPausing, laid.pauseHidden, rfl⟩
    have agrees := block_agrees started block
    have allowed : (block ∈ menus.pending → menus.Opens block) ↔
        { menus with pending := menus.pending.erase block }.Opens block := by
      cases block <;> simp [Opens, waiting]
    rw [allowed]
    exact agrees
  · rename_i absent
    exact agrees_some (fun waiting => absurd waiting absent) laid

theorem step_agrees {display : MenuDisplay} {menus : Menus} (laid : Laid solo display menus)
    (event : MenuEvent) :
    Agrees solo (display.step event) (menus.OneAtATime event) (menus.step event) := by
  obtain ⟨settingsTap, backTap, againTap⟩ := tappable solo menus
  cases event with
  | tapPause => exact pause_agrees laid
  | tapSettings =>
      refine agrees_some trivial ?_
      simp only [laid.children, settingsTap, step]
      split
      · exact go_to_settings_laid laid
      · exact laid
  | tapBack =>
      refine agrees_some trivial ?_
      simp only [laid.children, backTap, step]
      split
      · rename_i opened
        exact exit_settings_laid laid opened
      · exact laid
  | tapTryAgain =>
      refine agrees_some trivial ?_
      simp only [laid.children, againTap, step]
      split
      · rename_i died
        exact reset_laid laid died
      · exact laid
  | playerWin => exact agrees_some trivial (finish_laid laid .roundWinDisplay)
  | opponentWin => exact agrees_some trivial (finish_laid laid .roundWinDisplay)
  | monsterWin => exact agrees_some trivial (finish_laid laid .playerDiedDisplay)
  | receiveScoring score => exact agrees_some trivial (score_laid laid score)
  | receiveDeath =>
      rw [MenuDisplay.step, win_display_eq]
      exact open_agrees laid .won (by decide) (by decide)
  | runBlock block => exact run_agrees laid block

theorem setup_laid (solo : Bool) : ∃ display, MenuDisplay.setup solo = some display ∧
    Laid solo display {} := by
  cases solo with
  | false => exact ⟨_, rfl, by decide, rfl, rfl, rfl⟩
  | true => exact ⟨_, rfl, by decide, rfl, rfl, rfl⟩

/-- In either scene every `addChild` of the display is applied to a node without
    a parent, in every run, exactly when the run of the menus opens one display
    at a time and the settings only while they are closed. -/
theorem no_node_added_twice_iff (solo : Bool) (events : List MenuEvent) :
    ((MenuDisplay.setup solo).bind fun display =>
        events.foldlM MenuDisplay.step display).isSome = true ↔
      Runs.Meets step OneAtATime {} events := by
  obtain ⟨display, ready, laid⟩ := setup_laid solo
  rw [ready]
  exact Runs.survives_iff_meets MenuDisplay.step step OneAtATime (Laid solo)
    (fun _ _ event laid => step_agrees laid event) events display {} laid

/-- A display that a run has reached shows what the run of the menus says. -/
theorem run_laid {start display : MenuDisplay} (events : List MenuEvent)
    (laid : Laid solo start {}) (ran : events.foldlM MenuDisplay.step start = some display) :
    Laid solo display (Runs.run step {} events) :=
  Runs.survives_related MenuDisplay.step step OneAtATime (Laid solo)
    (fun _ _ event laid => step_agrees laid event) events start display {} laid ran

/-- The label that leads to the settings is tapped twice. -/
theorem settings_added_twice : ¬ ∀ events : List MenuEvent,
    ((MenuDisplay.setup true).bind fun display =>
      events.foldlM MenuDisplay.step display).isSome = true := by
  intro always
  exact absurd (always [.tapPause, .tapSettings, .tapSettings, .runBlock .settings,
    .runBlock .settings]) (by decide)

end Menus
end RelicRace
