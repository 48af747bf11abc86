import RelicRace.Game.Rounds
import RelicRace.PvP.Device

/-!
The display of the scores and the health beside the values it shows, in both
playable scenes. A label is written when its side scores; a new round sets the
scores to zero and writes no label. A label is called stale from a Try Again
that finds it showing another number than 0 until it is written again.
-/

namespace RelicRace
open Library

/-- The two scenes that are played. -/
inductive PlayableScene where
  | solo (game : AIGameScene)
  | pvp (device : PvPGameScene)

namespace PlayableScene

def base : PlayableScene → GameScene
  | .solo game => game.scene
  | .pvp device => device.scene

def withBase (scene : GameScene) : PlayableScene → PlayableScene
  | .solo game => .solo { game with scene }
  | .pvp device => .pvp { device with scene }

def update (playerDraw opponentDraw : MapPlace) : PlayableScene → PlayableScene
  | .solo game => .solo (AIGameScene.methods.update playerDraw opponentDraw game)
  | .pvp device => .pvp (PvPGameScene.methods.update playerDraw opponentDraw device)

def tryAgain (draw : MapPlace) : PlayableScene → PlayableScene
  | .solo game => .solo (game.tapTryAgain draw)
  | .pvp device => .pvp { device with scene := device.scene.resetGameAfterPlayerDied draw }

/-- Only a device of a match receives messages. -/
def receive (message : Message) : PlayableScene → PlayableScene
  | .solo game => .solo game
  | .pvp device => .pvp (device.receive message)

/-- The check of the opponent's flag as it acts on the base scene. A match
    overrides the trophy response and keeps the test for the win. -/
def opponentCheck (kind : PlayableScene) (draw : MapPlace) (scene : GameScene) : GameScene :=
  match kind with
  | .solo _ => GameScene.methods.checkOpponentFlag draw scene
  | .pvp _ => if scene.opponentCollisionFlag then scene.checkOpponentWin else scene

theorem pvp_player_check (draw : MapPlace) (device : PvPGameScene) :
    (PvPGameScene.methods.checkPlayerFlag draw device).scene =
      GameScene.methods.checkPlayerFlag draw device.scene := by
  rw [GameScene.player_check_eq]
  change (if device.scene.player1CollisionFlag then
    PvPGameScene.Event.apply device (.collect draw) else device).scene = _
  rw [PvPGameScene.collect_eq]
  split <;> rfl

theorem pvp_opponent_check (draw : MapPlace) (device : PvPGameScene) :
    (PvPGameScene.methods.checkOpponentFlag draw device).scene =
      if device.scene.opponentCollisionFlag then device.scene.checkOpponentWin
      else device.scene := by
  change (if device.scene.opponentCollisionFlag then device.checkOpponentWin else device).scene = _
  split <;> rfl

theorem pvp_monster_check (device : PvPGameScene) :
    (PvPGameScene.methods.checkMonsterFlag device).scene =
      GameScene.methods.checkMonsterFlag device.scene := by
  rw [GameScene.monster_check_eq]
  change (if device.scene.monsterCollisionFlag ≠ -1 then
    PvPGameScene.Event.apply device .monsterHit else device).scene = _
  rw [PvPGameScene.monster_hit_eq]
  split
  · split <;> rfl
  · rfl

/-- A frame of either scene, on the base scene. -/
theorem update_base (playerDraw opponentDraw : MapPlace) (scene : PlayableScene) :
    (scene.update playerDraw opponentDraw).base =
      GameScene.methods.checkMonsterFlag (scene.opponentCheck opponentDraw
        (GameScene.methods.checkPlayerFlag playerDraw scene.base)) := by
  cases scene with
  | solo game => exact AIGameScene.update_scene playerDraw opponentDraw game
  | pvp device =>
      change (PvPGameScene.methods.update playerDraw opponentDraw device).scene = _
      rw [Methods.update, pvp_monster_check, pvp_opponent_check, pvp_player_check]
      rfl

/-- The opponent's flag makes this frame write the opponent's label. -/
def writesOpponent (kind : PlayableScene) (scene : GameScene) : Bool :=
  match kind with
  | .solo _ => scene.opponentCollisionFlag
  | .pvp _ => false

/-- The message makes the device write the opponent's label. -/
def messageWrites (message : Message) : PlayableScene → Bool
  | .solo _ => false
  | .pvp device =>
      match message with
      | .scoring value _ => device.startUpdateFlag && value ≠ device.scene.score
      | _ => false

/-- The opponent's flag ends the round in this frame. -/
def opponentEnds (kind : PlayableScene) (scene : GameScene) : Prop :=
  scene.opponentCollisionFlag = true ∧
    match kind with
    | .solo _ => scene.score ≥ 4
    | .pvp _ => scene.score ≥ 5

/-- The frame that starts here leaves its round running. -/
def RoundGoesOn (scene : PlayableScene) : Prop :=
  isOver scene.base.trace = false ∧
    ¬ (scene.base.player1CollisionFlag = true ∧ scene.base.player_Score = 4) ∧
    ¬ scene.opponentEnds scene.base ∧
    ¬ (scene.base.monsterCollisionFlag ≠ -1 ∧ scene.base.player_Health ≤ 1)

end PlayableScene

/-! ### The display and what it should show -/

def playerText (number : Int) : String := "Player Score: " ++ toString number

def opponentText (number : Int) : String := "Opponent Score: " ++ toString number

def InfoDisplay.visibleHearts (info : InfoDisplay) : Int :=
  (if info.heart1Hidden then 0 else 1) + (if info.heart2Hidden then 0 else 1) +
    (if info.heart3Hidden then 0 else 1)

/-- The labels and the hearts tell the scores and the health. -/
def GameScene.HudTrue (scene : GameScene) : Prop :=
  scene.info.playerScoreLabel = playerText scene.player_Score ∧
    scene.info.AIScoreLabel = opponentText scene.score ∧
    scene.info.visibleHearts = scene.player_Health

/-- A scene with the history of its labels; `updated` tells that the last step was `update`. -/
structure HudScene where
  scene : PlayableScene
  stalePlayer : Bool
  staleOpponent : Bool
  updated : Bool

inductive HudEvent where
  | physics (playerAt opponentAt : MapPlace) (contacts : List Contact)
  | update (playerDraw opponentDraw : MapPlace)
  | tryAgain (draw : MapPlace)
  | receive (message : Message)

namespace HudScene

/-- `setupGame` of either scene. -/
def startSolo (signedIn : Bool) (difficulty : Difficulty) (trophy : MapPlace)
    (monsters : List String) : HudScene :=
  ⟨.solo (.start signedIn difficulty trophy monsters), false, false, true⟩

def startPvP (trophy : MapPlace) (monsters : List String) (device : PvPGameScene) : HudScene :=
  ⟨.pvp (device.setupGame trophy monsters), false, false, true⟩

def step (hud : HudScene) : HudEvent → HudScene
  | .physics playerAt opponentAt contacts =>
      { hud with
        scene := hud.scene.withBase (hud.scene.base.physics playerAt opponentAt contacts)
        updated := false }
  | .update playerDraw opponentDraw =>
      { scene := hud.scene.update playerDraw opponentDraw
        stalePlayer := hud.stalePlayer && !hud.scene.base.player1CollisionFlag
        staleOpponent := hud.staleOpponent && !hud.scene.writesOpponent hud.scene.base
        updated := true }
  | .tryAgain draw =>
      { scene := hud.scene.tryAgain draw
        stalePlayer := hud.scene.base.info.playerScoreLabel ≠ playerText 0
        staleOpponent := hud.scene.base.info.AIScoreLabel ≠ opponentText 0
        updated := false }
  | .receive message =>
      { hud with
        scene := hud.scene.receive message
        staleOpponent := hud.staleOpponent && !hud.scene.messageWrites message
        updated := false }

/-- At the end of an update that leaves a round running the display is true. -/
def Truthful (hud : HudScene) : Prop :=
  hud.updated = true → isOver hud.scene.base.trace = false → hud.scene.base.HudTrue

/-- An update that leaves a round running finds no stale label or writes it. -/
def LabelsWritten (hud : HudScene) : HudEvent → Prop
  | .update _ _ => hud.scene.RoundGoesOn →
      (hud.stalePlayer = true → hud.scene.base.player1CollisionFlag = true) ∧
        (hud.staleOpponent = true → hud.scene.writesOpponent hud.scene.base = true)
  | _ => True

/-! ### The invariant -/

/-- A label is true, or the score is zero and the label shows another number. -/
def LabelState (stale : Bool) (label : String) (text : Int → String) (score : Int) : Prop :=
  if stale then score = 0 ∧ label ≠ text 0 else label = text score

/-- Every lost life has hidden its heart. -/
structure Hearts (scene : GameScene) : Prop where
  alive : 1 ≤ scene.player_Health
  most : scene.player_Health ≤ 3
  heart1 : scene.info.heart1Hidden = false
  heart2 : scene.info.heart2Hidden = decide (scene.player_Health < 2)
  heart3 : scene.info.heart3Hidden = decide (scene.player_Health < 3)

structure Shown (scene : GameScene) (stalePlayer staleOpponent : Bool) : Prop where
  player : LabelState stalePlayer scene.info.playerScoreLabel playerText scene.player_Score
  opponent : LabelState staleOpponent scene.info.AIScoreLabel opponentText scene.score
  hearts : Hearts scene

/-- While a round runs, the labels are as their history tells and the hearts are right. -/
def Tracked (scene : GameScene) (stalePlayer staleOpponent : Bool) : Prop :=
  isOver scene.trace = false → Shown scene stalePlayer staleOpponent

theorem hearts_same {before after : GameScene} (hearts : Hearts before)
    (health : after.player_Health = before.player_Health)
    (heart1 : after.info.heart1Hidden = before.info.heart1Hidden)
    (heart2 : after.info.heart2Hidden = before.info.heart2Hidden)
    (heart3 : after.info.heart3Hidden = before.info.heart3Hidden) : Hearts after where
  alive := by rw [health]; exact hearts.alive
  most := by rw [health]; exact hearts.most
  heart1 := heart1.trans hearts.heart1
  heart2 := by rw [heart2, health]; exact hearts.heart2
  heart3 := by rw [heart3, health]; exact hearts.heart3

theorem hearts_visible {scene : GameScene} (hearts : Hearts scene) :
    scene.info.visibleHearts = scene.player_Health := by
  obtain ⟨alive, most, heart1, heart2, heart3⟩ := hearts
  simp only [InfoDisplay.visibleHearts, heart1, heart2, heart3, decide_eq_true_eq,
    Bool.false_eq_true, if_false]
  split_ifs <;> omega

theorem label_true_iff (stale : Bool) (label : String) (text : Int → String) (score : Int)
    (state : LabelState stale label text score) : label = text score ↔ stale = false := by
  cases stale with
  | false => exact iff_of_true state rfl
  | true =>
      obtain ⟨rfl, differs⟩ := state
      exact iff_of_false differs (by simp)

/-- A label that is written is true, whatever it showed before. -/
theorem written_label {stale : Bool} {label : String} {text : Int → String} {score : Int}
    (written : label = text score) : LabelState (stale && !true) label text score := by
  rw [Bool.not_true, Bool.and_false]
  exact written

/-- The display is true exactly when no label is stale. -/
theorem shown_true_iff {scene : GameScene} {stalePlayer staleOpponent : Bool}
    (shown : Shown scene stalePlayer staleOpponent) :
    scene.HudTrue ↔ stalePlayer = false ∧ staleOpponent = false := by
  rw [GameScene.HudTrue, label_true_iff _ _ _ _ shown.player, label_true_iff _ _ _ _ shown.opponent]
  simp [hearts_visible shown.hearts]

/-! ### A frame -/

section Frame
open GameScene
variable (tile : MapPlace) (scene : GameScene) {stalePlayer staleOpponent : Bool}

/-- What the check of the player's flag leaves of a round that goes on. -/
theorem player_check_running
    (running : isOver (methods.checkPlayerFlag tile scene).trace = false) :
    methods.checkPlayerFlag tile scene =
      if scene.player1CollisionFlag then scene.playerToTrophyResponse tile else scene := by
  have before := (player_check_over tile scene).not.mp (by simp [running])
  rw [player_check_eq]
  split
  · rename_i touched
    rw [if_neg fun four => before (Or.inr ⟨touched, four⟩)]
  · rfl

theorem player_check_frame
    (running : isOver (methods.checkPlayerFlag tile scene).trace = false) :
    (methods.checkPlayerFlag tile scene).score = scene.score ∧
      (methods.checkPlayerFlag tile scene).monsterCollisionFlag = scene.monsterCollisionFlag ∧
      (methods.checkPlayerFlag tile scene).player_Health = scene.player_Health := by
  rw [player_check_running tile scene running, player_response_eq]
  split <;> exact ⟨rfl, rfl, rfl⟩

theorem player_check_tracked (tracked : Tracked scene stalePlayer staleOpponent) :
    Tracked (methods.checkPlayerFlag tile scene) (stalePlayer && !scene.player1CollisionFlag)
      staleOpponent := by
  intro running
  have before := (player_check_over tile scene).not.mp (by simp [running])
  rw [not_or, Bool.not_eq_true] at before
  have shown := tracked before.1
  rw [player_check_running tile scene running]
  cases touched : scene.player1CollisionFlag with
  | true =>
      rw [if_pos rfl, player_response_eq]
      exact ⟨written_label rfl, shown.opponent,
        hearts_same shown.hearts rfl rfl rfl rfl⟩
  | false => simpa using shown

theorem ending_over : isOver scene.checkOpponentWin.trace = true ↔
    isOver scene.trace = true ∨ scene.score ≥ 5 := by
  rw [GameScene.checkOpponentWin]
  split
  · rename_i won
    exact iff_of_true rfl (Or.inr won)
  · rename_i short
    exact ⟨Or.inl, fun finished => finished.resolve_right short⟩

theorem check_win_running (running : isOver scene.checkOpponentWin.trace = false) :
    scene.checkOpponentWin = scene := by
  have short := (ending_over scene).not.mp (by simp [running])
  rw [not_or] at short
  rw [GameScene.checkOpponentWin, if_neg short.2]

theorem opponent_check_over (kind : PlayableScene) :
    isOver (kind.opponentCheck tile scene).trace = true ↔
      isOver scene.trace = true ∨ kind.opponentEnds scene := by
  cases kind with
  | solo game =>
      simp only [PlayableScene.opponentCheck, PlayableScene.opponentEnds, opponent_check_eq]
      split
      · rename_i touched
        have five : scene.score + 1 ≥ 5 ↔ scene.score ≥ 4 := by omega
        rw [ending_over, opponent_response_eq, award_over, five]
        simp [touched]
      · rename_i missed
        simp [missed]
  | pvp device =>
      simp only [PlayableScene.opponentCheck, PlayableScene.opponentEnds]
      split
      · rename_i touched
        rw [ending_over]
        simp [touched]
      · rename_i missed
        simp [missed]

/-- What the check of the opponent's flag leaves of a round that goes on. -/
theorem opponent_check_running (kind : PlayableScene)
    (running : isOver (kind.opponentCheck tile scene).trace = false) :
    kind.opponentCheck tile scene =
      if kind.writesOpponent scene then scene.opponentToTrophyResponse tile else scene := by
  cases touched : scene.opponentCollisionFlag with
  | true =>
      cases kind <;>
        simp only [PlayableScene.opponentCheck, PlayableScene.writesOpponent, opponent_check_eq,
          touched, if_true, Bool.false_eq_true, if_false] at running ⊢ <;>
        exact check_win_running _ running
  | false =>
      cases kind <;>
        simp only [PlayableScene.opponentCheck, PlayableScene.writesOpponent, opponent_check_eq,
          touched, Bool.false_eq_true, if_false]

theorem opponent_check_frame (kind : PlayableScene)
    (running : isOver (kind.opponentCheck tile scene).trace = false) :
    (kind.opponentCheck tile scene).monsterCollisionFlag = scene.monsterCollisionFlag ∧
      (kind.opponentCheck tile scene).player_Health = scene.player_Health := by
  rw [opponent_check_running tile scene kind running, opponent_response_eq]
  split <;> exact ⟨rfl, rfl⟩

theorem opponent_check_tracked (kind : PlayableScene)
    (tracked : Tracked scene stalePlayer staleOpponent) :
    Tracked (kind.opponentCheck tile scene) stalePlayer
      (staleOpponent && !kind.writesOpponent scene) := by
  intro running
  have before := (opponent_check_over tile scene kind).not.mp (by simp [running])
  rw [not_or, Bool.not_eq_true] at before
  have shown := tracked before.1
  rw [opponent_check_running tile scene kind running]
  cases written : kind.writesOpponent scene with
  | true =>
      rw [if_pos rfl, opponent_response_eq]
      exact ⟨shown.player, written_label rfl,
        hearts_same shown.hearts rfl rfl rfl rfl⟩
  | false => simpa using shown

theorem monster_check_over : isOver (methods.checkMonsterFlag scene).trace = true ↔
    isOver scene.trace = true ∨
      (scene.monsterCollisionFlag ≠ -1 ∧ scene.loseLife.player_Health = 0) := by
  rw [monster_check_eq]
  split
  · rename_i hit
    split
    · rename_i dead
      exact iff_of_true rfl (Or.inr ⟨hit, dead⟩)
    · rename_i alive
      rw [lose_life_trace]
      exact ⟨Or.inl, fun finished => finished.resolve_right fun dead => alive dead.2⟩
  · rename_i missed
    exact ⟨Or.inl, fun finished => finished.resolve_right fun hit => missed hit.1⟩

/-- A lost life that leaves one hides the heart of the health that is left. -/
theorem lose_life_shown (shown : Shown scene stalePlayer staleOpponent)
    (spared : scene.loseLife.player_Health ≠ 0) :
    Shown scene.loseLife stalePlayer staleOpponent := by
  obtain ⟨player, opponent, alive, most, heart1, heart2, heart3⟩ := shown
  have left := lose_life_left scene (by omega)
  have shows : scene.loseLife.info = scene.info.changeHealth (scene.player_Health - 1) := by
    rw [lose_life_eq, decreaseHealth, if_pos (by omega)]
  have scores := lose_life_scores scene
  have lives : scene.player_Health = 2 ∨ scene.player_Health = 3 := by omega
  rcases lives with two | three
  · refine ⟨?_, ?_, ?_⟩
    · simpa [shows, two, InfoDisplay.changeHealth, scores] using player
    · simpa [shows, two, InfoDisplay.changeHealth, scores] using opponent
    · constructor <;> simp [shows, left, two, InfoDisplay.changeHealth, heart1, heart3]
  · refine ⟨?_, ?_, ?_⟩
    · simpa [shows, three, InfoDisplay.changeHealth, scores] using player
    · simpa [shows, three, InfoDisplay.changeHealth, scores] using opponent
    · constructor <;> simp [shows, left, three, InfoDisplay.changeHealth, heart1, heart2]

theorem monster_check_tracked (tracked : Tracked scene stalePlayer staleOpponent) :
    Tracked (methods.checkMonsterFlag scene) stalePlayer staleOpponent := by
  intro running
  have before := (monster_check_over scene).not.mp (by simp [running])
  rw [not_or, Bool.not_eq_true] at before
  have shown := tracked before.1
  rw [monster_check_eq]
  split
  · rename_i hit
    have spared : scene.loseLife.player_Health ≠ 0 := fun dead => before.2 ⟨hit, dead⟩
    rw [if_neg spared]
    exact lose_life_shown scene shown spared
  · exact shown

end Frame

theorem writes_after_player_check (draw : MapPlace) (kind : PlayableScene) (scene : GameScene) :
    kind.writesOpponent (GameScene.methods.checkPlayerFlag draw scene) =
      kind.writesOpponent scene := by
  cases kind with
  | solo game => exact player_check_opponent_flag draw scene
  | pvp device => rfl

theorem update_tracked (playerDraw opponentDraw : MapPlace) (scene : PlayableScene)
    {stalePlayer staleOpponent : Bool} (tracked : Tracked scene.base stalePlayer staleOpponent) :
    Tracked (scene.update playerDraw opponentDraw).base
      (stalePlayer && !scene.base.player1CollisionFlag)
      (staleOpponent && !scene.writesOpponent scene.base) := by
  rw [PlayableScene.update_base, ← writes_after_player_check playerDraw scene scene.base]
  exact monster_check_tracked _ (opponent_check_tracked opponentDraw _ scene
    (player_check_tracked playerDraw scene.base tracked))

/-- An update leaves the round running exactly when nothing in its frame ends it. -/
theorem update_running_iff (playerDraw opponentDraw : MapPlace) (scene : PlayableScene)
    {stalePlayer staleOpponent : Bool} (tracked : Tracked scene.base stalePlayer staleOpponent) :
    isOver (scene.update playerDraw opponentDraw).base.trace = false ↔ scene.RoundGoesOn := by
  rw [PlayableScene.update_base, ← Bool.not_eq_true, monster_check_over, opponent_check_over,
    player_check_over, PlayableScene.RoundGoesOn]
  simp only [not_or, and_assoc, Bool.not_eq_true]
  refine and_congr_right fun running => and_congr_right fun short => ?_
  -- The round goes on after the first check, so the second one sees the flags of the start.
  have running1 :
      isOver (GameScene.methods.checkPlayerFlag playerDraw scene.base).trace = false := by
    rw [← Bool.not_eq_true, player_check_over, not_or]
    exact ⟨by simp [running], short⟩
  obtain ⟨score1, monster1, health1⟩ := player_check_frame playerDraw scene.base running1
  have ends : scene.opponentEnds (GameScene.methods.checkPlayerFlag playerDraw scene.base) ↔
      scene.opponentEnds scene.base := by
    simp only [PlayableScene.opponentEnds, player_check_opponent_flag, score1]
  rw [ends]
  refine and_congr_right fun apart => ?_
  have running2 : isOver (scene.opponentCheck opponentDraw
      (GameScene.methods.checkPlayerFlag playerDraw scene.base)).trace = false := by
    rw [← Bool.not_eq_true, opponent_check_over, not_or]
    exact ⟨by simp [running1], fun ended => apart (ends.mp ended)⟩
  obtain ⟨monster2, health2⟩ := opponent_check_frame opponentDraw _ scene running2
  have alive := (tracked running).hearts.alive
  rw [last_life _ (by rw [health2, health1]; exact alive), monster2, monster1, health2, health1,
    not_lt]

/-! ### Every event -/

theorem physics_tracked (playerAt opponentAt : MapPlace) (contacts : List Contact)
    (scene : GameScene) {stalePlayer staleOpponent : Bool}
    (tracked : Tracked scene stalePlayer staleOpponent) :
    Tracked (scene.physics playerAt opponentAt contacts) stalePlayer staleOpponent := by
  have same := physics_same playerAt opponentAt contacts scene
  have display := (physics_display playerAt opponentAt contacts scene).1
  intro running
  rw [same.isOver] at running
  obtain ⟨player, opponent, hearts⟩ := tracked running
  refine ⟨?_, ?_, ?_⟩
  · rw [display, same.player_Score]
    exact player
  · rw [display, same.score]
    exact opponent
  · refine hearts_same hearts same.health ?_ ?_ ?_ <;> rw [display]

/-- Try Again shows three hearts, sets the scores to zero and writes no label. -/
theorem reset_tracked (draw : MapPlace) (scene : GameScene) :
    Tracked (scene.resetGameAfterPlayerDied draw)
      (scene.info.playerScoreLabel ≠ playerText 0) (scene.info.AIScoreLabel ≠ opponentText 0) := by
  obtain ⟨player, opponent, health, info⟩ := reset_round draw scene
  intro running
  refine ⟨?_, ?_, ?_⟩
  · rw [info, player]
    by_cases fresh : scene.info.playerScoreLabel = playerText 0 <;> simp [LabelState, fresh]
  · rw [info, opponent]
    by_cases fresh : scene.info.AIScoreLabel = opponentText 0 <;> simp [LabelState, fresh]
  · constructor <;> simp [info, health]

/-- A scoring packet writes the label exactly when it changes the score. -/
theorem receive_scoring_tracked (value : Int) (pos : MapPlace) (device : PvPGameScene)
    {stalePlayer staleOpponent : Bool} (tracked : Tracked device.scene stalePlayer staleOpponent) :
    Tracked (device.receiveScoring value pos).scene stalePlayer
      (staleOpponent && !decide (value ≠ device.scene.score)) := by
  rw [PvPGameScene.receive_scoring_eq]
  intro running
  have same := check_win_running _ running
  rw [same] at running ⊢
  obtain ⟨player, opponent, hearts⟩ := tracked running
  by_cases known : value = device.scene.score
  · rw [if_pos known, known]
    exact ⟨player, by simpa using opponent, hearts_same hearts rfl rfl rfl rfl⟩
  · rw [if_neg known, decide_eq_true known]
    exact ⟨player, written_label rfl, hearts_same hearts rfl rfl rfl rfl⟩

theorem receive_tracked (message : Message) (device : PvPGameScene)
    {stalePlayer staleOpponent : Bool} (tracked : Tracked device.scene stalePlayer staleOpponent) :
    Tracked (device.receive message).scene stalePlayer
      (staleOpponent && !(PlayableScene.pvp device).messageWrites message) := by
  unfold PvPGameScene.receive
  split
  · rename_i started
    cases message with
    | checksum hash => simpa [PlayableScene.messageWrites] using tracked
    | position pos =>
        simp only [PlayableScene.messageWrites, Bool.not_false, Bool.and_true]
        intro running
        obtain ⟨player, opponent, hearts⟩ := tracked running
        exact ⟨player, opponent, hearts_same hearts rfl rfl rfl rfl⟩
    | death =>
        simp only [PlayableScene.messageWrites, Bool.not_false, Bool.and_true]
        intro running
        obtain ⟨player, opponent, hearts⟩ := tracked running
        exact ⟨player, opponent, hearts_same hearts rfl rfl rfl rfl⟩
    | scoring value pos =>
        simp only [PlayableScene.messageWrites, started, Bool.true_and]
        exact receive_scoring_tracked value pos device tracked
  · rename_i waiting
    cases message <;> simpa [PlayableScene.messageWrites, waiting] using tracked

/-- The base scene of every reachable state is tracked by the history of its labels. -/
theorem step_tracked (hud : HudScene) (event : HudEvent)
    (tracked : Tracked hud.scene.base hud.stalePlayer hud.staleOpponent) :
    Tracked (hud.step event).scene.base (hud.step event).stalePlayer
      (hud.step event).staleOpponent := by
  obtain ⟨scene, stalePlayer, staleOpponent, updated⟩ := hud
  cases event with
  | physics playerAt opponentAt contacts =>
      cases scene <;> exact physics_tracked playerAt opponentAt contacts _ tracked
  | update playerDraw opponentDraw => exact update_tracked playerDraw opponentDraw scene tracked
  | tryAgain draw => cases scene <;> exact reset_tracked draw _
  | receive message =>
      cases scene with
      | solo game => simpa [step, PlayableScene.receive, PlayableScene.messageWrites] using tracked
      | pvp device => exact receive_tracked message device tracked

theorem update_truthful_iff (hud : HudScene) (playerDraw opponentDraw : MapPlace)
    (tracked : Tracked hud.scene.base hud.stalePlayer hud.staleOpponent) :
    (hud.step (.update playerDraw opponentDraw)).Truthful ↔
      hud.LabelsWritten (.update playerDraw opponentDraw) := by
  have after := step_tracked hud (.update playerDraw opponentDraw) tracked
  have goes := update_running_iff playerDraw opponentDraw hud.scene tracked
  rw [Truthful, LabelsWritten, ← goes]
  refine ⟨fun truthful running => ?_, fun written _ running => ?_⟩
  · have stale := (shown_true_iff (after running)).mp (truthful rfl running)
    simpa [step] using stale
  · refine (shown_true_iff (after running)).mpr ?_
    simpa [step] using written running

theorem step_decides (hud : HudScene) (event : HudEvent)
    (tracked : Tracked hud.scene.base hud.stalePlayer hud.staleOpponent) :
    ((hud.step event).Truthful ↔ hud.LabelsWritten event) ∧
      (hud.LabelsWritten event → Tracked (hud.step event).scene.base
        (hud.step event).stalePlayer (hud.step event).staleOpponent) := by
  refine ⟨?_, fun _ => step_tracked hud event tracked⟩
  cases event with
  | update playerDraw opponentDraw =>
      exact update_truthful_iff hud playerDraw opponentDraw tracked
  | physics playerAt opponentAt contacts =>
      exact iff_of_true (fun updated => by cases updated) trivial
  | tryAgain draw => exact iff_of_true (fun updated => by cases updated) trivial
  | receive message => exact iff_of_true (fun updated => by cases updated) trivial

/-- A new round starts with both labels at zero and three hearts. -/
theorem start_shown (opponentIsAI : Bool) (trophy : MapPlace) (monsters : List String) :
    Shown { opponentIsAI, trophyPosition := trophy, monsters } false false where
  player := by
    change "Player Score: 0" = playerText 0
    decide
  opponent := by
    change "Opponent Score: 0" = opponentText 0
    decide
  hearts := ⟨show (1 : Int) ≤ 3 by decide, show (3 : Int) ≤ 3 by decide, rfl, rfl, rfl⟩

theorem truthful_iff_from (start : HudScene) (fresh : start.stalePlayer = false ∧
    start.staleOpponent = false) (shown : Shown start.scene.base false false)
    (events : List HudEvent) :
    Runs.Always step Truthful start events ↔ Runs.Meets step LabelsWritten start events := by
  refine Runs.always_iff_meets step LabelsWritten Truthful
    (fun hud => hud.Truthful ∧ Tracked hud.scene.base hud.stalePlayer hud.staleOpponent)
    (fun hud kept => kept.1) ?_ events start ?_
  · intro hud event kept
    obtain ⟨decides, keeps⟩ := step_decides hud event kept.2
    exact ⟨decides, fun written => ⟨decides.mpr written, keeps written⟩⟩
  · rw [fresh.1, fresh.2]
    exact ⟨fun _ _ => (shown_true_iff shown).mpr ⟨rfl, rfl⟩, fun _ => shown⟩

/-- In every run of the single-player scene, and in every run of a device of a
    match, the display is true at the end of every update that leaves a round
    running exactly when each such update finds no stale label or writes it. -/
theorem hud_truthful_iff (trophy : MapPlace) (monsters : List String) (events : List HudEvent) :
    (∀ signedIn difficulty,
      Runs.Always step Truthful (startSolo signedIn difficulty trophy monsters) events ↔
        Runs.Meets step LabelsWritten (startSolo signedIn difficulty trophy monsters) events) ∧
    ∀ device, Runs.Always step Truthful (startPvP trophy monsters device) events ↔
      Runs.Meets step LabelsWritten (startPvP trophy monsters device) events :=
  ⟨fun signedIn difficulty => truthful_iff_from (startSolo signedIn difficulty trophy monsters)
      ⟨rfl, rfl⟩ (start_shown true trophy monsters) events,
    fun device => truthful_iff_from (startPvP trophy monsters device) ⟨rfl, rfl⟩
      (start_shown false trophy monsters) events⟩

/-- The player collects a trophy and dies; Try Again leaves its label at one. -/
def diesWithTrophy : List HudEvent :=
  [.physics playerTile opponentTile [⟨"player1", "trophy"⟩], .update opponentTile opponentTile] ++
  (List.replicate 3 [HudEvent.physics playerTile opponentTile [⟨"player1", "monster1"⟩],
    .update opponentTile opponentTile]).flatten ++
  [.tryAgain opponentTile, .update opponentTile opponentTile]

theorem label_keeps_old_score : ¬ ∀ events : List HudEvent,
    Runs.Always step Truthful (startSolo true .Easy opponentTile ["monster1"]) events := by
  intro always
  have truthful := always diesWithTrophy 10 rfl (by decide)
  exact absurd truthful.1 (by decide)

end HudScene
end RelicRace
