import RelicRace.Game.AIScene
import RelicRace.Library.Runs

/-!
When a round is over and what may still disturb it. The trace of a scene is
read newest first: the round is over when `endGame` has run and
`resetGameAfterPlayerDied` has not run since. Each check of `update` gets one
lemma that says exactly when it disturbs a finished round, and the run lemma
follows from them.
-/

namespace RelicRace
open Library

/-- What physics, the frame loop and the user do to the single-player scene. -/
inductive SceneStep where
  | physics (playerAt opponentAt : MapPlace) (contacts : List Contact)
  | update (playerDraw opponentDraw : MapPlace)
  | tryAgain (draw : MapPlace)

def GameScene.physics (playerAt opponentAt : MapPlace) (contacts : List Contact)
    (scene : GameScene) : GameScene :=
  contacts.foldl GameScene.didBegin
    { scene with playerPosition := playerAt, opponentPosition := opponentAt }

namespace AIGameScene

def step (game : AIGameScene) : SceneStep → AIGameScene
  | .physics playerAt opponentAt contacts =>
      { game with scene := game.scene.physics playerAt opponentAt contacts }
  | .update playerDraw opponentDraw => methods.update playerDraw opponentDraw game
  | .tryAgain draw => game.tapTryAgain draw

/-- The scene after `setupGame`. -/
def start (signedIn : Bool) (difficulty : Difficulty) (trophy : MapPlace)
    (monsters : List String) : AIGameScene where
  scene := { opponentIsAI := true, trophyPosition := trophy, monsters }
  signedIn
  difficulty

end AIGameScene

/-! ### Finished rounds -/

def isOver : List Call → Bool
  | [] => false
  | .endGame :: _ => true
  | .resetGameAfterPlayerDied :: _ => false
  | _ :: earlier => isOver earlier

/-- A score changes, the AI is sent on a path or a round ends. -/
def Call.disturbs : Call → Bool
  | .incrementScore _ => true
  | .moveShortestPath _ _ => true
  | .onPlayerWin => true
  | .opponentWin => true
  | .onMonsterWin => true
  | _ => false

/-- Nothing disturbing has happened while the round was over. -/
def Quiet : List Call → Prop
  | [] => True
  | latest :: earlier => (isOver earlier = true → latest.disturbs = false) ∧ Quiet earlier

instance : (trace : List Call) → Decidable (Quiet trace)
  | [] => inferInstanceAs (Decidable True)
  | _ :: earlier =>
      have := instDecidableQuiet earlier
      inferInstanceAs (Decidable (_ ∧ _))

/-- A finished round stays finished: quiet, and with the scores `endGame` set. -/
def StaysFinished (scene : GameScene) : Prop :=
  Quiet scene.trace ∧ (isOver scene.trace = true → scene.player_Score = 0 ∧ scene.score = 0)

instance (scene : GameScene) : Decidable (StaysFinished scene) :=
  inferInstanceAs (Decidable (_ ∧ _))

namespace GameScene

/-- The frame that starts here leaves a finished round alone: a round that is
    over has no flag that a response would act on, and a round that is running
    does not end with the opponent's flag still to be handled. -/
def Undisturbed (scene : GameScene) : Prop :=
  (isOver scene.trace = true →
    scene.player1CollisionFlag = false ∧ scene.opponentCollisionFlag = false ∧
      (scene.monsterCollisionFlag = -1 ∨ 1 < scene.player_Health)) ∧
  (isOver scene.trace = false →
    ¬ (scene.player1CollisionFlag = true ∧ scene.player_Score = 4 ∧
      scene.opponentCollisionFlag = true))

instance (scene : GameScene) : Decidable scene.Undisturbed :=
  inferInstanceAs (Decidable (_ ∧ _))

end GameScene

/-- Only `update` can disturb a finished round. -/
def UndisturbedStep (game : AIGameScene) : SceneStep → Prop
  | .update _ _ => game.scene.Undisturbed
  | .physics _ _ _ => True
  | .tryAgain _ => True

/-! ### One frame -/

/-- An award is what a trophy response can disturb a finished round with. -/
theorem award_quiet (scene : GameScene) (tile : MapPlace) (actor : Actor) (trace : List Call) :
    Quiet (scene.placementCalls tile ++ .incrementScore actor :: trace) ↔
      Quiet trace ∧ isOver trace = false := by
  cases ai : scene.opponentIsAI <;> cases ended : isOver trace <;>
    simp [GameScene.placementCalls, ai, Quiet, isOver, ended, Call.disturbs]

theorem award_over (scene : GameScene) (tile : MapPlace) (actor : Actor) (trace : List Call) :
    isOver (scene.placementCalls tile ++ .incrementScore actor :: trace) = isOver trace := by
  cases ai : scene.opponentIsAI <;> simp [GameScene.placementCalls, ai, isOver]

/-- The end of a round is quiet when the round was not over before. -/
theorem ending_quiet (handler display : Call) (trace : List Call)
    (disturbing : handler.disturbs = true) (harmless : display.disturbs = false) :
    Quiet (display :: .endGame :: handler :: trace) ↔ Quiet trace ∧ isOver trace = false := by
  simp only [Quiet, harmless, disturbing, show Call.endGame.disturbs = false from rfl,
    implies_true, true_and]
  cases isOver trace <;> simp

section Frame
open GameScene
variable (tile : MapPlace) (scene : GameScene)

theorem player_check_quiet : Quiet (methods.checkPlayerFlag tile scene).trace ↔
    Quiet scene.trace ∧ ¬ (isOver scene.trace = true ∧ scene.player1CollisionFlag = true) := by
  rw [player_check_eq]
  split
  · rename_i touched
    split
    · simp only [GameScene.onPlayerWin, endGame, call_trace]
      rw [ending_quiet _ _ _ rfl rfl, player_response_eq, award_quiet, award_over]
      cases isOver scene.trace <;> simp [touched]
    · rw [player_response_eq, award_quiet]
      simp [touched]
  · rename_i missed
    simp [missed]

theorem opponent_check_quiet : Quiet (methods.checkOpponentFlag tile scene).trace ↔
    Quiet scene.trace ∧ ¬ (isOver scene.trace = true ∧ scene.opponentCollisionFlag = true) := by
  rw [opponent_check_eq, GameScene.checkOpponentWin]
  split
  · rename_i touched
    split
    · simp only [endGame, call_trace]
      rw [ending_quiet _ _ _ rfl rfl, opponent_response_eq, award_quiet, award_over]
      cases isOver scene.trace <;> simp [touched]
    · rw [opponent_response_eq, award_quiet]
      simp [touched]
  · rename_i missed
    simp [missed]

theorem monster_check_quiet : Quiet (methods.checkMonsterFlag scene).trace ↔
    Quiet scene.trace ∧ ¬ (isOver scene.trace = true ∧ scene.monsterCollisionFlag ≠ -1 ∧
      scene.loseLife.player_Health = 0) := by
  rw [monster_check_eq]
  split
  · rename_i hit
    split
    · rename_i dead
      simp only [GameScene.onMonsterWin, endGame, call_trace]
      rw [ending_quiet _ _ _ rfl rfl, lose_life_trace]
      cases isOver scene.trace <;> simp [hit, dead]
    · rename_i alive
      simp [lose_life_trace, alive]
  · rename_i missed
    simp only [ne_eq, not_not] at missed
    simp [missed]

/-- The check of the player's flag ends a round exactly at the fifth trophy. -/
theorem player_check_over : isOver (methods.checkPlayerFlag tile scene).trace = true ↔
    isOver scene.trace = true ∨ (scene.player1CollisionFlag = true ∧ scene.player_Score = 4) := by
  rw [player_check_eq]
  split
  · rename_i touched
    split
    · rename_i four
      simp [GameScene.onPlayerWin, endGame, isOver, touched, four]
    · rename_i short
      rw [player_response_eq, award_over]
      simp [short]
  · rename_i missed
    simp [missed]

/-- A check that ends the round leaves three lives. -/
theorem player_check_health (running : isOver scene.trace = false)
    (ended : isOver (methods.checkPlayerFlag tile scene).trace = true) :
    (methods.checkPlayerFlag tile scene).player_Health = 3 := by
  rw [player_check_over] at ended
  obtain ⟨touched, four⟩ := ended.resolve_left (by simp [running])
  rw [player_check_eq, if_pos touched, if_pos four]
  rfl

theorem opponent_check_health (running : isOver scene.trace = false)
    (ended : isOver (methods.checkOpponentFlag tile scene).trace = true) :
    (methods.checkOpponentFlag tile scene).player_Health = 3 := by
  rw [opponent_check_eq, GameScene.checkOpponentWin] at ended ⊢
  split at ended
  · rename_i touched
    rw [if_pos touched]
    split at ended
    · rename_i won
      rw [if_pos won]
      rfl
    · rw [opponent_response_eq, award_over, running] at ended
      cases ended
  · simp [running] at ended

theorem player_check_opponent_flag :
    (methods.checkPlayerFlag tile scene).opponentCollisionFlag = scene.opponentCollisionFlag := by
  rw [player_check_eq, player_response_eq]
  split
  · split <;> rfl
  · rfl

theorem last_life (alive : 1 ≤ scene.player_Health) :
    scene.loseLife.player_Health = 0 ↔ ¬ 1 < scene.player_Health := by
  rw [lose_life_left scene alive]
  omega

/-- A round that ends in this frame leaves three lives for the monster's check. -/
theorem ended_spares (playerDraw opponentDraw : MapPlace) (running : isOver scene.trace = false)
    (apart : ¬ ((scene.player1CollisionFlag = true ∧ scene.player_Score = 4) ∧
      scene.opponentCollisionFlag = true))
    (ended : isOver (methods.checkOpponentFlag opponentDraw
      (methods.checkPlayerFlag playerDraw scene)).trace = true) :
    (methods.checkOpponentFlag opponentDraw
      (methods.checkPlayerFlag playerDraw scene)).loseLife.player_Health ≠ 0 := by
  have health : (methods.checkOpponentFlag opponentDraw
      (methods.checkPlayerFlag playerDraw scene)).player_Health = 3 := by
    cases first : isOver (methods.checkPlayerFlag playerDraw scene).trace with
    | true =>
        have won := ((player_check_over playerDraw scene).mp first).resolve_left (by simp [running])
        have unset : (methods.checkPlayerFlag playerDraw scene).opponentCollisionFlag ≠ true := by
          rw [player_check_opponent_flag]
          exact fun touched => apart ⟨won, touched⟩
        rw [opponent_check_eq, if_neg unset]
        exact player_check_health playerDraw scene running first
    | false => exact opponent_check_health opponentDraw _ first ended
  rw [lose_life_left _ (by omega), health]
  decide

/-- A round that is over is left alone by a check whose flag is not set, so
    the flags and the health are still those of the start of the frame. -/
theorem update_quiet (playerDraw opponentDraw : MapPlace) (alive : 1 ≤ scene.player_Health) :
    Quiet (methods.update playerDraw opponentDraw scene).trace ↔
      Quiet scene.trace ∧ scene.Undisturbed := by
  rw [Methods.update, monster_check_quiet, opponent_check_quiet, player_check_quiet,
    player_check_opponent_flag, player_check_over, and_assoc, and_assoc, Undisturbed]
  refine and_congr_right fun _ => ?_
  -- A finished round is left alone flag by flag; a running one by what its first end leaves.
  cases ended : isOver scene.trace with
  | true =>
      cases touched : scene.player1CollisionFlag with
      | true => simp
      | false =>
          have first : methods.checkPlayerFlag playerDraw scene = scene := by
            rw [player_check_eq, if_neg (by simp [touched])]
          cases touched' : scene.opponentCollisionFlag with
          | true => simp
          | false =>
              have second : methods.checkOpponentFlag opponentDraw scene = scene := by
                rw [opponent_check_eq, if_neg (by simp [touched'])]
              rw [first, second, ended]
              simp only [last_life scene alive]
              simp
              tauto
  | false =>
      constructor
      · rintro ⟨-, calm, -⟩
        exact ⟨by simp, fun _ both => calm ⟨Or.inr ⟨both.1, both.2.1⟩, both.2.2⟩⟩
      · rintro ⟨-, calm⟩
        have apart : ¬ ((scene.player1CollisionFlag = true ∧ scene.player_Score = 4) ∧
            scene.opponentCollisionFlag = true) :=
          fun both => calm rfl ⟨both.1.1, both.1.2, both.2⟩
        refine ⟨by simp, ?_, fun hit =>
          ended_spares scene playerDraw opponentDraw ended apart hit.1 hit.2.2⟩
        rintro ⟨finished' | won, touched⟩
        · simp at finished'
        · exact apart ⟨won, touched⟩

theorem player_check_scores
    (reset : isOver scene.trace = true → scene.player_Score = 0 ∧ scene.score = 0)
    (quiet : Quiet (methods.checkPlayerFlag tile scene).trace)
    (ended : isOver (methods.checkPlayerFlag tile scene).trace = true) :
    (methods.checkPlayerFlag tile scene).player_Score = 0 ∧
      (methods.checkPlayerFlag tile scene).score = 0 := by
  have undisturbed := ((player_check_quiet tile scene).mp quiet).2
  rw [player_check_eq] at ended ⊢
  split at ended
  · rename_i touched
    rw [if_pos touched]
    split at ended
    · rename_i four
      rw [if_pos four]
      exact ⟨rfl, rfl⟩
    · rw [player_response_eq, award_over] at ended
      exact absurd ⟨ended, touched⟩ undisturbed
  · rename_i missed
    rw [if_neg missed]
    exact reset ended

theorem opponent_check_scores
    (reset : isOver scene.trace = true → scene.player_Score = 0 ∧ scene.score = 0)
    (quiet : Quiet (methods.checkOpponentFlag tile scene).trace)
    (ended : isOver (methods.checkOpponentFlag tile scene).trace = true) :
    (methods.checkOpponentFlag tile scene).player_Score = 0 ∧
      (methods.checkOpponentFlag tile scene).score = 0 := by
  have undisturbed := ((opponent_check_quiet tile scene).mp quiet).2
  rw [opponent_check_eq, GameScene.checkOpponentWin] at ended ⊢
  split at ended
  · rename_i touched
    rw [if_pos touched]
    split at ended
    · rename_i won
      rw [if_pos won]
      exact ⟨rfl, rfl⟩
    · rw [opponent_response_eq, award_over] at ended
      exact absurd ⟨ended, touched⟩ undisturbed
  · rename_i missed
    rw [if_neg missed]
    exact reset ended

theorem monster_check_scores
    (reset : isOver scene.trace = true → scene.player_Score = 0 ∧ scene.score = 0)
    (ended : isOver (methods.checkMonsterFlag scene).trace = true) :
    (methods.checkMonsterFlag scene).player_Score = 0 ∧
      (methods.checkMonsterFlag scene).score = 0 := by
  have scores := lose_life_scores scene
  rw [monster_check_eq] at ended ⊢
  split at ended
  · rename_i hit
    rw [if_pos hit]
    split at ended
    · rename_i dead
      rw [if_pos dead]
      exact ⟨rfl, rfl⟩
    · rename_i alive
      rw [if_neg alive, scores.1, scores.2]
      exact reset (lose_life_trace scene ▸ ended)
  · rename_i missed
    rw [if_neg missed]
    exact reset ended

/-- After every frame the player has a life left. -/
theorem update_alive (playerDraw opponentDraw : MapPlace) (alive : 1 ≤ scene.player_Health) :
    1 ≤ (methods.update playerDraw opponentDraw scene).player_Health := by
  have full : (1 : Int) ≤ 3 := by decide
  have first : 1 ≤ (methods.checkPlayerFlag playerDraw scene).player_Health := by
    rw [player_check_eq, player_response_eq]
    split
    · split
      · exact full
      · exact alive
    · exact alive
  have second (scene : GameScene) (alive : 1 ≤ scene.player_Health) :
      1 ≤ (methods.checkOpponentFlag opponentDraw scene).player_Health := by
    rw [opponent_check_eq, opponent_response_eq, GameScene.checkOpponentWin]
    split
    · split
      · exact full
      · exact alive
    · exact alive
  have third (scene : GameScene) (alive : 1 ≤ scene.player_Health) :
      1 ≤ (methods.checkMonsterFlag scene).player_Health := by
    rw [monster_check_eq]
    split
    · split
      · exact full
      · rename_i spared
        have left := lose_life_left scene alive
        omega
    · exact alive
  exact third _ (second _ first)

end Frame

/-! ### Runs -/

/-- What a step other than `update` does to the round. -/
structure SameRound (before after : GameScene) : Prop where
  player_Score : after.player_Score = before.player_Score
  score : after.score = before.score
  health : after.player_Health = before.player_Health
  isOver : isOver after.trace = isOver before.trace
  quiet : Quiet after.trace ↔ Quiet before.trace

namespace SameRound

theorem refl (scene : GameScene) : SameRound scene scene := ⟨rfl, rfl, rfl, rfl, Iff.rfl⟩

theorem trans {first second third : GameScene} (start : SameRound first second)
    (next : SameRound second third) : SameRound first third :=
  ⟨next.player_Score.trans start.player_Score, next.score.trans start.score,
    next.health.trans start.health, next.isOver.trans start.isOver, next.quiet.trans start.quiet⟩

theorem foldl {Item : Type} (change : GameScene → Item → GameScene)
    (same : ∀ scene item, SameRound scene (change scene item)) (items : List Item)
    (scene : GameScene) : SameRound scene (items.foldl change scene) := by
  induction items generalizing scene with
  | nil => exact refl scene
  | cons item rest ih => exact (same scene item).trans (ih (change scene item))

end SameRound

theorem did_begin_same (scene : GameScene) (contact : Contact) :
    SameRound scene (scene.didBegin contact) := by
  rcases GameScene.did_begin_cases scene contact with ⟨-, same⟩ | ⟨-, same⟩ | ⟨-, flag, same⟩
  · rw [same]
    exact ⟨rfl, rfl, rfl, rfl, by simp [GameScene.call, Quiet, Call.disturbs]⟩
  · rw [same]
    exact ⟨rfl, rfl, rfl, rfl, by simp [GameScene.call, Quiet, Call.disturbs]⟩
  · rw [same]
    exact ⟨rfl, rfl, rfl, rfl, Iff.rfl⟩

theorem physics_same (playerAt opponentAt : MapPlace) (contacts : List Contact)
    (scene : GameScene) : SameRound scene (scene.physics playerAt opponentAt contacts) := by
  have moved : SameRound scene
      { scene with playerPosition := playerAt, opponentPosition := opponentAt } :=
    ⟨rfl, rfl, rfl, rfl, Iff.rfl⟩
  exact moved.trans (SameRound.foldl _ did_begin_same contacts _)

/-- Physics changes nothing that is displayed. -/
theorem physics_display (playerAt opponentAt : MapPlace) (contacts : List Contact)
    (scene : GameScene) :
    (scene.physics playerAt opponentAt contacts).info = scene.info ∧
      (scene.physics playerAt opponentAt contacts).pauseHidden = scene.pauseHidden := by
  refine List.foldlRecOn contacts _
    (motive := fun after : GameScene =>
        after.info = scene.info ∧ after.pauseHidden = scene.pauseHidden)
    ⟨rfl, rfl⟩ fun after same contact _ => ?_
  rcases GameScene.did_begin_cases after contact with ⟨-, next⟩ | ⟨-, next⟩ | ⟨-, flag, next⟩ <;>
    · rw [next]
      exact same

theorem reset_trace (tile : MapPlace) (scene : GameScene) :
    isOver (scene.resetGameAfterPlayerDied tile).trace = false ∧
      (Quiet (scene.resetGameAfterPlayerDied tile).trace ↔ Quiet scene.trace) := by
  cases ai : scene.opponentIsAI <;>
    simp [GameScene.resetGameAfterPlayerDied, GameScene.sendAI, GameScene.placeTrophy,
      GameScene.call, ai, isOver, Quiet, Call.disturbs]

/-- Try Again sets the scores to zero, gives three lives and shows their hearts. -/
theorem reset_round (tile : MapPlace) (scene : GameScene) :
    (scene.resetGameAfterPlayerDied tile).player_Score = 0 ∧
      (scene.resetGameAfterPlayerDied tile).score = 0 ∧
      (scene.resetGameAfterPlayerDied tile).player_Health = 3 ∧
      (scene.resetGameAfterPlayerDied tile).info = { scene.info with
        heart1Hidden := false, heart2Hidden := false, heart3Hidden := false } := by
  rw [GameScene.resetGameAfterPlayerDied, GameScene.sendAI]
  split <;> exact ⟨rfl, rfl, rfl, rfl⟩

/-- A finished round has stayed finished and the player has a life left. -/
def RoundKept (scene : GameScene) : Prop := StaysFinished scene ∧ 1 ≤ scene.player_Health

theorem SameRound.kept {before after : GameScene} (same : SameRound before after)
    (kept : RoundKept before) : RoundKept after := by
  obtain ⟨⟨quiet, reset⟩, alive⟩ := kept
  refine ⟨⟨same.quiet.mpr quiet, ?_⟩, by rw [same.health]; exact alive⟩
  rw [same.isOver, same.player_Score, same.score]
  exact reset

theorem update_kept (playerDraw opponentDraw : MapPlace) (scene : GameScene)
    (kept : RoundKept scene) (undisturbed : scene.Undisturbed) :
    RoundKept (GameScene.methods.update playerDraw opponentDraw scene) := by
  obtain ⟨⟨quiet, reset⟩, alive⟩ := kept
  have quiet3 := (update_quiet scene playerDraw opponentDraw alive).mpr ⟨quiet, undisturbed⟩
  have quiet2 := ((monster_check_quiet _).mp quiet3).1
  have quiet1 := ((opponent_check_quiet _ _).mp quiet2).1
  refine ⟨⟨quiet3, ?_⟩, update_alive scene playerDraw opponentDraw alive⟩
  exact monster_check_scores _ (opponent_check_scores _ _
    (player_check_scores _ _ reset quiet1) quiet2)

namespace AIGameScene

theorem step_kept (game : AIGameScene) (step : SceneStep) (kept : RoundKept game.scene)
    (undisturbed : UndisturbedStep game step) : RoundKept (game.step step).scene := by
  cases step with
  | physics playerAt opponentAt contacts =>
      exact (physics_same playerAt opponentAt contacts game.scene).kept kept
  | update playerDraw opponentDraw =>
      rw [AIGameScene.step, update_scene]
      exact update_kept playerDraw opponentDraw game.scene kept undisturbed
  | tryAgain draw =>
      obtain ⟨running, quiet⟩ := reset_trace draw game.scene
      obtain ⟨_, _, health, _⟩ := reset_round draw game.scene
      refine ⟨⟨quiet.mpr kept.1.1, ?_⟩, ?_⟩
      · intro ended
        exact absurd (running.symm.trans ended) (by simp)
      · change 1 ≤ (game.scene.resetGameAfterPlayerDied draw).player_Health
        rw [health]
        decide

/-- A step that leaves the round quiet was undisturbed. -/
theorem step_undisturbed (game : AIGameScene) (step : SceneStep)
    (alive : 1 ≤ game.scene.player_Health) (quiet : Quiet (game.step step).scene.trace) :
    UndisturbedStep game step := by
  cases step with
  | physics playerAt opponentAt contacts => trivial
  | update playerDraw opponentDraw =>
      rw [AIGameScene.step, update_scene] at quiet
      exact ((update_quiet game.scene playerDraw opponentDraw alive).mp quiet).2
  | tryAgain draw => trivial

end AIGameScene

/-- In the single-player game a finished round stays finished, in every state
    of a run, exactly when each of its frames starts from an undisturbed scene. -/
theorem finished_round_stays_finished (signedIn : Bool) (difficulty : Difficulty)
    (trophy : MapPlace) (monsters : List String) (steps : List SceneStep) :
    Runs.Always AIGameScene.step (fun game => StaysFinished game.scene)
        (AIGameScene.start signedIn difficulty trophy monsters) steps ↔
      Runs.Meets AIGameScene.step UndisturbedStep
        (AIGameScene.start signedIn difficulty trophy monsters) steps := by
  apply Runs.always_iff_meets AIGameScene.step UndisturbedStep
    (fun game => StaysFinished game.scene) (fun game => RoundKept game.scene)
  · exact fun game kept => kept.1
  · intro game step kept
    have keeps := game.step_kept step kept
    exact ⟨⟨fun stays => game.step_undisturbed step kept.2 stays.1,
      fun undisturbed => (keeps undisturbed).1⟩, keeps⟩
  · exact ⟨⟨trivial, fun ended => absurd ended (by simp [AIGameScene.start, isOver])⟩,
      by simp [AIGameScene.start]⟩

/-- The player collects four trophies; then both actors touch the fifth one. -/
def lastTrophyShared : List SceneStep :=
  (List.replicate 4 [SceneStep.physics playerTile opponentTile [⟨"player1", "trophy"⟩],
    .update playerTile opponentTile]).flatten ++
  [.physics playerTile opponentTile [⟨"player1", "trophy"⟩, ⟨"trophy", "ai"⟩],
    .update playerTile opponentTile]

/-- After `endGame` the opponent still scores and the AI is sent on its way. -/
theorem finished_round_disturbed : ¬ ∀ steps : List SceneStep,
    Runs.Always AIGameScene.step (fun game => StaysFinished game.scene)
      (AIGameScene.start true .Easy playerTile []) steps := by
  intro always
  exact absurd (always lastTrophyShared 10) (by decide)

end RelicRace
