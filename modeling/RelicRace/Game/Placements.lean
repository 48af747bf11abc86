import RelicRace.Game.Rounds

/-!
Points and placements of the trophy. A placement counts once an actor has been
reported touching it; a point is an award of either score. In the balance of a
run every counted placement is either credited or still waiting behind a flag.
-/

namespace RelicRace
open Library

/-- Reports of contacts and frames, without a new start of the round. -/
inductive PlayStep where
  | physics (playerAt opponentAt : MapPlace) (contacts : List Contact)
  | update (playerDraw opponentDraw : MapPlace)

def PlayStep.toScene : PlayStep → SceneStep
  | .physics playerAt opponentAt contacts => .physics playerAt opponentAt contacts
  | .update playerDraw opponentDraw => .update playerDraw opponentDraw

def AIGameScene.play (game : AIGameScene) (step : PlayStep) : AIGameScene :=
  game.step step.toScene

/-- Points awarded to the two actors. -/
def awards : List Call → Nat
  | [] => 0
  | .incrementScore _ :: earlier => awards earlier + 1
  | _ :: earlier => awards earlier

/-- The present placement of the trophy has been touched. -/
def touched : List Call → Bool
  | [] => false
  | .contact _ :: _ => true
  | .setRandomPosition _ :: _ => false
  | _ :: earlier => touched earlier

/-- Placements on which at least one contact was reported. -/
def touchedPlacements : List Call → Nat
  | [] => 0
  | .contact _ :: earlier => touchedPlacements earlier + if touched earlier then 0 else 1
  | _ :: earlier => touchedPlacements earlier

def OnePoint (scene : GameScene) : Prop := awards scene.trace ≤ touchedPlacements scene.trace

instance (scene : GameScene) : Decidable (OnePoint scene) := inferInstanceAs (Decidable (_ ≤ _))

/-- No frame finds both trophy flags set. -/
def OneFlag (game : AIGameScene) : PlayStep → Prop
  | .update _ _ =>
      ¬ (game.scene.player1CollisionFlag = true ∧ game.scene.opponentCollisionFlag = true)
  | .physics _ _ _ => True

/-- The balance between frames: a touched placement waits behind a flag. -/
structure Balanced (scene : GameScene) : Prop where
  waiting : touched scene.trace = (scene.player1CollisionFlag || scene.opponentCollisionFlag)
  balance : awards scene.trace + (if touched scene.trace then 1 else 0) =
    touchedPlacements scene.trace

section Frame
open GameScene
variable (tile : MapPlace) (scene : GameScene)

theorem placement_counts (actor : Actor) (trace : List Call) :
    touched (scene.placementCalls tile ++ .incrementScore actor :: trace) = false ∧
      awards (scene.placementCalls tile ++ .incrementScore actor :: trace) = awards trace + 1 ∧
      touchedPlacements (scene.placementCalls tile ++ .incrementScore actor :: trace) =
        touchedPlacements trace := by
  cases ai : scene.opponentIsAI <;>
    simp [placementCalls, ai, touched, awards, touchedPlacements]

/-- What a check does to the counts when it credits a placement. -/
def Credits (before after : GameScene) : Prop :=
  touched after.trace = false ∧ awards after.trace = awards before.trace + 1 ∧
    touchedPlacements after.trace = touchedPlacements before.trace

def SameCounts (before after : GameScene) : Prop :=
  touched after.trace = touched before.trace ∧ awards after.trace = awards before.trace ∧
    touchedPlacements after.trace = touchedPlacements before.trace

theorem player_check_counts : (methods.checkPlayerFlag tile scene).player1CollisionFlag = false ∧
    (if scene.player1CollisionFlag then Credits scene (methods.checkPlayerFlag tile scene)
      else methods.checkPlayerFlag tile scene = scene) := by
  have counts := placement_counts tile scene .player scene.trace
  rw [player_check_eq, player_response_eq]
  cases flag : scene.player1CollisionFlag with
  | false => simpa using flag
  | true =>
      simp only [if_true]
      split
      · exact ⟨rfl, counts⟩
      · exact ⟨rfl, counts⟩

theorem opponent_check_counts :
    (methods.checkOpponentFlag tile scene).opponentCollisionFlag = false ∧
    (methods.checkOpponentFlag tile scene).player1CollisionFlag = scene.player1CollisionFlag ∧
    (if scene.opponentCollisionFlag then Credits scene (methods.checkOpponentFlag tile scene)
      else methods.checkOpponentFlag tile scene = scene) := by
  have counts := placement_counts tile scene .opponent scene.trace
  rw [opponent_check_eq, opponent_response_eq, GameScene.checkOpponentWin]
  cases flag : scene.opponentCollisionFlag with
  | false => simpa using flag
  | true =>
      simp only [if_true]
      split
      · exact ⟨rfl, rfl, counts⟩
      · exact ⟨rfl, rfl, counts⟩

theorem monster_check_counts : SameCounts scene (methods.checkMonsterFlag scene) ∧
    (methods.checkMonsterFlag scene).player1CollisionFlag = scene.player1CollisionFlag ∧
    (methods.checkMonsterFlag scene).opponentCollisionFlag = scene.opponentCollisionFlag := by
  have kept : scene.loseLife.trace = scene.trace ∧
      scene.loseLife.player1CollisionFlag = scene.player1CollisionFlag ∧
      scene.loseLife.opponentCollisionFlag = scene.opponentCollisionFlag := by
    rw [lose_life_eq]
    exact ⟨rfl, rfl, rfl⟩
  rw [monster_check_eq]
  split
  · split
    · refine ⟨?_, kept.2⟩
      simp [SameCounts, GameScene.onMonsterWin, endGame, call, kept.1, touched, awards,
        touchedPlacements]
    · exact ⟨by simp [SameCounts, kept.1], kept.2⟩
  · exact ⟨⟨rfl, rfl, rfl⟩, rfl, rfl⟩

/-- A frame with at most one flag keeps the balance. -/
theorem update_balanced (playerDraw opponentDraw : MapPlace) (balanced : Balanced scene)
    (single : ¬ (scene.player1CollisionFlag = true ∧ scene.opponentCollisionFlag = true)) :
    Balanced (methods.update playerDraw opponentDraw scene) := by
  obtain ⟨waiting, balance⟩ := balanced
  obtain ⟨unset, first⟩ := player_check_counts playerDraw scene
  have kept := player_check_opponent_flag playerDraw scene
  obtain ⟨unset', kept', second⟩ :=
    opponent_check_counts opponentDraw (methods.checkPlayerFlag playerDraw scene)
  obtain ⟨third, same, same'⟩ := monster_check_counts
    (methods.checkOpponentFlag opponentDraw (methods.checkPlayerFlag playerDraw scene))
  simp only [Methods.update]
  cases flag : scene.player1CollisionFlag with
  | true =>
      cases flag' : scene.opponentCollisionFlag with
      | true => exact absurd ⟨flag, flag'⟩ single
      | false =>
          simp only [flag, if_true, Credits] at first
          simp only [kept, flag', Bool.false_eq_true, if_false] at second
          simp only [second, SameCounts] at third same same'
          simp only [flag, Bool.true_or] at waiting
          simp only [waiting, if_true] at balance
          refine ⟨?_, ?_⟩
          · rw [second, third.1, first.1, same, unset, same', kept, flag']
            rfl
          · rw [second, third.1, first.1, third.2.1, third.2.2, first.2.1, first.2.2]
            simpa using balance
  | false =>
      simp only [flag, Bool.false_eq_true, if_false] at first
      rw [first] at second kept' unset' third same same' ⊢
      cases flag' : scene.opponentCollisionFlag with
      | true =>
          simp only [flag', if_true, Credits] at second
          simp only [flag', Bool.or_true] at waiting
          simp only [waiting, if_true] at balance
          refine ⟨?_, ?_⟩
          · rw [third.1, second.1, same, kept', flag, same', unset']
            rfl
          · rw [third.1, second.1, third.2.1, third.2.2, second.2.1, second.2.2]
            simpa using balance
      | false =>
          simp only [flag', Bool.false_eq_true, if_false] at second
          rw [second] at third same same' ⊢
          exact ⟨by rw [third.1, same, same']; exact waiting,
            by rw [third.1, third.2.1, third.2.2]; exact balance⟩

/-- A frame that finds both flags gives two points for one placement. -/
theorem update_double (playerDraw opponentDraw : MapPlace) (balanced : Balanced scene)
    (flag : scene.player1CollisionFlag = true) (flag' : scene.opponentCollisionFlag = true) :
    ¬ OnePoint (methods.update playerDraw opponentDraw scene) := by
  obtain ⟨waiting, balance⟩ := balanced
  obtain ⟨-, first⟩ := player_check_counts playerDraw scene
  have kept := player_check_opponent_flag playerDraw scene
  obtain ⟨-, -, second⟩ :=
    opponent_check_counts opponentDraw (methods.checkPlayerFlag playerDraw scene)
  obtain ⟨third, -, -⟩ := monster_check_counts
    (methods.checkOpponentFlag opponentDraw (methods.checkPlayerFlag playerDraw scene))
  simp only [flag, if_true, Credits] at first
  simp only [kept, flag', if_true, Credits] at second
  simp only [waiting, flag, Bool.true_or, if_true] at balance
  simp only [Methods.update, OnePoint, third.2.1, third.2.2, second.2.1, second.2.2, first.2.1,
    first.2.2]
  omega

theorem did_begin_balanced (contact : Contact) (balanced : Balanced scene) :
    Balanced (scene.didBegin contact) := by
  obtain ⟨waiting, balance⟩ := balanced
  rcases did_begin_cases scene contact with ⟨-, same⟩ | ⟨-, same⟩ | ⟨-, flag, same⟩
  · rw [same]
    refine ⟨by simp [call, touched], ?_⟩
    simp only [call, awards, touched, touchedPlacements, if_true]
    split at balance <;> simp_all
  · rw [same]
    refine ⟨by simp [call, touched], ?_⟩
    simp only [call, awards, touched, touchedPlacements, if_true]
    split at balance <;> simp_all
  · rw [same]
    exact ⟨waiting, balance⟩

theorem physics_balanced (playerAt opponentAt : MapPlace) (contacts : List Contact)
    (balanced : Balanced scene) : Balanced (scene.physics playerAt opponentAt contacts) := by
  rw [GameScene.physics]
  have moved : Balanced
      { scene with playerPosition := playerAt, opponentPosition := opponentAt } :=
    ⟨balanced.waiting, balanced.balance⟩
  generalize { scene with playerPosition := playerAt, opponentPosition := opponentAt } = start
    at moved
  induction contacts generalizing start with
  | nil => exact moved
  | cons contact rest ih => exact ih _ (did_begin_balanced start contact moved)

end Frame

theorem balanced_one_point (scene : GameScene) (balanced : Balanced scene) : OnePoint scene := by
  have balance := balanced.balance
  simp only [OnePoint]
  omega

theorem play_decides (game : AIGameScene) (step : PlayStep) (balanced : Balanced game.scene) :
    (OnePoint (game.play step).scene ↔ OneFlag game step) ∧
      (OneFlag game step → Balanced (game.play step).scene) := by
  cases step with
  | physics playerAt opponentAt contacts =>
      have next := physics_balanced game.scene playerAt opponentAt contacts balanced
      exact ⟨iff_of_true (balanced_one_point _ next) trivial, fun _ => next⟩
  | update playerDraw opponentDraw =>
      have frame : (game.play (.update playerDraw opponentDraw)).scene =
          GameScene.methods.update playerDraw opponentDraw game.scene :=
        AIGameScene.update_scene playerDraw opponentDraw game
      rw [frame]
      have next := fun single => update_balanced game.scene playerDraw opponentDraw balanced single
      refine ⟨⟨fun point both => ?_, fun single => balanced_one_point _ (next single)⟩, next⟩
      exact update_double game.scene playerDraw opponentDraw balanced both.1 both.2 point

/-- In the single-player game the points never exceed the touched placements,
    in every state of a run, exactly when no frame finds both flags set. -/
theorem one_trophy_one_point (signedIn : Bool) (difficulty : Difficulty) (trophy : MapPlace)
    (monsters : List String) (steps : List PlayStep) :
    Runs.Always AIGameScene.play (fun game => OnePoint game.scene)
        (AIGameScene.start signedIn difficulty trophy monsters) steps ↔
      Runs.Meets AIGameScene.play OneFlag
        (AIGameScene.start signedIn difficulty trophy monsters) steps :=
  Runs.always_iff_meets AIGameScene.play OneFlag (fun game => OnePoint game.scene)
    (fun game => Balanced game.scene) (fun game => balanced_one_point game.scene)
    play_decides steps _ ⟨rfl, rfl⟩

/-- Both actors touch the same trophy in one physics step: two points. -/
theorem one_trophy_two_points : ¬ ∀ steps : List PlayStep,
    Runs.Always AIGameScene.play (fun game => OnePoint game.scene)
      (AIGameScene.start true .Easy playerTile []) steps := by
  intro always
  exact absurd (always [.physics playerTile opponentTile [⟨"player1", "trophy"⟩, ⟨"trophy", "ai"⟩],
    .update playerTile opponentTile] 2) (by decide)

end RelicRace
