import RelicRace.Game.Rounds

/-!
What the events of a single-player game do to the cached document of its user
and when they write it. A frame counts one relic for the player's flag; it
writes in the frames that end a round.
-/

namespace RelicRace

/-- The scene's own events, the two taps that leave it, the tap on "pause" with
    the value of `isPausing`, and the timer. -/
inductive GameEvent where
  | scene (step : SceneStep)
  | tapReturn
  | tapExit
  | tapPause (isPausing : Bool)
  | second

/-- The frame that starts here ends a round. -/
def GameScene.EndsRound (scene : GameScene) : Prop :=
  (scene.player1CollisionFlag = true ∧ scene.player_Score = 4) ∨
  (scene.opponentCollisionFlag = true ∧ 4 ≤ scene.score) ∨
  (scene.monsterCollisionFlag ≠ -1 ∧ scene.loseLife.player_Health = 0)

instance (scene : GameScene) : Decidable scene.EndsRound :=
  inferInstanceAs (Decidable (_ ∨ _))

namespace GameScene
variable (playerDraw opponentDraw : MapPlace) (scene : GameScene)

/-- A check that does not end the round leaves what the later ones look at. -/
theorem player_check_rest
    (running : ¬ (scene.player1CollisionFlag = true ∧ scene.player_Score = 4)) :
    (methods.checkPlayerFlag playerDraw scene).score = scene.score ∧
    (methods.checkPlayerFlag playerDraw scene).monsterCollisionFlag = scene.monsterCollisionFlag ∧
    (methods.checkPlayerFlag playerDraw scene).player_Health = scene.player_Health := by
  rw [player_check_eq]
  split
  · rename_i touched
    rw [if_neg fun four => running ⟨touched, four⟩, player_response_eq]
    exact ⟨rfl, rfl, rfl⟩
  · exact ⟨rfl, rfl, rfl⟩

theorem opponent_check_rest
    (running : ¬ (scene.opponentCollisionFlag = true ∧ 4 ≤ scene.score)) :
    (methods.checkOpponentFlag opponentDraw scene).monsterCollisionFlag =
      scene.monsterCollisionFlag ∧
    (methods.checkOpponentFlag opponentDraw scene).player_Health = scene.player_Health := by
  rw [opponent_check_eq, checkOpponentWin, opponent_response_eq]
  split
  · rename_i touched
    rw [if_neg]
    · exact ⟨rfl, rfl⟩
    · intro won
      exact running ⟨touched, by simp only at won; omega⟩
  · exact ⟨rfl, rfl⟩

theorem lose_life_health (other : GameScene) (same : other.player_Health = scene.player_Health) :
    other.loseLife.player_Health = scene.loseLife.player_Health := by
  rw [lose_life_eq, lose_life_eq, decreaseHealth, decreaseHealth, same]
  split
  · rfl
  · exact same

/-- Some check of the frame ends the round exactly when the frame starts so. -/
theorem ends_round_iff :
    ((scene.player1CollisionFlag = true ∧ scene.player_Score = 4) ∨
      ((methods.checkPlayerFlag playerDraw scene).opponentCollisionFlag = true ∧
        4 ≤ (methods.checkPlayerFlag playerDraw scene).score)) ∨
      ((methods.checkOpponentFlag opponentDraw
          (methods.checkPlayerFlag playerDraw scene)).monsterCollisionFlag ≠ -1 ∧
        (methods.checkOpponentFlag opponentDraw
          (methods.checkPlayerFlag playerDraw scene)).loseLife.player_Health = 0) ↔
    scene.EndsRound := by
  rw [EndsRound, or_assoc]
  -- The first check that ends the round decides; before it nothing has changed.
  by_cases won : scene.player1CollisionFlag = true ∧ scene.player_Score = 4
  · simp [won]
  · obtain ⟨score, monster, health⟩ := player_check_rest playerDraw scene won
    refine or_congr Iff.rfl ?_
    rw [player_check_opponent_flag, score]
    by_cases lost : scene.opponentCollisionFlag = true ∧ 4 ≤ scene.score
    · simp [lost]
    · obtain ⟨monster', health'⟩ := opponent_check_rest opponentDraw
        (methods.checkPlayerFlag playerDraw scene)
        (by rwa [player_check_opponent_flag, score])
      rw [monster', monster, lose_life_health _ _ (health'.trans health)]

end GameScene

namespace GameEvent

def apply (game : AIGameScene) : GameEvent → AIGameScene
  | .scene step => game.step step
  | .tapReturn => game.tapReturn
  | .tapExit => game
  | .tapPause isPausing => { game with timerRunning := isPausing }
  | .second => if game.timerRunning then { game with time := game.time + 1 } else game

/-- The event writes the cached document of a signed-in user. -/
def Writes (game : AIGameScene) : GameEvent → Prop
  | .scene (.update _ _) => game.scene.EndsRound
  | .tapReturn => True
  | _ => False

instance (game : AIGameScene) : (event : GameEvent) → Decidable (event.Writes game)
  | .scene (.update _ _) => inferInstanceAs (Decidable game.scene.EndsRound)
  | .tapReturn => inferInstanceAs (Decidable True)
  | .scene (.physics _ _ _) | .scene (.tryAgain _) | .tapExit | .tapPause _ | .second =>
      inferInstanceAs (Decidable False)

/-- The relics that the player collects. -/
def gain (game : AIGameScene) : GameEvent → Int
  | .scene (.update _ _) => if game.scene.player1CollisionFlag then 1 else 0
  | _ => 0

def leaves : GameEvent → Bool
  | .tapReturn | .tapExit => true
  | _ => false

end GameEvent

namespace AIGameScene

/-- The fields that a game can add to the cached document. -/
def fields : List String := ["currency", "easyTime", "hardTime", "impossibleTime"]

/-- A part of an event against the cached document: it adds `gain` relics and,
    for a signed-in user, writes exactly when `writes` holds. -/
structure Effect (before after : AIGameScene) (gain : Int) (writes : Prop) : Prop where
  signedIn : after.signedIn = before.signedIn
  stored : ∃ count, after.stored = List.replicate count after.allUserData ++ before.stored ∧
    (0 < count ↔ before.signedIn = true ∧ writes)
  currency : after.currency = before.currency + gain
  cached : before.currency = before.allUserData.int "currency" →
    after.currency = after.allUserData.int "currency"
  keeps : ∀ field, before.allUserData.Has field → after.allUserData.Has field
  adds : ∀ field, after.allUserData.Has field → before.allUserData.Has field ∨ field ∈ fields

/-- What leaves the cached document and the writes alone. -/
theorem Effect.none {before after : AIGameScene} {writes : Prop}
    (signedIn : after.signedIn = before.signedIn) (stored : after.stored = before.stored)
    (currency : after.currency = before.currency)
    (data : after.allUserData = before.allUserData) (silent : ¬ writes) :
    Effect before after 0 writes := by
  refine ⟨signedIn, ⟨0, by simp [stored], by simp [silent]⟩, by simp [currency], ?_, ?_, ?_⟩
  · rw [currency, data]
    exact id
  · intro field present
    rwa [data]
  · intro field present
    rw [data] at present
    exact Or.inl present

/-- A second part that leaves the data alone joins a first one. -/
theorem Effect.trans {first second third : AIGameScene} {gain : Int} {writes writes' : Prop}
    (start : Effect first second gain writes) (next : Effect second third 0 writes')
    (data : third.allUserData = second.allUserData) :
    Effect first third gain (writes ∨ writes') := by
  obtain ⟨count, stored, positive⟩ := start.stored
  obtain ⟨count', stored', positive'⟩ := next.stored
  refine ⟨next.signedIn.trans start.signedIn, ⟨count' + count, ?_, ?_⟩, ?_, ?_, ?_, ?_⟩
  · rw [stored', stored, data, ← List.append_assoc, List.replicate_append_replicate]
  · rw [start.signedIn] at positive'
    rw [Nat.add_pos_iff_pos_or_pos, positive, positive', and_or_left, or_comm]
  · rw [next.currency, start.currency, add_zero]
  · exact fun same => next.cached (start.cached same)
  · exact fun field present => next.keeps field (start.keeps field present)
  · intro field present
    rw [data] at present
    exact start.adds field present

/-- What the first part adds to the data, a second part may write. -/
theorem Effect.before_write {first second third : AIGameScene} {gain : Int} {writes : Prop}
    (start : Effect first second gain False) (next : Effect second third 0 writes) :
    Effect first third gain writes := by
  obtain ⟨count, stored, positive⟩ := start.stored
  obtain ⟨count', stored', positive'⟩ := next.stored
  -- The first part has written nothing, so all the writes are of the final data.
  have silent : count = 0 := by simpa using positive
  refine ⟨next.signedIn.trans start.signedIn, ⟨count', ?_, ?_⟩, ?_, ?_, ?_, ?_⟩
  · rw [stored', stored, silent]
    rfl
  · rw [positive', start.signedIn]
  · rw [next.currency, start.currency, add_zero]
  · exact fun same => next.cached (start.cached same)
  · exact fun field present => next.keeps field (start.keeps field present)
  · intro field present
    rcases next.adds field present with earlier | added
    · exact start.adds field earlier
    · exact Or.inr added

theorem Effect.congr {before after : AIGameScene} {gain : Int} {writes writes' : Prop}
    (effect : Effect before after gain writes)
    (same : before.signedIn = true → (writes ↔ writes')) : Effect before after gain writes' :=
  { effect with
    stored := by
      obtain ⟨count, stored, positive⟩ := effect.stored
      exact ⟨count, stored, positive.trans (and_congr_right same)⟩ }

/-! ### The writes -/

@[simp] theorem store_if_signed_in_data (game : AIGameScene) :
    game.storeIfSignedIn.allUserData = game.allUserData := by
  rw [storeIfSignedIn]
  split <;> rfl

theorem store_effect (game : AIGameScene) : Effect game game.storeIfSignedIn 0 True := by
  rw [storeIfSignedIn]
  split
  · rename_i user
    exact ⟨rfl, ⟨1, rfl, by simp [user]⟩, (add_zero _).symm, id, fun _ => id, fun _ => Or.inl⟩
  · rename_i guest
    exact ⟨rfl, ⟨0, rfl, by simp [guest]⟩, (add_zero _).symm, id, fun _ => id, fun _ => Or.inl⟩

theorem times_effect (game : AIGameScene) : Effect game game.appendTime 0 False := by
  have data : ∃ easy hard impossible : List Int, game.appendTime.allUserData =
      ((game.allUserData.set "easyTime" (.numbers easy)).set "hardTime" (.numbers hard)).set
        "impossibleTime" (.numbers impossible) := by
    rw [appendTime]
    cases game.difficulty <;> exact ⟨_, _, _, rfl⟩
  obtain ⟨easy, hard, impossible, data⟩ := data
  have rest : game.appendTime.signedIn = game.signedIn ∧ game.appendTime.stored = game.stored ∧
      game.appendTime.currency = game.currency := by
    rw [appendTime]
    cases game.difficulty <;> exact ⟨rfl, rfl, rfl⟩
  refine ⟨rest.1, ⟨0, by simp [rest.2.1], by simp⟩, by simp [rest.2.2], ?_, ?_, ?_⟩
  · intro same
    rw [rest.2.2, data, Document.int_set_other _ _ _ _ (by decide),
      Document.int_set_other _ _ _ _ (by decide), Document.int_set_other _ _ _ _ (by decide)]
    exact same
  · intro field present
    simp only [data, Document.has_set]
    exact Or.inr (Or.inr (Or.inr present))
  · intro field present
    simp only [data, Document.has_set] at present
    rcases present with rfl | rfl | rfl | present
    · exact Or.inr (by decide)
    · exact Or.inr (by decide)
    · exact Or.inr (by decide)
    · exact Or.inl present

theorem award_effect (tile : MapPlace) (game : AIGameScene) :
    Effect game (game.playerToTrophyResponse tile) 1 False := by
  refine ⟨rfl, ⟨0, rfl, by simp⟩, rfl, ?_, ?_, ?_⟩
  · intro _
    exact (Document.int_set _ _ _).symm
  · intro field present
    exact (Document.has_set _ _ _ _).mpr (Or.inr present)
  · intro field present
    rcases (Document.has_set _ _ _ _).mp present with rfl | present
    · exact Or.inr (by decide)
    · exact Or.inl present

theorem win_effect (game : AIGameScene) : Effect game game.onPlayerWin 0 True := by
  have stopped : Effect game game.invalidateTimer 0 False := Effect.none rfl rfl rfl rfl id
  have saved : Effect game game.invalidateTimer.saveTime 0 True :=
    (stopped.before_write (times_effect _)).before_write (store_effect _)
  have shown : Effect game.invalidateTimer.saveTime
      { game.invalidateTimer.saveTime with
        scene := game.invalidateTimer.saveTime.scene.onPlayerWin } 0 False :=
    Effect.none rfl rfl rfl rfl id
  exact ((saved.trans shown rfl).trans (store_effect _) (store_if_signed_in_data _)).congr
    fun _ => by simp

/-! ### The frame -/

theorem player_check_effect (tile : MapPlace) (game : AIGameScene) :
    Effect game (methods.checkPlayerFlag tile game)
      (if game.scene.player1CollisionFlag then 1 else 0)
      (game.scene.player1CollisionFlag = true ∧ game.scene.player_Score = 4) := by
  change Effect game (if game.scene.player1CollisionFlag then
      if (game.scene.playerToTrophyResponse tile).player_Score = 5 then
        (game.playerToTrophyResponse tile).onPlayerWin
      else game.playerToTrophyResponse tile
    else game) _ _
  simp only [GameScene.fifth_trophy]
  split
  · rename_i touched
    split
    · rename_i four
      exact ((award_effect tile game).before_write (win_effect _)).congr
        fun _ => by simp [touched, four]
    · rename_i short
      exact (award_effect tile game).congr fun _ => by simp [short]
  · rename_i missed
    exact Effect.none rfl rfl rfl rfl (by simp [missed])

theorem opponent_win_effect (game : AIGameScene) :
    Effect game game.checkOpponentWin 0 (game.scene.score ≥ 5) ∧
    game.checkOpponentWin.allUserData = game.allUserData := by
  rw [checkOpponentWin]
  split
  · rename_i won
    have stopped : Effect game game.invalidateTimer 0 False := Effect.none rfl rfl rfl rfl id
    have saved := stopped.before_write (store_effect _)
    have shown : Effect game.invalidateTimer.storeIfSignedIn
        { game.invalidateTimer.storeIfSignedIn with
          scene := game.invalidateTimer.storeIfSignedIn.scene.checkOpponentWin } 0 False :=
      Effect.none rfl rfl rfl rfl id
    exact ⟨(saved.trans shown rfl).congr fun _ => by simp [won], store_if_signed_in_data _⟩
  · rename_i short
    exact ⟨Effect.none rfl rfl rfl rfl (by simp [short]), rfl⟩

theorem opponent_check_effect (tile : MapPlace) (game : AIGameScene) :
    Effect game (methods.checkOpponentFlag tile game) 0
      (game.scene.opponentCollisionFlag = true ∧ 4 ≤ game.scene.score) ∧
    (methods.checkOpponentFlag tile game).allUserData = game.allUserData := by
  have raised : (game.opponentToTrophyResponse tile).scene.score = game.scene.score + 1 := by
    change (game.scene.opponentToTrophyResponse tile).score = _
    rw [GameScene.opponent_response_eq]
  have awarded : Effect game (game.opponentToTrophyResponse tile) 0 False :=
    Effect.none rfl rfl rfl rfl id
  change Effect game (if game.scene.opponentCollisionFlag then
      (game.opponentToTrophyResponse tile).checkOpponentWin else game) _ _ ∧
    (if game.scene.opponentCollisionFlag then
      (game.opponentToTrophyResponse tile).checkOpponentWin else game).allUserData = _
  split
  · rename_i touched
    have ending := opponent_win_effect (game.opponentToTrophyResponse tile)
    rw [raised] at ending
    refine ⟨(awarded.before_write ending.1).congr fun _ => ?_, ending.2⟩
    simp only [touched, true_and]
    omega
  · rename_i missed
    exact ⟨Effect.none rfl rfl rfl rfl (by simp [missed]), rfl⟩

theorem monster_check_effect (game : AIGameScene) :
    Effect game (methods.checkMonsterFlag game) 0
      (game.scene.monsterCollisionFlag ≠ -1 ∧ game.scene.loseLife.player_Health = 0) ∧
    (methods.checkMonsterFlag game).allUserData = game.allUserData := by
  change Effect game (if game.scene.monsterCollisionFlag ≠ -1 then
      if game.scene.loseLife.player_Health = 0 then
        onMonsterWin { game with scene := game.scene.loseLife }
      else { game with scene := game.scene.loseLife }
    else game) _ _ ∧
    (if game.scene.monsterCollisionFlag ≠ -1 then
      if game.scene.loseLife.player_Health = 0 then
        onMonsterWin { game with scene := game.scene.loseLife }
      else { game with scene := game.scene.loseLife }
    else game).allUserData = _
  split
  · rename_i hit
    split
    · rename_i dead
      have hurt : Effect game
          (invalidateTimer { game with scene := game.scene.loseLife }) 0 False :=
        Effect.none rfl rfl rfl rfl id
      have saved := hurt.before_write (store_effect _)
      have shown : Effect
          (invalidateTimer { game with scene := game.scene.loseLife }).storeIfSignedIn
          (onMonsterWin { game with scene := game.scene.loseLife }) 0 False :=
        Effect.none rfl rfl rfl rfl id
      exact ⟨(saved.trans shown rfl).congr fun _ => by simp [hit, dead],
        store_if_signed_in_data _⟩
    · rename_i alive
      exact ⟨Effect.none rfl rfl rfl rfl (by simp [alive]), rfl⟩
  · rename_i missed
    exact ⟨Effect.none rfl rfl rfl rfl (by simp [missed]), rfl⟩

theorem update_effect (playerDraw opponentDraw : MapPlace) (game : AIGameScene) :
    Effect game (methods.update playerDraw opponentDraw game)
      (if game.scene.player1CollisionFlag then 1 else 0) game.scene.EndsRound := by
  have player := player_check_effect playerDraw game
  obtain ⟨opponent, data⟩ :=
    opponent_check_effect opponentDraw (methods.checkPlayerFlag playerDraw game)
  obtain ⟨monster, data'⟩ := monster_check_effect
    (methods.checkOpponentFlag opponentDraw (methods.checkPlayerFlag playerDraw game))
  refine ((player.trans opponent data).trans monster data').congr fun _ => ?_
  rw [opponent_check_scene, player_check_scene]
  exact GameScene.ends_round_iff playerDraw opponentDraw game.scene

/-- Every event is an effect with its gain and its write. -/
theorem event_effect (game : AIGameScene) (event : GameEvent) :
    Effect game (event.apply game) (event.gain game) (event.Writes game) := by
  cases event with
  | scene step =>
      cases step with
      | physics playerAt opponentAt contacts => exact Effect.none rfl rfl rfl rfl id
      | update playerDraw opponentDraw => exact update_effect playerDraw opponentDraw game
      | tryAgain draw => exact Effect.none rfl rfl rfl rfl id
  | tapReturn => exact store_effect game
  | tapExit => exact Effect.none rfl rfl rfl rfl id
  | tapPause isPausing => exact Effect.none rfl rfl rfl rfl id
  | second =>
      rw [GameEvent.apply]
      split
      · exact Effect.none rfl rfl rfl rfl id
      · exact Effect.none rfl rfl rfl rfl id

end AIGameScene
end RelicRace
