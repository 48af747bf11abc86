import RelicRace.Library.Runs
import RelicRace.Library.Throttle
import RelicRace.PvP.Position

/-!
`MiniMapNode`: a second layer of tiles an eighth of the scene's size, and an icon for
every sprite on the tile that has the sprite's index. The icons of the player and the
trophy are moved with them; those of the opponent and the monsters follow in `update`,
when more than 0.125 seconds have passed.
-/

namespace RelicRace
open Library

section MiniMap
variable {K : Type} [Field K] [LinearOrder K]

/-- The seconds that have to be exceeded. -/
def iconInterval : K := ((125 : Nat) : K) / ((1000 : Nat) : K)

/-- The icons; there is one for each of the `count` monsters of the scene. -/
structure MiniMapNode (K : Type) (count : Nat) where
  playerPos : CGPoint K
  trophyPos : CGPoint K
  opponentPos : CGPoint K
  monstersPos : Fin count → CGPoint K

/-- The sprites with the minimap. `frames` holds the calls of `update`, oldest first,
    with the positions of the opponent and the monsters. -/
structure MapScene (K : Type) (count : Nat) where
  player : CGPoint K
  trophy : CGPoint K
  opponent : CGPoint K
  monsters : Fin count → CGPoint K
  minimap : MiniMapNode K count
  lastOppUpdate : K
  frames : List (K × CGPoint K × (Fin count → CGPoint K))

/-- What moves a sprite or an icon. The trophy moves by a response or by a packet, the
    opponent by its actions, by a packet or back to its start; `displaced` is the
    physics engine. -/
inductive MapEvent (K : Type) (count : Nat) where
  | track (velocity : CGPoint K)
  | displaced (position : CGPoint K)
  | hittingMonster
  | placeTrophy (tile : MapPlace)
  | moveOpponent (position : CGPoint K)
  | moveMonster (index : Fin count) (position : CGPoint K)
  | update (currentTime : K)

/-- The frame of the minimap: `scene.size.width/8` by `scene.size.height/8`. -/
def SceneFrame.mini [IsStrictOrderedRing K] (frame : SceneFrame K) : SceneFrame K where
  midX := 0
  midY := 0
  width := frame.width / ((8 : Nat) : K)
  height := frame.height / ((8 : Nat) : K)
  wide := div_pos frame.wide (Nat.cast_pos.mpr (by decide))
  tall := div_pos frame.tall (Nat.cast_pos.mpr (by decide))

variable [IsStrictOrderedRing K]

theorem icons_prompt : Throttle.Prompt (fun elapsed : K => elapsed > iconInterval) iconInterval :=
  ⟨div_nonneg (Nat.cast_nonneg 125) (Nat.cast_nonneg 1000), fun _ waits => not_lt.mp waits⟩

variable [FloorRing K] {count : Nat} (frame : SceneFrame K)

namespace MiniMapNode

/-- `update(position:property:)`: where it puts an icon. -/
def update (position : CGPoint K) : CGPoint K := frame.mini.tilePosition (frame.indexFrom position)

def updatePlayer (position : CGPoint K) (minimap : MiniMapNode K count) : MiniMapNode K count :=
  { minimap with playerPos := update frame position }

def updateTrophy (position : CGPoint K) (minimap : MiniMapNode K count) : MiniMapNode K count :=
  { minimap with trophyPos := update frame position }

def updateOpponent (position : CGPoint K) (minimap : MiniMapNode K count) :
    MiniMapNode K count :=
  { minimap with opponentPos := update frame position }

def updateMonsters (positions : Fin count → CGPoint K) (minimap : MiniMapNode K count) :
    MiniMapNode K count :=
  { minimap with monstersPos := fun index => update frame (positions index) }

/-- `init(maze:_:)`; the icon of the trophy waits for `trophySystemSetup`. -/
def make (player opponent : CGPoint K) (monsters : Fin count → CGPoint K) :
    MiniMapNode K count :=
  let minimap : MiniMapNode K count := ⟨⟨0, 0⟩, ⟨0, 0⟩, ⟨0, 0⟩, fun _ => ⟨0, 0⟩⟩
  ((minimap.updatePlayer frame player).updateOpponent frame opponent).updateMonsters frame monsters

end MiniMapNode

namespace MapScene

/-- `setupGame` with the monsters where they are and the tile of the first trophy. -/
def setupGame (monsters : Fin count → CGPoint K) (trophy : MapPlace) : MapScene K count :=
  let player := frame.tilePosition playerTile.1
  let opponent := frame.tilePosition opponentTile.1
  let trophy := frame.tilePosition trophy.1
  { player
    trophy
    opponent
    monsters
    minimap := (MiniMapNode.make frame player opponent monsters).updateTrophy frame trophy
    lastOppUpdate := 0
    frames := [] }

/-- The part of `update` after the flags; `startUpdateFlag` has been set. -/
def update (currentTime : K) (scene : MapScene K count) : MapScene K count :=
  let scene := { scene with
    frames := scene.frames ++ [(currentTime, scene.opponent, scene.monsters)] }
  if currentTime - scene.lastOppUpdate > iconInterval then
    { scene with
      minimap := (scene.minimap.updateOpponent frame scene.opponent).updateMonsters frame
        scene.monsters
      lastOppUpdate := currentTime }
  else scene

def step (scene : MapScene K count) : MapEvent K count → MapScene K count
  | .track velocity =>
      let player := ⟨scene.player.x + velocity.x * velocityMultiplier,
        scene.player.y + velocity.y * velocityMultiplier⟩
      { scene with player, minimap := scene.minimap.updatePlayer frame player }
  | .displaced position => { scene with player := position }
  | .hittingMonster =>
      let player := frame.tilePosition playerTile.1
      { scene with player, minimap := scene.minimap.updatePlayer frame player }
  | .placeTrophy tile =>
      let trophy := frame.tilePosition tile.1
      { scene with trophy, minimap := scene.minimap.updateTrophy frame trophy }
  | .moveOpponent position => { scene with opponent := position }
  | .moveMonster index position =>
      { scene with monsters := Function.update scene.monsters index position }
  | .update currentTime => scene.update frame currentTime

/-! ### What the icons show -/

/-- The icon is on the tile of the minimap that has the index of the position. -/
def Shows (icon position : CGPoint K) : Prop :=
  frame.mini.indexFrom icon = frame.indexFrom position

theorem update_shows (position : CGPoint K) :
    Shows frame (MiniMapNode.update frame position) position :=
  index_from_tile frame.mini _ (index_from_on_map frame position)

/-- The calls of `update` that moved the icons, newest first. -/
def samples (scene : MapScene K count) : List (K × CGPoint K × (Fin count → CGPoint K)) :=
  Throttle.samples (fun elapsed => elapsed > iconInterval) 0 scene.frames

/-- Where the opponent and the monsters were at the newest of these calls. -/
def sampled (start scene : MapScene K count) : CGPoint K × (Fin count → CGPoint K) :=
  match scene.samples with
  | [] => (start.opponent, start.monsters)
  | sample :: _ => sample.2

def TrophyShown (scene : MapScene K count) : Prop :=
  Shows frame scene.minimap.trophyPos scene.trophy

def PlayerShown (scene : MapScene K count) : Prop :=
  Shows frame scene.minimap.playerPos scene.player

/-- The other icons show where their sprites were at the newest sample, which is not
    older than 0.125 seconds at the last frame. -/
def OthersShown (start scene : MapScene K count) : Prop :=
  Shows frame scene.minimap.opponentPos (sampled start scene).1 ∧
    (∀ index, Shows frame (scene.minimap.monstersPos index) ((sampled start scene).2 index)) ∧
    ∀ earlier now positions, scene.frames = earlier ++ [(now, positions)] →
      now - Throttle.lastTime 0 scene.samples ≤ iconInterval

/-- The engine leaves the player on its tile. -/
def KeepsTile (scene : MapScene K count) : MapEvent K count → Prop
  | .displaced position => frame.indexFrom position = frame.indexFrom scene.player
  | _ => True

/-- The invariant of a run. -/
structure Drawn (start scene : MapScene K count) : Prop where
  trophy : TrophyShown frame scene
  opponent : Shows frame scene.minimap.opponentPos (sampled start scene).1
  monsters : ∀ index,
    Shows frame (scene.minimap.monstersPos index) ((sampled start scene).2 index)
  last : scene.lastOppUpdate = Throttle.lastTime 0 scene.samples

theorem setup_drawn (monsters : Fin count → CGPoint K) (trophy : MapPlace) :
    Drawn frame (setupGame frame monsters trophy) (setupGame frame monsters trophy) where
  trophy := update_shows frame _
  opponent := update_shows frame _
  monsters _ := update_shows frame _
  last := rfl

theorem update_drawn (start scene : MapScene K count) (drawn : Drawn frame start scene)
    (currentTime : K) : Drawn frame start (scene.update frame currentTime) := by
  have snoc : (scene.update frame currentTime).samples =
      if currentTime - scene.lastOppUpdate > iconInterval then
        (currentTime, scene.opponent, scene.monsters) :: scene.samples
      else scene.samples := by
    have frames : (scene.update frame currentTime).frames =
        scene.frames ++ [(currentTime, scene.opponent, scene.monsters)] := by
      simp only [update]
      split <;> rfl
    rw [samples, frames, Throttle.samples_snoc, Throttle.sample, drawn.last]
    rfl
  by_cases due : currentTime - scene.lastOppUpdate > iconInterval
  · have moved : scene.update frame currentTime =
        { scene with
          frames := scene.frames ++ [(currentTime, scene.opponent, scene.monsters)]
          minimap := (scene.minimap.updateOpponent frame scene.opponent).updateMonsters frame
            scene.monsters
          lastOppUpdate := currentTime } := if_pos due
    rw [if_pos due] at snoc
    refine ⟨?_, ?_, ?_, by rw [snoc, moved]; rfl⟩
    · rw [moved]
      exact drawn.trophy
    · rw [sampled, snoc, moved]
      exact update_shows frame scene.opponent
    · intro index
      rw [sampled, snoc, moved]
      exact update_shows frame (scene.monsters index)
  · have stayed : scene.update frame currentTime =
        { scene with
          frames := scene.frames ++ [(currentTime, scene.opponent, scene.monsters)] } := if_neg due
    rw [if_neg due] at snoc
    refine ⟨?_, ?_, ?_, by rw [snoc, stayed]; exact drawn.last⟩
    · rw [stayed]
      exact drawn.trophy
    · rw [sampled, snoc, stayed]
      exact drawn.opponent
    · intro index
      rw [sampled, snoc, stayed]
      exact drawn.monsters index

theorem step_drawn (start scene : MapScene K count) (event : MapEvent K count)
    (drawn : Drawn frame start scene) : Drawn frame start (scene.step frame event) := by
  cases event with
  | track velocity => exact ⟨drawn.trophy, drawn.opponent, drawn.monsters, drawn.last⟩
  | displaced position => exact ⟨drawn.trophy, drawn.opponent, drawn.monsters, drawn.last⟩
  | hittingMonster => exact ⟨drawn.trophy, drawn.opponent, drawn.monsters, drawn.last⟩
  | placeTrophy tile =>
      exact ⟨update_shows frame _, drawn.opponent, drawn.monsters, drawn.last⟩
  | moveOpponent position => exact ⟨drawn.trophy, drawn.opponent, drawn.monsters, drawn.last⟩
  | moveMonster index position => exact ⟨drawn.trophy, drawn.opponent, drawn.monsters, drawn.last⟩
  | update currentTime => exact update_drawn frame start scene drawn currentTime

theorem drawn_others (start scene : MapScene K count) (drawn : Drawn frame start scene) :
    OthersShown frame start scene := by
  refine ⟨drawn.opponent, drawn.monsters, fun earlier now positions last => ?_⟩
  rw [samples, last]
  exact Throttle.newest_age 0 icons_prompt earlier now positions

/-- The icon of the player is right after every step exactly when the engine keeps it
    on its tile; the tracking handler and the respawn put it right. -/
theorem step_player_shown (scene : MapScene K count) (event : MapEvent K count)
    (shown : PlayerShown frame scene) :
    PlayerShown frame (scene.step frame event) ↔ KeepsTile frame scene event := by
  cases event with
  | track velocity => exact iff_of_true (update_shows frame _) trivial
  | displaced position =>
      rw [PlayerShown, Shows] at shown ⊢
      rw [KeepsTile, step, shown]
      exact eq_comm
  | hittingMonster => exact iff_of_true (update_shows frame _) trivial
  | placeTrophy tile => exact iff_of_true shown trivial
  | moveOpponent position => exact iff_of_true shown trivial
  | moveMonster index position => exact iff_of_true shown trivial
  | update currentTime =>
      refine iff_of_true ?_ trivial
      simp only [step, update]
      split
      · exact shown
      · exact shown

/-- In every state of every run after the setup the minimap shows the trophy on its tile,
    and the opponent and the monsters on the tiles they were on at most 0.125 seconds
    before the last frame; it shows the player on its tile in every state exactly when
    the engine never moves it off its tile. -/
theorem minimap_shows (monsters : Fin count → CGPoint K) (trophy : MapPlace)
    (events : List (MapEvent K count)) :
    Runs.Always (step frame) (fun scene => TrophyShown frame scene ∧
        OthersShown frame (setupGame frame monsters trophy) scene)
      (setupGame frame monsters trophy) events ∧
    (Runs.Always (step frame) (PlayerShown frame) (setupGame frame monsters trophy) events ↔
      Runs.Meets (step frame) (KeepsTile frame) (setupGame frame monsters trophy) events) := by
  constructor
  · intro taken
    have drawn := Runs.run_keeps (step frame) (Drawn frame (setupGame frame monsters trophy))
      (fun scene event drawn => step_drawn frame _ scene event drawn) (events.take taken) _
      (setup_drawn frame monsters trophy)
    exact ⟨drawn.trophy, drawn_others frame _ _ drawn⟩
  · refine Runs.always_iff_meets (step frame) (KeepsTile frame) (PlayerShown frame)
      (PlayerShown frame) (fun _ shown => shown) ?_ events _ (update_shows frame _)
    intro scene event shown
    exact ⟨step_player_shown frame scene event shown,
      (step_player_shown frame scene event shown).mpr⟩

end MapScene
end MiniMap

/-- Two frames of a game with one monster, which walks on between them. -/
theorem minimap_shows_monster :
    Runs.Always (MapScene.step SceneFrame.unit) (fun scene => scene.TrophyShown SceneFrame.unit ∧
        MapScene.OthersShown SceneFrame.unit
          (MapScene.setupGame SceneFrame.unit (fun _ : Fin 1 => ⟨0, 0⟩) opponentTile) scene)
      (MapScene.setupGame SceneFrame.unit (fun _ : Fin 1 => ⟨0, 0⟩) opponentTile)
      [.update 1, .moveMonster 0 ⟨1, 0⟩, .update (9 / 8), .placeTrophy playerTile] :=
  (MapScene.minimap_shows SceneFrame.unit (fun _ => ⟨0, 0⟩) opponentTile _).1

end RelicRace
