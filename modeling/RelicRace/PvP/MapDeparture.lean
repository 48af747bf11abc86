import RelicRace.PvP.SharedWorld

/-!
The tap on Next up to `setupGame`. `setupStream` swallows the error of
`startStream`, so a stream that an earlier tap has opened is kept; `send` ends
the tap when it throws; the count that `write` returns is not looked at.
-/

namespace RelicRace
open Library

/-- One tap: what has left, the payload and whether `setupGame` is reached. -/
structure Sending (K : Type) where
  scene : MatchScene K
  outputStream : Bool
  encoded : Json.Bytes
  departure : Departure
  reachesSetup : Bool

/-- `write` returns -1 or a count of at most the requested length. -/
def Link.Counts (link : Link) : Prop :=
  ∀ count : Nat, -1 ≤ link.write count ∧ link.write count ≤ count

section Sending
variable {K : Type} [Field K] [LinearOrder K]

namespace MatchScene

/-- `setupStream`: a `startStream` that throws leaves `outputStream` as it was. -/
def setupStream (link : Link) (outputStream : Bool) : Bool := link.startStream || outputStream

/-- The `do` block of the tap before `setupGame`; `outputStream` tells whether
    a stream of an earlier tap is open. -/
def sendMap (platform : Platform K) (link : Link) (limit : Nat) (mazeDraws monsterDraws : Draws)
    (outputStream : Bool) (scene : MatchScene K) : Except Fault (Sending K) := do
  let outputStream := setupStream link outputStream
  let (buffer, scene) ← scene.makeGameData platform.frame limit mazeDraws monsterDraws
  let data := platform.coder.encodeAs GameEncodingBuffer.codec buffer
  if link.send then
    let written := if outputStream then data.take (link.write data.length).toNat else []
    return ⟨scene, outputStream, data, ⟨some (platform.md5 data), written⟩, true⟩
  else
    return ⟨scene, outputStream, data, ⟨none, []⟩, false⟩

/-- The first tap on Next is this block followed by `setupGame`. -/
theorem tap_next_eq [FloorRing K] [SquareRoot K] (platform : Platform K) (link : Link) (limit : Nat)
    (mazeDraws : Draws) (draws : SetupDraws K) (scene : MatchScene K) :
    scene.tapNext platform link limit mazeDraws draws = (do
      let sending ← scene.sendMap platform link limit mazeDraws draws.monsters false
      if sending.reachesSetup then
        let scene ← sending.scene.setupGame platform.frame draws.trophy
        return (sending.departure, scene)
      else return (sending.departure, sending.scene)) := by
  simp only [tapNext, sendMap, setupStream, Bool.or_false]
  cases scene.makeGameData platform.frame limit mazeDraws draws.monsters with
  | error fault => rfl
  | ok made =>
      cases sent : link.send <;> rfl

end MatchScene

/-- `setupGame` is reached only with the checksum sent and the whole map written. -/
def Sending.MapWentOut (platform : Platform K) (sending : Sending K) : Prop :=
  sending.reachesSetup = true →
    sending.departure.checksum = some (platform.md5 sending.encoded) ∧
      sending.departure.bytes = sending.encoded

theorem take_whole (bytes : Json.Bytes) (count : Int) (bound : count ≤ bytes.length) :
    bytes.take count.toNat = bytes ↔ bytes = [] ∨ count = bytes.length := by
  rw [List.take_eq_self_iff]
  cases bytes with
  | nil => simp
  | cons byte rest =>
      simp only [List.length_cons, reduceCtorEq, false_or] at bound ⊢
      omega

theorem encoded_buffer_opens (coder : Json.Coder) (buffer : GameEncodingBuffer) :
    coder.encodeAs GameEncodingBuffer.codec buffer ≠ [] := by
  intro empty
  have opens := coder.opens
    [("tiles", (Json.Codec.text.list.list).write buffer.tiles),
      ("paths", (GridPosition.codec.list.list).write buffer.paths)]
  have written : coder.encode (.object
    [("tiles", (Json.Codec.text.list.list).write buffer.tiles),
      ("paths", (GridPosition.codec.list.list).write buffer.paths)]) = [] := empty
  simp [written] at opens

/-- The game data of a tap can always be made. -/
theorem game_data_returns (frame : SceneFrame K) (extra : Nat) (mazeDraws monsterDraws : Draws)
    (scene : MatchScene K) : ∃ buffer ready, scene.makeGameData frame
      (Maze.roundBound MAX_COLUMNS MAX_ROWS + extra) mazeDraws monsterDraws =
        .ok (buffer, ready) := by
  obtain ⟨maze, manager, generated, made, scanned, shows, -⟩ :=
    Maze.generate_with_tiles extra mazeDraws
  obtain ⟨monsters, rest, spawned, -⟩ := Monster.generate_monsters_walk shows scanned.1 frame
    (List.range' 1 Monster.MAX_MONSTERS) monsterDraws
  exact ⟨GameEncodingBuffer.make maze monsters, scene.withMaze maze.graph manager monsters, by
    simp only [MatchScene.makeGameData, generated, run_ok, made, spawned, run_pure]⟩

/-- What one tap sends, by the outcomes of the link. -/
theorem send_map_returns (platform : Platform K) (link : Link) (extra : Nat)
    (mazeDraws monsterDraws : Draws) (outputStream : Bool) (scene : MatchScene K) :
    ∃ sending, scene.sendMap platform link (Maze.roundBound MAX_COLUMNS MAX_ROWS + extra) mazeDraws
        monsterDraws outputStream = .ok sending ∧ sending.encoded ≠ [] ∧
      sending.reachesSetup = link.send ∧
      (link.send = true → sending.departure =
        ⟨some (platform.md5 sending.encoded),
          if link.startStream || outputStream then
            sending.encoded.take (link.write sending.encoded.length).toNat else []⟩) := by
  obtain ⟨buffer, ready, made⟩ :=
    game_data_returns platform.frame extra mazeDraws monsterDraws scene
  simp only [MatchScene.sendMap, made, run_ok, MatchScene.setupStream]
  cases sent : link.send with
  | false => exact ⟨_, rfl, encoded_buffer_opens _ _, rfl, by simp⟩
  | true => exact ⟨_, rfl, encoded_buffer_opens _ _, rfl, fun _ => rfl⟩

/-- After a tap on Next, with a stream of an earlier tap or without one, the
    generator plays with the map out exactly when `send` throws or a stream is
    there and accepts every byte. -/
theorem map_went_out_iff (platform : Platform K) (link : Link) (counts : link.Counts)
    (extra : Nat) (mazeDraws monsterDraws : Draws) (outputStream : Bool) (scene : MatchScene K) :
    ∃ sending, scene.sendMap platform link (Maze.roundBound MAX_COLUMNS MAX_ROWS + extra) mazeDraws
        monsterDraws outputStream = .ok sending ∧
      (sending.MapWentOut platform ↔ (link.send = true →
        (link.startStream = true ∨ outputStream = true) ∧
          link.write sending.encoded.length = sending.encoded.length)) := by
  obtain ⟨sending, ran, opened, reaches, departs⟩ :=
    send_map_returns platform link extra mazeDraws monsterDraws outputStream scene
  refine ⟨sending, ran, ?_⟩
  rw [Sending.MapWentOut, reaches]
  refine forall_congr' fun sent => ?_
  rw [departs sent, ← Bool.or_eq_true]
  cases link.startStream || outputStream with
  | false => simp [Ne.symm opened]
  | true =>
      have whole := take_whole sending.encoded _ (counts sending.encoded.length).2
      simpa [opened] using whole

end Sending

theorem map_went_out_intact : ∃ sending,
    ({} : MatchScene ℝ).sendMap realPlatform .intact (Maze.roundBound MAX_COLUMNS MAX_ROWS + 0)
      firstChoices firstChoices false = .ok sending ∧ sending.MapWentOut realPlatform := by
  obtain ⟨sending, ran, wentOut⟩ := map_went_out_iff realPlatform .intact
    (fun count => ⟨by simp only [Link.intact]; omega, le_refl (count : Int)⟩) 0 firstChoices
    firstChoices false {}
  exact ⟨sending, ran, wentOut.mpr fun _ => ⟨Or.inl rfl, rfl⟩⟩

/-- `startStream` throws, all else succeeds. -/
def Link.noStream : Link := ⟨false, true, fun count => count⟩

theorem starts_without_map : ¬ ∀ (platform : Platform ℝ) (link : Link) (mazeDraws : Draws)
    (monsterDraws : Draws) (scene : MatchScene ℝ) (sending : Sending ℝ), link.Counts →
    scene.sendMap platform link (Maze.roundBound MAX_COLUMNS MAX_ROWS + 0) mazeDraws monsterDraws
      false = .ok sending → sending.MapWentOut platform := by
  intro always
  obtain ⟨sending, ran, opened, reaches, departs⟩ :=
    send_map_returns realPlatform .noStream 0 firstChoices firstChoices false {}
  have counts : Link.noStream.Counts := fun count =>
    ⟨by simp only [Link.noStream]; omega, le_refl (count : Int)⟩
  have wentOut := always realPlatform .noStream firstChoices firstChoices {} sending counts ran
    reaches
  rw [departs rfl] at wentOut
  exact opened wentOut.2.symm

end RelicRace
