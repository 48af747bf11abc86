import RelicRace.PvP.SharedWorld
import RelicRace.Transfer.Playable

/-!
The receiver of the map. The checksum is a message of the session, the map
comes as reads of a stream; both channels feed one comparison, which is made at
the end of the stream and not again. Behind the comparison a decoding that
throws leaves its `catch` block for the common tail of the branch.
-/

namespace RelicRace
open Library

section Receiver
variable {K : Type} [Field K] [LinearOrder K]

namespace MatchScene

/-- The `do` block at the end of the stream: the scene it leaves and whether
    the branch goes on to `setupGame`. -/
def beforeSetup (platform : Platform K) (draws : Draws) (scene : MatchScene K) :
    Except Fault (MatchScene K × Bool) :=
  if platform.md5 scene.streamedMap ≠ scene.checksumHash then
    .ok (scene.showConnectionErrorAlert "Checksums did not match", false)
  else do
    let scene ← scene.decodeMap platform draws
    return (scene, true)

theorem end_encountered_eq [FloorRing K] [SquareRoot K] (platform : Platform K)
    (draws : SetupDraws K) (scene : MatchScene K) :
    scene.endEncountered platform draws = (do
      let (scene, goesOn) ← scene.beforeSetup platform draws.monsters
      if goesOn then scene.setupGame platform.frame draws.trophy else return scene) := by
  rw [endEncountered, beforeSetup]
  split
  · rfl
  · cases scene.decodeMap platform draws.monsters <;> rfl

/-! ### Rejected transfers -/

def Rejected (platform : Platform K) (scene : MatchScene K) : Prop :=
  platform.md5 scene.streamedMap ≠ scene.checksumHash ∨
    platform.coder.decodeAs GameEncodingBuffer.codec scene.streamedMap = none

def RunsSetup (platform : Platform K) (draws : Draws) (scene : MatchScene K) : Prop :=
  ∃ ready, scene.beforeSetup platform draws = .ok (ready, true)

/-- The part of the scene that a rejected transfer may not touch. -/
structure SameGame (before after : MatchScene K) : Prop where
  mazeGraph : after.mazeGraph = before.mazeGraph
  graph : after.graph = before.graph
  tileManager : after.tileManager = before.tileManager
  sharedMonsters : after.sharedMonsters = before.sharedMonsters
  startUpdateFlag : after.startUpdateFlag = before.startUpdateFlag

theorem decode_map_builds (platform : Platform K) (draws : Draws) (scene : MatchScene K)
    (buffer : GameEncodingBuffer)
    (decoded : platform.coder.decodeAs GameEncodingBuffer.codec scene.streamedMap = some buffer) :
    (∃ ready, scene.decodeMap platform draws = .ok ready) ↔
      buffer.Builds platform.frame draws := by
  simp only [decodeMap, decoded, GameEncodingBuffer.Builds, run_bind_iff]
  constructor
  · rintro ⟨ready, maze, read, manager, made, result, got, -⟩
    exact ⟨maze, manager, result, read, made, got⟩
  · rintro ⟨maze, manager, result, read, made, got⟩
    exact ⟨_, maze, read, manager, made, result, got, rfl⟩

/-- A rejected transfer changes nothing, and exactly the others are set up. -/
def RejectsSafely [FloorRing K] [SquareRoot K] (platform : Platform K) (draws : SetupDraws K)
    (scene : MatchScene K) : Prop :=
  (scene.Rejected platform → ¬ scene.RunsSetup platform draws.monsters ∧
    ∃ after, scene.endEncountered platform draws = .ok after ∧ SameGame scene after) ∧
  (scene.RunsSetup platform draws.monsters ↔ ¬ scene.Rejected platform)

/-- With a matching checksum the branch runs into `setupGame`, whether or not
    the decoding has thrown. -/
theorem runs_setup_matched (platform : Platform K) (draws : Draws) (scene : MatchScene K)
    (matched : platform.md5 scene.streamedMap = scene.checksumHash) :
    scene.RunsSetup platform draws ↔ ∃ ready, scene.decodeMap platform draws = .ok ready := by
  simp only [RunsSetup, beforeSetup, matched, ne_eq, not_true_eq_false, if_false, run_bind_iff]
  constructor
  · rintro ⟨ready, middle, decoded, -⟩
    exact ⟨middle, decoded⟩
  · rintro ⟨ready, decoded⟩
    exact ⟨ready, ready, decoded, rfl⟩

theorem mismatch_returns (platform : Platform K) (draws : Draws) (scene : MatchScene K)
    (mismatch : platform.md5 scene.streamedMap ≠ scene.checksumHash) :
    scene.beforeSetup platform draws =
      .ok (scene.showConnectionErrorAlert "Checksums did not match", false) := by
  rw [beforeSetup, if_pos mismatch]

variable [FloorRing K] [SquareRoot K]

theorem mismatch_rejects_safely (platform : Platform K) (draws : SetupDraws K)
    (scene : MatchScene K) (mismatch : platform.md5 scene.streamedMap ≠ scene.checksumHash) :
    scene.RejectsSafely platform draws := by
  have returned := mismatch_returns platform draws.monsters scene mismatch
  have silent : ¬ scene.RunsSetup platform draws.monsters := by
    rintro ⟨ready, ran⟩
    simp [returned] at ran
  refine ⟨fun _ => ⟨silent, scene.showConnectionErrorAlert "Checksums did not match",
    ?_, ⟨rfl, rfl, rfl, rfl, rfl⟩⟩, iff_of_false silent (not_not_intro (Or.inl mismatch))⟩
  rw [end_encountered_eq, returned]
  rfl

/-- The alert is shown and the branch goes on: the transfer is rejected and set up. -/
theorem undecoded_rejects_unsafely (platform : Platform K) (draws : SetupDraws K)
    (scene : MatchScene K) (matched : platform.md5 scene.streamedMap = scene.checksumHash)
    (undecoded :
      platform.coder.decodeAs GameEncodingBuffer.codec scene.streamedMap = none) :
    ¬ scene.RejectsSafely platform draws := by
  intro safe
  have ready : scene.decodeMap platform draws.monsters =
      .ok (scene.showConnectionErrorAlert "Disconnected during setup") := by
    rw [decodeMap, undecoded]
  exact (safe.1 (Or.inr undecoded)).1 ((runs_setup_matched platform _ scene matched).mpr ⟨_, ready⟩)

theorem decoded_rejects_safely_iff (platform : Platform K) (draws : SetupDraws K)
    (scene : MatchScene K) (matched : platform.md5 scene.streamedMap = scene.checksumHash)
    (buffer : GameEncodingBuffer)
    (decoded : platform.coder.decodeAs GameEncodingBuffer.codec scene.streamedMap = some buffer) :
    scene.RejectsSafely platform draws ↔ buffer.Builds platform.frame draws.monsters := by
  have accepted : ¬ scene.Rejected platform := by
    rintro (mismatch | undecoded)
    · exact mismatch matched
    · simp [decoded] at undecoded
  rw [RejectsSafely, runs_setup_matched platform _ scene matched,
    decode_map_builds platform _ scene buffer decoded]
  simp [accepted]

/-- The end of a stream rejects safely exactly when bytes that match their checksum
    decode to a buffer that can be played on. -/
theorem rejects_safely_iff (platform : Platform K) (trophy : TrophyDraw K)
    (scene : MatchScene K) :
    (∀ monsters : Draws, scene.RejectsSafely platform ⟨monsters, trophy⟩) ↔
      (platform.md5 scene.streamedMap = scene.checksumHash → ∃ buffer,
        platform.coder.decodeAs GameEncodingBuffer.codec scene.streamedMap = some buffer ∧
          buffer.Playable platform.frame) := by
  by_cases matched : platform.md5 scene.streamedMap = scene.checksumHash
  · cases decoded : platform.coder.decodeAs GameEncodingBuffer.codec scene.streamedMap with
    | none =>
        refine iff_of_false (fun safe => ?_) fun plays => ?_
        · exact undecoded_rejects_unsafely platform _ scene matched decoded (safe fun _ => 0)
        · obtain ⟨buffer, found, -⟩ := plays matched
          cases found
    | some buffer =>
        simp only [decoded_rejects_safely_iff platform _ scene matched buffer decoded, matched,
          buffer.builds_iff platform.frame, forall_const, Option.some.injEq, exists_eq_left']
  · exact iff_of_true (fun _ => mismatch_rejects_safely platform _ scene matched) fun same =>
      absurd same matched

/-! ### The order of the two channels -/

/-- What reaches the receiver: the checksum message, a read of the stream or
    the end of the stream. -/
inductive Arrival where
  | checksum (hash : String)
  | read (data : Json.Bytes)
  | ended

/-- The checksum branch of `session(_:didReceive:fromPeer:)`. -/
def receiveChecksum (hash : String) (scene : MatchScene K) : MatchScene K :=
  if scene.startUpdateFlag then scene else { scene with checksumHash := hash }

def arrive (platform : Platform K) (draws : SetupDraws K) (scene : MatchScene K) :
    Arrival → Except Fault (MatchScene K)
  | .checksum hash => .ok (scene.receiveChecksum hash)
  | .read data => .ok { scene with streamedMap := hasBytesAvailable scene.streamedMap data }
  | .ended => scene.endEncountered platform draws

def arrivals (platform : Platform K) (draws : SetupDraws K) (schedule : List Arrival) :
    Except Fault (MatchScene K) :=
  schedule.foldlM (arrive platform draws) {}

/-- The receiver has started the game with the map of the sender. -/
def StartsWith (sender receiver : MatchScene K) : Prop :=
  receiver.startUpdateFlag = true ∧
    (∃ graph graph', sender.mazeGraph = some graph ∧ receiver.mazeGraph = some graph' ∧
      SameGraph graph graph') ∧
    receiver.monsters.map (·.actions) = sender.monsters.map (·.actions)

def Accepts (platform : Platform K) (draws : SetupDraws K) (sender : MatchScene K)
    (schedule : List Arrival) : Prop :=
  ∃ receiver, arrivals platform draws schedule = .ok receiver ∧ StartsWith sender receiver

/-- Reads before the end only collect bytes. -/
theorem reads_arrive (platform : Platform K) (draws : SetupDraws K) (chunks : List Json.Bytes)
    (rest : List Arrival) (scene : MatchScene K) :
    (chunks.map Arrival.read ++ rest).foldlM (arrive platform draws) scene =
      rest.foldlM (arrive platform draws)
        { scene with streamedMap := scene.streamedMap ++ chunks.flatten } := by
  induction chunks generalizing scene with
  | nil => simp
  | cons chunk others ih =>
      rw [List.map_cons, List.cons_append, List.foldlM_cons]
      simp only [arrive, run_ok, hasBytesAvailable]
      rw [ih]
      simp

/-- A checksum among the reads is there when the stream ends. -/
theorem checksum_in_time (platform : Platform K) (draws : SetupDraws K) (hash : String)
    {bytes : Json.Bytes} (reads : Reads bytes) (before after : List Json.Bytes)
    (cut : before ++ after = reads.chunks) :
    arrivals platform draws (before.map .read ++ .checksum hash :: (after.map .read ++ [.ended])) =
      (arrived hash reads).endEncountered platform draws := by
  have whole : before.flatten ++ after.flatten = bytes := by
    rw [← List.flatten_append, cut, reads.whole]
  rw [arrivals, reads_arrive, List.foldlM_cons]
  simp only [arrive, run_ok, receiveChecksum]
  rw [if_neg (by simp), reads_arrive]
  simp only [List.foldlM_cons, List.foldlM_nil, arrive, bind_pure, List.nil_append]
  rw [whole, arrived, streamed_map_whole]

/-- A checksum after the end finds what the end of the stream has left. -/
theorem checksum_last (platform : Platform K) (draws : SetupDraws K) (hash : String)
    {bytes : Json.Bytes} (reads : Reads bytes) :
    arrivals platform draws (reads.chunks.map .read ++ [.ended, .checksum hash]) = (do
      let scene ← (arrived "" reads).endEncountered platform draws
      return scene.receiveChecksum hash) := by
  rw [arrivals, reads_arrive]
  simp only [List.foldlM_cons, List.foldlM_nil, arrive, List.nil_append, reads.whole]
  rw [arrived, streamed_map_whole]
  cases endEncountered platform draws { streamedMap := bytes } <;> rfl

/-- A place for the checksum message among the events of the stream. -/
structure Interleaving {bytes : Json.Bytes} (reads : Reads bytes) where
  before : List Arrival
  after : List Arrival
  stream : before ++ after = reads.chunks.map .read ++ [.ended]

namespace Interleaving
variable {bytes : Json.Bytes} {reads : Reads bytes}

def schedule (place : Interleaving reads) (hash : String) : List Arrival :=
  place.before ++ .checksum hash :: place.after

/-- The checksum comes before the end of the stream, somewhere among the reads,
    or it comes last. -/
theorem cases (place : Interleaving reads) :
    (Arrival.ended ∈ place.after ∧ ∃ first second, first ++ second = reads.chunks ∧
      place.before = first.map .read ∧ place.after = second.map .read ++ [.ended]) ∨
    (Arrival.ended ∉ place.after ∧ place.before = reads.chunks.map .read ++ [.ended] ∧
      place.after = []) := by
  rcases List.append_eq_append_iff.mp place.stream with
    ⟨middle, split, rest⟩ | ⟨middle, split, rest⟩
  · obtain ⟨first, second, cut, left, right⟩ := List.map_eq_append_iff.mp split
    refine Or.inl ⟨by simp [rest], first, second, cut.symm, left.symm, ?_⟩
    rw [rest, right]
  · cases middle with
    | nil =>
        have after : place.after = [.ended] := by simpa using rest.symm
        exact Or.inl
          ⟨by simp [after], reads.chunks, [], by simp, by simpa using split, by simp [after]⟩
    | cons event others =>
        obtain ⟨rfl, last⟩ := List.cons.inj rest
        obtain ⟨rfl, empty⟩ := List.append_eq_nil_iff.mp last.symm
        exact Or.inr ⟨by simp [empty], split, empty⟩

end Interleaving

/-- The start of the game, by when the checksum arrives. -/
theorem accepts_iff (platform : Platform K) (draws : SetupDraws K) (sender : MatchScene K)
    {bytes : Json.Bytes} (reads : Reads bytes)
    (starts : ∃ receiver, (arrived (platform.md5 bytes) reads).endEncountered platform draws =
      .ok receiver ∧ StartsWith sender receiver) (place : Interleaving reads) :
    Accepts platform draws sender (place.schedule (platform.md5 bytes)) ↔
      Arrival.ended ∈ place.after ∨ platform.md5 bytes = "" := by
  obtain ⟨receiver, ran, started⟩ := starts
  rcases place.cases with ⟨early, first, second, cut, before, after⟩ | ⟨-, before, after⟩
  · refine iff_of_true ⟨receiver, ?_, started⟩ (Or.inl early)
    rw [Interleaving.schedule, before, after, checksum_in_time platform draws _ reads _ _ cut, ran]
  · have last := checksum_last platform draws (platform.md5 bytes) reads
    rw [Accepts, Interleaving.schedule, before, after, List.append_assoc, List.singleton_append,
      last]
    by_cases digest : platform.md5 bytes = ""
    · refine iff_of_true ⟨receiver, ?_, started⟩ (Or.inr digest)
      rw [digest] at ran ⊢
      rw [ran, run_ok, run_pure, receiveChecksum, if_pos started.1]
    · refine iff_of_false ?_ (by simp [digest])
      rintro ⟨rejected, returned, running, -⟩
      -- The comparison was made with the checksum of a new scene.
      rw [endEncountered, if_pos (by simpa [arrived] using digest)] at returned
      obtain rfl := Except.ok.inj returned
      simp [receiveChecksum, showConnectionErrorAlert, arrived] at running

variable [IsStrictOrderedRing K]

/-- What the generator sends is enough for any receiver that has the checksum. -/
theorem intact_transfer (platform : Platform K) (extra : Nat) (mazeDraws : Draws)
    (draws : SetupDraws K) : ∃ departure sender,
      tapNext platform .intact (Maze.roundBound MAX_COLUMNS MAX_ROWS + extra) mazeDraws draws {} =
        .ok (departure, sender) ∧
      departure.checksum = some (platform.md5 departure.bytes) ∧
      ∀ (reads : Reads departure.bytes) (draws' : SetupDraws K), ∃ receiver,
        (arrived (platform.md5 departure.bytes) reads).endEncountered platform draws' =
          .ok receiver ∧ StartsWith sender receiver := by
  obtain ⟨maze, manager, generated, made, scanned, shows, graph⟩ :=
    Maze.generate_with_tiles extra mazeDraws
  obtain ⟨tiles, candidates, -⟩ := TrophyScene.first_placement shows scanned.1 platform.frame
  obtain ⟨monsters, sender, tapped, started, scened, graph', walks, trophy⟩ := generator_sets_up
    scanned.1 shows platform _ mazeDraws maze generated graph made tiles candidates draws
  refine ⟨_, sender, tapped, rfl, ?_⟩
  intro reads draws'
  obtain ⟨receiver, ran, started', graph'', walks', -⟩ := receiver_sets_up scanned.1 shows
    platform maze rfl monsters tiles candidates reads draws'
  exact ⟨receiver, ran, started', ⟨_, _, graph', graph'', rebuilt_same_graph maze.data scanned.1⟩,
    by rw [walks, walks']⟩

/-- An intact map is accepted exactly when its checksum arrives before the end
    of the stream; the MD5 of no map is the empty string. -/
theorem map_accepted_iff (platform : Platform K) (extra : Nat) (mazeDraws : Draws)
    (draws : SetupDraws K) : ∃ departure checksum sender,
      tapNext platform .intact (Maze.roundBound MAX_COLUMNS MAX_ROWS + extra) mazeDraws draws {} =
        .ok (departure, sender) ∧
      departure.checksum = some checksum ∧
      ∀ (reads : Reads departure.bytes) (draws' : SetupDraws K) (place : Interleaving reads),
        Accepts platform draws' sender (place.schedule checksum) ↔
          Arrival.ended ∈ place.after ∨ platform.md5 departure.bytes = "" := by
  obtain ⟨departure, sender, tapped, sent, starts⟩ :=
    intact_transfer platform extra mazeDraws draws
  exact ⟨departure, _, sender, tapped, sent, fun reads draws' place =>
    accepts_iff platform draws' sender reads (starts reads draws') place⟩

end MatchScene
end Receiver

/-- The checksum after the end of the stream. -/
def MatchScene.Interleaving.last {bytes : Json.Bytes} (reads : Reads bytes) :
    MatchScene.Interleaving reads where
  before := reads.chunks.map .read ++ [.ended]
  after := []
  stream := by simp

theorem first_map_accepted_iff : ∃ departure checksum sender,
    MatchScene.tapNext realPlatform .intact (Maze.roundBound MAX_COLUMNS MAX_ROWS + 0) firstChoices
      (elementDraw 0) {} = .ok (departure, sender) ∧
    departure.checksum = some checksum ∧
    ∀ (reads : Reads departure.bytes) (draws' : SetupDraws ℝ)
      (place : MatchScene.Interleaving reads),
      MatchScene.Accepts realPlatform draws' sender (place.schedule checksum) ↔
        MatchScene.Arrival.ended ∈ place.after ∨ realPlatform.md5 departure.bytes = "" :=
  MatchScene.map_accepted_iff realPlatform 0 firstChoices (elementDraw 0)

/-- A platform whose MD5 of the bytes at hand is `hash`. -/
noncomputable def hashPlatform (hash : String) : Platform ℝ :=
  { realPlatform with md5 := fun _ => hash }

/-- The MD5 of the single byte 1. -/
def controlHash : String := "55a54008ad1ba589aa210d2629c1df41"

/-- An intact map whose checksum comes last is refused. -/
theorem late_checksum_refused : ¬ ∀ (platform : Platform ℝ) (mazeDraws : Draws)
    (draws draws' : SetupDraws ℝ) (departure : Departure) (checksum : String)
    (sender : MatchScene ℝ) (reads : Reads departure.bytes)
    (place : MatchScene.Interleaving reads),
    MatchScene.tapNext platform .intact (Maze.roundBound MAX_COLUMNS MAX_ROWS + 0) mazeDraws draws
      {} = .ok (departure, sender) → departure.checksum = some checksum →
    MatchScene.Accepts platform draws' sender (place.schedule checksum) := by
  intro accepted
  obtain ⟨departure, sender, tapped, sent, starts⟩ :=
    MatchScene.intact_transfer (hashPlatform controlHash) 0 firstChoices (elementDraw 0)
  let reads := Reads.single departure.bytes
  have late := (MatchScene.accepts_iff (hashPlatform controlHash) (elementDraw 0) sender reads
    (starts reads (elementDraw 0)) (.last reads)).mp
      (accepted _ _ _ _ departure _ sender reads _ tapped sent)
  revert late
  simp [MatchScene.Interleaving.last, hashPlatform, controlHash]

/-- The byte 1 with its MD5 decodes to nothing, and the branch goes on to `setupGame`. -/
theorem undecoded_map_runs_setup : ¬ ∀ (platform : Platform ℝ) (draws : SetupDraws ℝ)
    (scene : MatchScene ℝ), scene.RejectsSafely platform draws := by
  intro safe
  let scene : MatchScene ℝ := { streamedMap := [1], checksumHash := controlHash }
  exact MatchScene.undecoded_rejects_unsafely (hashPlatform controlHash) (elementDraw 0) scene rfl
    (Json.decode_control _ _) (safe _ _ _)

end RelicRace
