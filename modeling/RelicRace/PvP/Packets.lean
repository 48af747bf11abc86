import RelicRace.PvP.Device
import RelicRace.Monster.Routes
import RelicRace.Transfer.GameEncodingBuffer

/-!
The bytes of the messages and what `session(_:didReceive:fromPeer:)` makes of
them. The decoders are tried one after another; the bytes of a message are
accepted by the decoder of its own kind only, so the handler takes the branch
that `PvPGameScene.receive` names.
-/

namespace RelicRace
open Library

structure ChecksumPacket where
  hash : String
  deriving DecidableEq

structure ScoringPacket where
  score : Int
  pos : GridPosition
  deriving DecidableEq

def ChecksumPacket.codec : Json.Codec ChecksumPacket where
  write packet := .object [("hash", .text packet.hash)]
  read value := do
    let hash ← (value.key? "hash").bind Json.Codec.text.read
    return ⟨hash⟩
  read_write _ := rfl

def ScoringPacket.codec : Json.Codec ScoringPacket where
  write packet := .object
    [("score", .number packet.score), ("pos", GridPosition.codec.write packet.pos)]
  read value := do
    let score ← (value.key? "score").bind Json.Codec.number.read
    let pos ← (value.key? "pos").bind GridPosition.codec.read
    return ⟨score, pos⟩
  read_write _ := rfl

/-- `Int` has 64 bits. -/
def FitsInt (value : Int) : Prop := -(2 ^ 63) ≤ value ∧ value < 2 ^ 63

instance (value : Int) : Decidable (FitsInt value) := inferInstanceAs (Decidable (_ ∧ _))

def GridPosition.fits (place : GridPosition) : Bool := FitsInt place.column ∧ FitsInt place.row

def ScoringPacket.fits (packet : ScoringPacket) : Bool := FitsInt packet.score ∧ packet.pos.fits

/-! A decoder throws for a number that does not fit into its property. -/

def GridPosition.decode (coder : Json.Coder) (data : Json.Bytes) : Option GridPosition :=
  (coder.decodeAs GridPosition.codec data).filter GridPosition.fits

def ScoringPacket.decode (coder : Json.Coder) (data : Json.Bytes) : Option ScoringPacket :=
  (coder.decodeAs ScoringPacket.codec data).filter ScoringPacket.fits

/-- The data given to `mcSession.send`. -/
def Message.data (coder : Json.Coder) : Message → Json.Bytes
  | .checksum hash => coder.encodeAs ChecksumPacket.codec ⟨hash⟩
  | .position pos => coder.encodeAs GridPosition.codec pos.1
  | .scoring score pos => coder.encodeAs ScoringPacket.codec ⟨score, pos.1⟩
  | .death => [1]

/-- The values of a message are those of the properties it is sent from. -/
def Message.Fits : Message → Prop
  | .scoring score _ => FitsInt score
  | _ => True

theorem map_place_fits (place : MapPlace) : place.1.fits = true := by
  obtain ⟨rowLow, rowHigh, columnLow, columnHigh⟩ := place.2
  simp only [MAX_ROWS, MAX_COLUMNS] at rowHigh columnHigh
  refine decide_eq_true ?_
  simp only [FitsInt]
  omega

/-- `tileManager!.getTile(row:column:)` on the tiles of a map. -/
def mapPlace (place : GridPosition) : Except Fault MapPlace :=
  if onMap : OnMap place then .ok ⟨place, onMap⟩ else .error .indexOutOfRange

@[simp] theorem map_place_eq (place : MapPlace) : mapPlace place.1 = .ok place := by
  rw [mapPlace, dif_pos place.2]

namespace PvPGameScene
variable (coder : Json.Coder)

/-- The first byte of empty data is read past the end. -/
def sessionDidReceive (data : Json.Bytes) (device : PvPGameScene) : Except Fault PvPGameScene :=
  if !device.startUpdateFlag then
    match coder.decodeAs ChecksumPacket.codec data with
    | some checksum => .ok { device with checksumHash := checksum.hash }
    | none => .ok device
  else
    match GridPosition.decode coder data with
    | some gridPos => do
        let newPos ← mapPlace gridPos
        return device.receivePosition newPos
    | none =>
        match ScoringPacket.decode coder data with
        | some packet => do
            let newPos ← mapPlace packet.pos
            return device.receiveScoring packet.score newPos
        | none => do
            let value ← indexed data.head?
            return if value = 1 then device.receiveDeath else device

/-! ### The kinds of bytes -/

/-- The decoders of the other kinds miss a key in a checksum packet. -/
theorem checksum_data (hash : String) :
    coder.decodeAs ChecksumPacket.codec (Message.data coder (.checksum hash)) = some ⟨hash⟩ ∧
    GridPosition.decode coder (Message.data coder (.checksum hash)) = none ∧
    ScoringPacket.decode coder (Message.data coder (.checksum hash)) = none ∧
    (Message.data coder (.checksum hash)).head? = some 123 := by
  simp only [Message.data, GridPosition.decode, ScoringPacket.decode, Json.decode_other]
  exact ⟨rfl, rfl, rfl, coder.opens _⟩

theorem position_data (pos : MapPlace) :
    coder.decodeAs ChecksumPacket.codec (Message.data coder (.position pos)) = none ∧
    GridPosition.decode coder (Message.data coder (.position pos)) = some pos.1 := by
  simp only [Message.data, GridPosition.decode, Json.decode_other]
  refine ⟨rfl, ?_⟩
  rw [GridPosition.codec.read_write, Option.filter_some, if_pos (map_place_fits pos)]

theorem scoring_data (score : Int) (pos : MapPlace) (fits : FitsInt score) :
    coder.decodeAs ChecksumPacket.codec (Message.data coder (.scoring score pos)) = none ∧
    GridPosition.decode coder (Message.data coder (.scoring score pos)) = none ∧
    ScoringPacket.decode coder (Message.data coder (.scoring score pos)) =
      some ⟨score, pos.1⟩ := by
  have whole : ScoringPacket.fits ⟨score, pos.1⟩ = true := by
    simp [ScoringPacket.fits, fits, map_place_fits]
  simp only [Message.data, GridPosition.decode, ScoringPacket.decode, Json.decode_other]
  exact ⟨rfl, rfl, by rw [ScoringPacket.codec.read_write, Option.filter_some, if_pos whole]⟩

theorem death_data :
    GridPosition.decode coder (Message.data coder .death) = none ∧
    ScoringPacket.decode coder (Message.data coder .death) = none := by
  simp [Message.data, GridPosition.decode, ScoringPacket.decode]

/-- The handler reads the bytes of a message as `receive` reads the message. -/
theorem session_receives (message : Message) (fits : message.Fits) (device : PvPGameScene) :
    sessionDidReceive coder (message.data coder) device = .ok (device.receive message) := by
  cases message with
  | checksum hash =>
      obtain ⟨checksum, position, scoring, opens⟩ := checksum_data coder hash
      cases started : device.startUpdateFlag <;>
        simp [sessionDidReceive, receive, started, checksum, position, scoring, opens, indexed]
  | position pos =>
      obtain ⟨checksum, position⟩ := position_data coder pos
      cases started : device.startUpdateFlag <;>
        simp [sessionDidReceive, receive, started, checksum, position]
  | scoring score pos =>
      obtain ⟨checksum, position, scoring⟩ := scoring_data coder score pos fits
      cases started : device.startUpdateFlag <;>
        simp [sessionDidReceive, receive, started, checksum, position, scoring]
  | death =>
      obtain ⟨position, scoring⟩ := death_data coder
      simp only [sessionDidReceive, receive, position, scoring]
      cases started : device.startUpdateFlag <;> simp [Message.data, indexed]

end PvPGameScene
end RelicRace
