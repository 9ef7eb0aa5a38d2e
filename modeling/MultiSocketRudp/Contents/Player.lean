import MultiSocketRudp.Protocol

/-!
# The contents server

The packets that the contents server and its client exchange, and the session
class `Player` with its handlers.  A SEND packet carries, behind its sequence,
the id of an `IPacket` class and the parameters of the object.

Parameters are written to and read from a `NetBuffer`, whose source is not part
of the repository; what is relied on is that a parameter is read as it was
written.
-/

namespace MultiSocketRudp
namespace Contents

/-- `PacketId`. -/
abbrev PacketId := BitVec 32

/-- `PACKET_ID`. -/
inductive PacketIdType
  | invalidPacketId
  | ping
  | pong
  | testStringPacketReq
  | testStringPacketRes
  | testPacketReq
  | testPacketRes
  deriving DecidableEq, Repr

/-- Numeric value of a packet id. -/
def PacketIdType.toPacketId : PacketIdType → PacketId
  | .invalidPacketId => 0
  | .ping => 1
  | .pong => 2
  | .testStringPacketReq => 3
  | .testStringPacketRes => 4
  | .testPacketReq => 5
  | .testPacketRes => 6

/-- Different names are different ids. -/
theorem PacketIdType.toPacketId_injective :
    Function.Injective PacketIdType.toPacketId := by
  intro first second same
  cases first <;> cases second <;> first | rfl | cases same

/-- Objects of the `IPacket` classes. -/
inductive Packet
  | ping
  | pong
  | testStringPacketReq (testString : List Byte)
  | testStringPacketRes (echoString : List Byte)
  | testPacketReq (order : BitVec 32)
  | testPacketRes (order : BitVec 32)
  deriving DecidableEq, Repr

/-- `GetPacketId`, by its name. -/
def Packet.idType : Packet → PacketIdType
  | .ping => .ping
  | .pong => .pong
  | .testStringPacketReq _ => .testStringPacketReq
  | .testStringPacketRes _ => .testStringPacketRes
  | .testPacketReq _ => .testPacketReq
  | .testPacketRes _ => .testPacketRes

/-- `GetPacketId`. -/
def Packet.getPacketId (packet : Packet) : PacketId :=
  packet.idType.toPacketId

/-- The operators of `NetBuffer` for one parameter. -/
structure NetBufferStream (Buffer : Type) where
  /-- A buffer to which nothing has been written. -/
  empty : Buffer
  writeInt : BitVec 32 → Buffer
  writeString : List Byte → Buffer
  readInt : Buffer → BitVec 32
  readString : Buffer → List Byte
  readInt_writeInt : ∀ value, readInt (writeInt value) = value
  readString_writeString : ∀ value, readString (writeString value) = value

/-- What a SEND packet carries behind its sequence. -/
structure Message (Buffer : Type) where
  packetId : PacketId
  parameters : Buffer
  deriving DecidableEq, Repr

variable {Buffer : Type} (stream : NetBufferStream Buffer)

/-- `PacketToBuffer`. -/
def Packet.packetToBuffer : Packet → Buffer
  | .ping | .pong => stream.empty
  | .testStringPacketReq text | .testStringPacketRes text =>
      stream.writeString text
  | .testPacketReq order | .testPacketRes order => stream.writeInt order

/-- What `SendPacket` writes for a packet. -/
def Packet.message (packet : Packet) : Message Buffer :=
  ⟨packet.getPacketId, packet.packetToBuffer stream⟩

/-- `RUDPSession::BufferToPacket`: `MakePacket` finds the classes that
`ContentsPacketRegister::Init` has registered, and the new object reads its
parameters. -/
def bufferToPacket (buffer : Buffer) (packetId : PacketId) : Option Packet :=
  if packetId = PacketIdType.ping.toPacketId then some .ping
  else if packetId = PacketIdType.testStringPacketReq.toPacketId then
    some (.testStringPacketReq (stream.readString buffer))
  else if packetId = PacketIdType.testPacketReq.toPacketId then
    some (.testPacketReq (stream.readInt buffer))
  else none

namespace Player

/-- `Player::OnPing`, with the packets that it passes to `SendPacket`. -/
def onPing : List Packet := [.pong]

/-- `Player::OnTestStringPacketReq`. -/
def onTestStringPacketReq (testString : List Byte) : List Packet :=
  [.testStringPacketRes testString]

/-- `Player::OnTestPacketReq`. -/
def onTestPacketReq (order : BitVec 32) : List Packet :=
  [.testPacketRes order]

/-- The handlers behind the casts of `RegisterPacketHandler`. -/
def handle : Packet → List Packet
  | .ping => onPing
  | .testStringPacketReq testString => onTestStringPacketReq testString
  | .testPacketReq order => onTestPacketReq order
  | .pong | .testStringPacketRes _ | .testPacketRes _ => []

/-- `packetFactoryMap` has the id, after `Player::RegisterAllPacketHandler`. -/
def isRegistered (packetId : PacketId) : Bool :=
  packetId = PacketIdType.ping.toPacketId ∨
    packetId = PacketIdType.testPacketReq.toPacketId ∨
    packetId = PacketIdType.testStringPacketReq.toPacketId

/-- `RUDPSession::ProcessPacket` for a player: the packets that the handler
passes to `SendPacket`, or none when no handler is called. -/
def processPacket (recvPacket : Message Buffer) :
    Option (List (Message Buffer)) :=
  if isRegistered recvPacket.packetId then
    (bufferToPacket stream recvPacket.parameters recvPacket.packetId).map
      fun packet => (handle packet).map (Packet.message stream)
  else none

/-- The packets that a client may send are read back from their buffer. -/
theorem bufferToPacket_message
    {packet : Packet}
    (registered : isRegistered packet.getPacketId = true) :
    bufferToPacket stream (packet.packetToBuffer stream) packet.getPacketId =
      some packet := by
  cases packet with
  | ping => rfl
  | testStringPacketReq testString =>
      simp [bufferToPacket, Packet.getPacketId, Packet.idType,
        Packet.packetToBuffer, PacketIdType.toPacketId,
        stream.readString_writeString]
  | testPacketReq order =>
      simp [bufferToPacket, Packet.getPacketId, Packet.idType,
        Packet.packetToBuffer, PacketIdType.toPacketId,
        stream.readInt_writeInt]
  | pong | testStringPacketRes _ | testPacketRes _ => cases registered

/-- Every packet with a handler has a registered class. -/
theorem isSome_bufferToPacket
    {packetId : PacketId}
    (registered : isRegistered packetId = true)
    (buffer : Buffer) :
    (bufferToPacket stream buffer packetId).isSome := by
  simp only [isRegistered, decide_eq_true_eq] at registered
  unfold bufferToPacket
  rcases registered with rfl | rfl | rfl
  · rfl
  · rfl
  · rfl

/-- A handler is called for every packet whose id is registered, and for no
other. -/
theorem isSome_processPacket (recvPacket : Message Buffer) :
    (processPacket stream recvPacket).isSome =
      isRegistered recvPacket.packetId := by
  unfold processPacket
  split
  next registered =>
    rw [Option.isSome_map, registered]
    exact isSome_bufferToPacket stream registered _
  next unregistered =>
    rw [Bool.not_eq_true] at unregistered
    rw [unregistered]
    rfl

/-- What a player answers to a packet of its client. -/
theorem processPacket_message (packet : Packet) :
    processPacket stream (packet.message stream) =
      if isRegistered packet.getPacketId then
        some ((handle packet).map (Packet.message stream))
      else none := by
  unfold processPacket
  change (if isRegistered packet.getPacketId then _ else _) = _
  split
  next registered =>
    rw [Packet.message, bufferToPacket_message stream registered]
    rfl
  next => rfl

end Player

end Contents
end MultiSocketRudp
