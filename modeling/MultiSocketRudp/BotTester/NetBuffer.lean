import MultiSocketRudp.Common.PacketFrame
import MultiSocketRudp.Lib.WriteBuffer

/-!
# The packet buffer of the bot tester

`NetBuffer` of the C# client is an array with a read and a write position.  A
packet is built in it either front to back or by writing the body first and
moving it behind the metadata as they are inserted.  An operation that throws
has no result.

The layout is declared a second time here, as the C# source declares it.
-/

namespace MultiSocketRudp
namespace BotTester

open PacketCrypto (littleEndian sequenceByte sequenceBytes wordBytes)
open WriteBuffer

/-- `PacketId`, an unsigned 32-bit word. -/
abbrev PacketId := BitVec 32

/-! ## The layout -/

/-- `HeaderSize` of the C# source. -/
def headerSize : Nat := 5

/-- `PacketTypeSize` of the C# source. -/
def packetTypeSize : Nat := 1

/-- `PacketSequenceSize` of the C# source. -/
def packetSequenceSize : Nat := 8

/-- `PacketIdSize` of the C# source. -/
def packetIdSize : Nat := 4

/-- `AuthTagSize` of the C# source. -/
def authTagSize : Nat := 16

/-- `PacketSequenceOffset`. -/
def packetSequenceOffset : Nat := headerSize + packetTypeSize

/-- `BodyOffsetCorePacket` and `BodyOffsetFullPacket`. -/
def bodyOffset (isCorePacket : Bool) : Nat :=
  if isCorePacket then headerSize + packetTypeSize + packetSequenceSize
  else headerSize + packetTypeSize + packetSequenceSize + packetIdSize

/-- `aadSize` of both methods. -/
def aadSize : Nat := headerSize + packetTypeSize + packetSequenceSize

/-- Values of the C# enumeration `PacketType`. -/
def packetTypeValue : PacketType → Byte
  | .invalidType => 0
  | .connectType => 1
  | .disconnectType => 2
  | .sendType => 3
  | .sendReplyType => 4
  | .heartbeatType => 5
  | .heartbeatReplyType => 6

/-- Values of the C# enumeration `PacketDirection`. -/
def packetDirectionValue : PacketDirection → Byte
  | .clientToServer => 0
  | .clientToServerReply => 1
  | .serverToClient => 2
  | .serverToClientReply => 3
  | .invalid => 255

/-- `CryptoHelper.WriteNonce`, which indexes the first four bytes of the salt. -/
def writeNonce
    (sessionSalt : List Byte)
    (packetSequence : PacketSequence)
    (direction : PacketDirection) : Option (List Byte) :=
  if 4 ≤ sessionSalt.length then
    some
      [(packetDirectionValue direction <<< 6) |||
          (sessionSalt.getD 0 0 &&& 0x3F),
        sessionSalt.getD 1 0, sessionSalt.getD 2 0, sessionSalt.getD 3 0,
        sequenceByte packetSequence 7, sequenceByte packetSequence 6,
        sequenceByte packetSequence 5, sequenceByte packetSequence 4,
        sequenceByte packetSequence 3, sequenceByte packetSequence 2,
        sequenceByte packetSequence 1, sequenceByte packetSequence 0]
  else none

/-! ## The buffer -/

/-- `NetBuffer`: the array with its length, `_readPos` and `_writePos`. -/
structure NetBuffer where
  buffer : Nat → Byte
  capacity : Nat
  readPos : Nat
  writePos : Nat

/-- What the receiver reads from a decoded packet. -/
structure Received where
  packetType : Byte
  packetSequence : PacketSequence
  packetId : Option PacketId
  body : List Byte
  deriving DecidableEq, Repr

namespace NetBuffer

/-- The constructor: an array of zeros. -/
def create (capacity : Nat) : NetBuffer :=
  ⟨fun _ => 0, capacity, 0, 0⟩

/-- `GetPacketBuffer`: the bytes up to the write position. -/
def getPacketBuffer (packet : NetBuffer) : List Byte :=
  front packet.buffer packet.writePos

/-- The test of `EnsureWritableFrom`. -/
def isWritableFrom (packet : NetBuffer) (offset count : Nat) : Bool :=
  offset + count ≤ packet.capacity

/-- `ReserveHeader`. -/
def reserveHeader (packet : NetBuffer) : Option NetBuffer :=
  if packet.isWritableFrom 0 headerSize then
    some { packet with readPos := 0, writePos := headerSize }
  else none

/-- `WriteBytes`. -/
def writeBytes (bytes : List Byte) (packet : NetBuffer) : Option NetBuffer :=
  if packet.isWritableFrom packet.writePos bytes.length then
    some
      { packet with
        buffer := write packet.buffer packet.writePos bytes
        writePos := packet.writePos + bytes.length }
  else none

/-- `WriteByte`. -/
def writeByte (value : Byte) (packet : NetBuffer) : Option NetBuffer :=
  packet.writeBytes [value]

/-- `WriteUShort`. -/
def writeUShort (value : BitVec 16) (packet : NetBuffer) : Option NetBuffer :=
  packet.writeBytes (wordBytes 2 value)

/-- `WriteULong`. -/
def writeULong (value : BitVec 64) (packet : NetBuffer) : Option NetBuffer :=
  packet.writeBytes (sequenceBytes value)

/-- The common body of the three insertions: what stands behind the offset is
moved back and the metadata are written in its place. -/
def insertMetadata
    (offset : Nat)
    (metadata : List Byte)
    (packet : NetBuffer) : Option NetBuffer :=
  if packet.writePos < offset then none
  else if packet.isWritableFrom packet.writePos metadata.length then
    let bodyLen := packet.writePos - offset
    let moved :=
      write packet.buffer (offset + metadata.length)
        (span packet.buffer offset bodyLen)
    some
      { packet with
        buffer := write moved offset metadata
        writePos := packet.writePos + metadata.length }
  else none

/-- `InsertPacketType`. -/
def insertPacketType (packetType : PacketType) :
    NetBuffer → Option NetBuffer :=
  insertMetadata headerSize [packetTypeValue packetType]

/-- `InsertPacketSequence`. -/
def insertPacketSequence (packetSequence : PacketSequence) :
    NetBuffer → Option NetBuffer :=
  insertMetadata (headerSize + packetTypeSize) (sequenceBytes packetSequence)

/-- `InsertPacketId`. -/
def insertPacketId (packetId : PacketId) : NetBuffer → Option NetBuffer :=
  insertMetadata (headerSize + packetTypeSize + packetSequenceSize)
    (wordBytes packetIdSize packetId)

/-- `BuildConnectPacket`. -/
def buildConnectPacket
    (sessionId : SessionIdType) (packet : NetBuffer) : Option NetBuffer :=
  ({ packet with readPos := headerSize, writePos := headerSize } : NetBuffer)
    |>.writeByte (packetTypeValue .connectType)
    |>.bind (writeULong 0)
    |>.bind (writeUShort sessionId)

/-- `BuildCorePacket`. -/
def buildCorePacket
    (packetType : PacketType)
    (packetSequence : PacketSequence)
    (packet : NetBuffer) : Option NetBuffer :=
  ({ packet with readPos := headerSize, writePos := headerSize } : NetBuffer)
    |>.writeByte (packetTypeValue packetType)
    |>.bind (writeULong packetSequence)

/-- `SetHeader`. -/
def setHeader
    (headerCode : Byte)
    (extraSize : Nat)
    (packet : NetBuffer) : Option NetBuffer :=
  if packet.writePos < headerSize then none
  else
    let payloadLength := packet.writePos - headerSize + extraSize
    if 65535 < payloadLength then none
    else
      let payloadSize := BitVec.ofNat 16 payloadLength
      some
        { packet with
          buffer := write packet.buffer 0
            [headerCode, payloadSize.setWidth 8,
              (payloadSize >>> 8).setWidth 8] }

/-! ## Reading -/

/-- `ReadBytes`. -/
def readBytes
    (count : Nat) (packet : NetBuffer) : Option (List Byte × NetBuffer) :=
  if packet.readPos + count ≤ packet.writePos then
    some
      (span packet.buffer packet.readPos count,
        { packet with readPos := packet.readPos + count })
  else none

/-- `SkipBytes`. -/
def skipBytes (count : Nat) (packet : NetBuffer) : Option NetBuffer :=
  (packet.readBytes count).map Prod.snd

/-- `ReadByte`. -/
def readByte (packet : NetBuffer) : Option (Byte × NetBuffer) :=
  (packet.readBytes 1).map (Prod.map (fun bytes => bytes.getD 0 0) id)

/-- `ReadUInt`. -/
def readUInt (packet : NetBuffer) : Option (BitVec 32 × NetBuffer) :=
  (packet.readBytes 4).map
    (Prod.map (fun bytes => (littleEndian bytes).setWidth 32) id)

/-- `ReadULong`. -/
def readULong (packet : NetBuffer) : Option (BitVec 64 × NetBuffer) :=
  (packet.readBytes 8).map (Prod.map littleEndian id)

/-! ## The codec -/

section Codec

variable {Key : Type*} (scheme : Aead.Scheme Key Byte) (aesGcm : Key)

/-- `NetBuffer.EncodePacket`. -/
def encodePacket
    (headerCode : Byte)
    (packetSequence : PacketSequence)
    (direction : PacketDirection)
    (sessionSalt : List Byte)
    (isCorePacket : Bool)
    (packet : NetBuffer) : Option NetBuffer :=
  let offset := bodyOffset isCorePacket
  if packet.writePos < offset then none
  else if packet.isWritableFrom packet.writePos authTagSize then
    (writeNonce sessionSalt packetSequence direction).bind fun nonce =>
      (packet.setHeader headerCode authTagSize).bind fun headed =>
        (scheme.sealed aesGcm nonce (span headed.buffer 0 aadSize)
            (span headed.buffer offset (headed.writePos - offset))).map
          fun sealing =>
            { headed with
              buffer :=
                write (write headed.buffer offset sealing.1)
                  headed.writePos sealing.2
              writePos := headed.writePos + authTagSize }
  else none

/-- `NetBuffer.DecodePacket`: the packet with its body decrypted in place and
its tag cut off, or `none` where the source returns false or throws. -/
def decodePacket
    (isCorePacket : Bool)
    (sessionSalt : List Byte)
    (direction : PacketDirection)
    (packet : NetBuffer) : Option NetBuffer :=
  let offset := bodyOffset isCorePacket
  let headerPayloadSize :=
    if headerSize ≤ packet.writePos then
      (littleEndian (span packet.buffer 1 2)).toNat
    else 0
  if packet.writePos < packetSequenceOffset + packetSequenceSize ∨
      packet.writePos < offset + authTagSize ∨
      headerPayloadSize ≠ packet.writePos - headerSize then none
  else
    let packetSequence :=
      littleEndian (span packet.buffer packetSequenceOffset packetSequenceSize)
    let authTagOffset := packet.writePos - authTagSize
    let bodySize := authTagOffset - offset
    (writeNonce sessionSalt packetSequence direction).bind fun nonce =>
      (scheme.opened aesGcm nonce (span packet.buffer 0 aadSize)
          (span packet.buffer offset bodySize)
          (span packet.buffer authTagOffset authTagSize)).map
        fun plaintext =>
          { packet with
            buffer := write packet.buffer offset plaintext
            writePos := packet.writePos - authTagSize }

/-- How `ProcessReceivedPacketAsync` reads a packet: the type, then the decoding
in the given layout, then the sequence, the packet id of a full packet and what
is left. -/
def receive
    (isCorePacket : Bool)
    (sessionSalt : List Byte)
    (direction : PacketDirection)
    (data : List Byte) : Option Received :=
  ((create data.length).writeBytes data).bind fun packet =>
    (packet.skipBytes headerSize).bind fun packet =>
      packet.readByte.bind fun (packetType, packet) =>
        (packet.decodePacket scheme aesGcm isCorePacket sessionSalt
            direction).bind fun packet =>
          packet.readULong.bind fun (packetSequence, packet) =>
            if isCorePacket then
              (packet.readBytes (packet.writePos - packet.readPos)).map
                fun (body, _) => ⟨packetType, packetSequence, none, body⟩
            else
              packet.readUInt.bind fun (packetId, packet) =>
                (packet.readBytes (packet.writePos - packet.readPos)).map
                  fun (body, _) =>
                    ⟨packetType, packetSequence, some packetId, body⟩

end Codec

/-! ## What the operations leave in the buffer -/

/-- A packet of some capacity with some bytes up to its write position. -/
structure Holds
    (packet : NetBuffer) (capacity : Nat) (bytes : List Byte) : Prop where
  /-- The array has the capacity. -/
  capacity_eq : packet.capacity = capacity
  /-- The bytes are what has been written. -/
  bytes_eq : packet.getPacketBuffer = bytes

namespace Holds

variable {packet : NetBuffer} {capacity : Nat} {bytes : List Byte}

theorem writePos_eq (holds : packet.Holds capacity bytes) :
    packet.writePos = bytes.length := by
  rw [← holds.bytes_eq, getPacketBuffer, front_length]

/-- A part of the written bytes. -/
theorem span_eq
    (holds : packet.Holds capacity bytes)
    {offset count : Nat}
    (inside : offset + count ≤ bytes.length) :
    span packet.buffer offset count = (bytes.drop offset).take count := by
  rw [← holds.writePos_eq] at inside
  rw [← holds.bytes_eq, getPacketBuffer, take_drop_front packet.buffer inside]

/-- The written bytes behind an offset. -/
theorem span_eq_drop
    (holds : packet.Holds capacity bytes)
    {offset : Nat}
    (inside : offset ≤ bytes.length) :
    span packet.buffer offset (bytes.length - offset) = bytes.drop offset := by
  rw [holds.span_eq (by omega), List.take_of_length_le (by simp)]

/-- The first written bytes. -/
theorem front_eq
    (holds : packet.Holds capacity bytes)
    {count : Nat}
    (inside : count ≤ bytes.length) :
    front packet.buffer count = bytes.take count := by
  rw [← span_zero, holds.span_eq (by omega), List.drop_zero]

/-- A reserved header is five zeros. -/
theorem reserveHeader (fits : headerSize ≤ capacity) :
    ∃ reserved, (create capacity).reserveHeader = some reserved ∧
      reserved.Holds capacity [0, 0, 0, 0, 0] := by
  have writable : (create capacity).isWritableFrom 0 headerSize = true := by
    simpa [isWritableFrom, create] using fits
  exact ⟨_, if_pos writable, rfl, rfl⟩

/-- `WriteBytes` appends. -/
theorem writeBytes
    (holds : packet.Holds capacity bytes)
    (appended : List Byte)
    (fits : bytes.length + appended.length ≤ capacity) :
    ∃ written, packet.writeBytes appended = some written ∧
      written.Holds capacity (bytes ++ appended) ∧
      written.readPos = packet.readPos := by
  have writable :
      packet.isWritableFrom packet.writePos appended.length = true := by
    simpa [isWritableFrom, holds.writePos_eq, holds.capacity_eq] using fits
  refine ⟨_, if_pos writable, ⟨holds.capacity_eq, ?_⟩, rfl⟩
  rw [getPacketBuffer, front_write, ← holds.bytes_eq, getPacketBuffer]

/-- An insertion puts the metadata between what stands before the offset and
what stands behind it. -/
theorem insertMetadata
    {before behind : List Byte}
    (holds : packet.Holds capacity (before ++ behind))
    (metadata : List Byte)
    (fits : before.length + metadata.length + behind.length ≤ capacity) :
    ∃ inserted,
      packet.insertMetadata before.length metadata = some inserted ∧
      inserted.Holds capacity (before ++ metadata ++ behind) := by
  have length := holds.writePos_eq
  rw [List.length_append] at length
  have reached : ¬ packet.writePos < before.length := by omega
  have writable :
      packet.isWritableFrom packet.writePos metadata.length = true := by
    simp only [isWritableFrom, holds.capacity_eq, decide_eq_true_eq]
    omega
  have moved :
      span packet.buffer before.length (packet.writePos - before.length) =
        behind := by
    rw [holds.writePos_eq, holds.span_eq_drop (by simp), List.drop_left]
  have kept : front packet.buffer before.length = before := by
    rw [holds.front_eq (by simp), List.take_left]
  unfold NetBuffer.insertMetadata
  simp only [if_neg reached, if_pos writable, moved]
  refine ⟨_, rfl, holds.capacity_eq, ?_⟩
  have total :
      packet.writePos + metadata.length =
        before.length + metadata.length + behind.length := by
    omega
  simp only [getPacketBuffer, total]
  rw [front_write_within _ _ _ (by omega), front_write,
    front_write_of_le _ _ (by omega), kept, List.drop_left' (front_length _ _)]

/-- `SetHeader` writes the header that the other implementation writes. -/
theorem setHeader
    (holds : packet.Holds capacity bytes)
    (headerCode : Byte)
    (extraSize : Nat)
    (reached : headerSize ≤ bytes.length)
    (short : bytes.length - headerSize + extraSize ≤ 65535) :
    ∃ headed, packet.setHeader headerCode extraSize = some headed ∧
      headed.Holds capacity
        (PacketCrypto.setHeader headerCode extraSize bytes) := by
  have length := holds.writePos_eq
  have enough : ¬ packet.writePos < headerSize := by omega
  have admitted : ¬ 65535 < packet.writePos - headerSize + extraSize := by
    omega
  have inside : 0 + 3 ≤ packet.writePos := by
    change 5 ≤ bytes.length at reached
    omega
  unfold NetBuffer.setHeader
  simp only [if_neg enough, if_neg admitted]
  refine ⟨_, rfl, holds.capacity_eq, ?_⟩
  rw [getPacketBuffer, front_write_within _ _ _ inside, ← getPacketBuffer,
    holds.bytes_eq, length]
  rfl

/-- `ReadBytes` reads on from the read position. -/
theorem readBytes
    (holds : packet.Holds capacity bytes)
    {count : Nat}
    (inside : packet.readPos + count ≤ bytes.length) :
    ∃ advanced,
      packet.readBytes count =
        some ((bytes.drop packet.readPos).take count, advanced) ∧
      advanced.Holds capacity bytes ∧
      advanced.readPos = packet.readPos + count := by
  have readable : packet.readPos + count ≤ packet.writePos := by
    rwa [holds.writePos_eq]
  refine ⟨{ packet with readPos := packet.readPos + count }, ?_,
    ⟨holds.capacity_eq, holds.bytes_eq⟩, rfl⟩
  rw [NetBuffer.readBytes, if_pos readable, holds.span_eq inside]

end Holds

end NetBuffer
end BotTester
end MultiSocketRudp
