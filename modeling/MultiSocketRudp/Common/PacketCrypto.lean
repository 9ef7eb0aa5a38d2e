import MultiSocketRudp.Protocol
import MultiSocketRudp.Lib.Aead
import Mathlib.Data.List.Basic
import Mathlib.Tactic.IntervalCases

/-!
# Encoding and decoding of packets

`PacketCryptoHelper` encrypts the body of a packet in place and appends the
authentication tag.  The associated data are the first fourteen bytes, from the
header through the sequence.  The body of a core packet begins right behind
them; the body of a SEND packet begins behind the packet id, so the four bytes
of the packet id are neither associated data nor encrypted.

A buffer is the list of its bytes up to the write position.  The read position
is behind the header when a packet is encoded, and behind the packet type when
it is decoded.
-/

namespace MultiSocketRudp
namespace PacketCrypto

/-- `NetBuffer`: the bytes up to `m_iWrite`, and `m_bIsEncoded`. -/
structure NetBuffer where
  bytes : List Byte
  isEncoded : Bool := false
  deriving DecidableEq, Repr

/-- Byte offset of the sequence, which is the size of header and type. -/
def packetSequenceOffset : Nat := headerSize + packetTypeSize

/-- `aadSize`, the length of the associated data. -/
def aadSize : Nat := headerSize + packetTypeSize + packetSequenceSize

/-- `bodyOffsetWithHeader` and `bodyOffsetWithHeaderForCorePacket`. -/
def bodyOffset (isCorePacket : Bool) : Nat :=
  if isCorePacket then
    headerSize + packetTypeSize + packetSequenceSize
  else
    headerSize + packetTypeSize + packetSequenceSize + packetIdSize

/-- The word that a little-endian byte sequence denotes. -/
def littleEndian : List Byte → PacketSequence
  | [] => 0
  | byte :: bytes => (littleEndian bytes <<< 8) ||| byte.setWidth 64

/-- The packet sequence as it stands in the packet. -/
def readSequence (bytes : List Byte) : PacketSequence :=
  littleEndian ((bytes.drop packetSequenceOffset).take packetSequenceSize)

/-- The byte of the packet type. -/
def readType (bytes : List Byte) : Byte :=
  bytes.getD headerSize 0

/-- The four bytes that `RUDPSession::ProcessPacket` reads as the packet id and
looks the handler up with. -/
def readPacketId (bytes : List Byte) : List Byte :=
  (bytes.drop aadSize).take packetIdSize

/-- The layout that `ProcessByPacketType` and `ProcessRecvPacket` choose for a
received packet: every type but SEND is a core packet. -/
def isCoreType (bytes : List Byte) : Bool :=
  readType bytes != PacketType.sendType.toByte

/-- One byte of a sequence, counted from the least significant. -/
def sequenceByte (sequence : PacketSequence) (index : Nat) : Byte :=
  (sequence >>> (8 * index)).setWidth 8

/-- `CryptoHelper::FillNonce`: two direction bits, thirty bits of the salt and
the sequence in big-endian order. -/
def fillNonce
    (sessionSalt : List Byte)
    (packetSequence : PacketSequence)
    (direction : PacketDirection) : Option (List Byte) :=
  if sessionSalt.length = sessionSaltSize then
    some
      [(direction.toByte <<< 6) ||| (sessionSalt.getD 0 0 &&& 0x3F),
        sessionSalt.getD 1 0, sessionSalt.getD 2 0, sessionSalt.getD 3 0,
        sequenceByte packetSequence 7, sequenceByte packetSequence 6,
        sequenceByte packetSequence 5, sequenceByte packetSequence 4,
        sequenceByte packetSequence 3, sequenceByte packetSequence 2,
        sequenceByte packetSequence 1, sequenceByte packetSequence 0]
  else none

/-- `SetHeader`: the header code and the little-endian payload length, which
counts the tag that is still to be appended. -/
def setHeader
    (headerCode : Byte) (extraSize : Nat) (bytes : List Byte) : List Byte :=
  let payloadLength := BitVec.ofNat 16 (bytes.length - headerSize + extraSize)
  headerCode :: payloadLength.setWidth 8 :: (payloadLength >>> 8).setWidth 8 ::
    bytes.drop 3

section Codec

variable {Key : Type*} (scheme : Aead.Scheme Key Byte)

/-- `EncryptAESGCM`, which fails on a null key handle. -/
def encryptAesGcm
    (keyHandle : Option Key)
    (nonce aad plaintext : List Byte) : Option (List Byte × List Byte) :=
  keyHandle.bind fun key => scheme.sealed key nonce aad plaintext

/-- `DecryptAESGCM`, which fails on a null key handle. -/
def decryptAesGcm
    (keyHandle : Option Key)
    (nonce aad ciphertext authTag : List Byte) : Option (List Byte) :=
  keyHandle.bind fun key => scheme.opened key nonce aad ciphertext authTag

/-- `EncodePacket`.  An encoded packet is left alone, and so is one whose nonce
cannot be filled; a packet whose encryption fails keeps its new header and stays
unencoded.  A body that would begin behind the write position has a negative
size, which the cipher receives as an oversized one and rejects. -/
def encodePacket
    (headerCode : Byte)
    (packet : NetBuffer)
    (packetSequence : PacketSequence)
    (direction : PacketDirection)
    (sessionSalt : List Byte)
    (keyHandle : Option Key)
    (isCorePacket : Bool) : NetBuffer :=
  if packet.isEncoded then packet
  else
    match fillNonce sessionSalt packetSequence direction with
    | none => packet
    | some nonce =>
        let offset := bodyOffset isCorePacket
        let bytes := setHeader headerCode authTagSize packet.bytes
        if packet.bytes.length < offset then ⟨bytes, false⟩
        else
          match encryptAesGcm scheme keyHandle nonce
              (bytes.take aadSize) (bytes.drop offset) with
          | none => ⟨bytes, false⟩
          | some (ciphertext, authTag) =>
              ⟨bytes.take offset ++ ciphertext ++ authTag, true⟩

/-- `DecodePacket`: the packet with its body decrypted in place, or `none` where
the source returns false. -/
def decodePacket
    (packet : List Byte)
    (sessionSalt : List Byte)
    (keyHandle : Option Key)
    (isCorePacket : Bool)
    (direction : PacketDirection) : Option (List Byte) :=
  let packetUseSize := packet.length - packetSequenceOffset
  let minimumRecvPacketSize :=
    if isCorePacket then packetSequenceSize + authTagSize
    else packetSequenceSize + packetIdSize + authTagSize
  if packetUseSize < minimumRecvPacketSize then none
  else
    let offset := bodyOffset isCorePacket
    let authTagOffset := packet.length - authTagSize
    let bodySize :=
      packetUseSize + packetSequenceOffset - authTagSize - offset
    let body := (packet.drop offset).take bodySize
    let authTag := packet.drop authTagOffset
    (fillNonce sessionSalt (readSequence packet) direction).bind fun nonce =>
      (decryptAesGcm scheme keyHandle nonce
          (packet.take aadSize) body authTag).map fun plaintext =>
        packet.take offset ++ plaintext ++ authTag

end Codec

/-! ## Arithmetic of the layout -/

theorem aadSize_eq : aadSize = 14 := rfl

@[simp] theorem bodyOffset_core : bodyOffset true = 14 := rfl

@[simp] theorem bodyOffset_send : bodyOffset false = 18 := rfl

@[simp] theorem setHeader_length
    (headerCode : Byte) (extraSize : Nat) {bytes : List Byte}
    (long : 3 ≤ bytes.length) :
    (setHeader headerCode extraSize bytes).length = bytes.length := by
  simp only [setHeader, List.length_cons, List.length_drop]
  omega

/-- The header leaves every byte behind the payload length alone. -/
theorem setHeader_drop
    (headerCode : Byte) (extraSize : Nat) (bytes : List Byte)
    {offset : Nat} (behind : 3 ≤ offset) :
    (setHeader headerCode extraSize bytes).drop offset =
      bytes.drop offset := by
  obtain ⟨rest, rfl⟩ := Nat.exists_eq_add_of_le behind
  simp [setHeader, List.drop_drop, Nat.add_comm 3 rest]

/-- The header does not change the sequence. -/
@[simp] theorem readSequence_setHeader
    (headerCode : Byte) (extraSize : Nat) (bytes : List Byte) :
    readSequence (setHeader headerCode extraSize bytes) =
      readSequence bytes := by
  unfold readSequence
  rw [setHeader_drop headerCode extraSize bytes (by decide)]

/-- The header does not change the type. -/
@[simp] theorem isCoreType_setHeader
    (headerCode : Byte) (extraSize : Nat) (bytes : List Byte) :
    isCoreType (setHeader headerCode extraSize bytes) = isCoreType bytes := by
  have behind : 3 ≤ headerSize := by decide
  have dropped := setHeader_drop headerCode extraSize bytes behind
  have entry := congrArg (fun rest => rest[0]?) dropped
  simp only [List.getElem?_drop, Nat.add_zero] at entry
  simp only [isCoreType, readType, List.getD_eq_getElem?_getD, entry]

/-- Sequence, type and layout are read from the associated data alone. -/
theorem readSequence_congr
    {first second : List Byte}
    (same : first.take aadSize = second.take aadSize) :
    readSequence first = readSequence second := by
  have part (bytes : List Byte) :
      (bytes.drop packetSequenceOffset).take packetSequenceSize =
        (bytes.take aadSize).drop packetSequenceOffset := by
    rw [List.drop_take]
    rfl
  rw [readSequence, readSequence, part, part, same]

theorem isCoreType_congr
    {first second : List Byte}
    (same : first.take aadSize = second.take aadSize) :
    isCoreType first = isCoreType second := by
  have part (bytes : List Byte) :
      bytes[headerSize]? = (bytes.take aadSize)[headerSize]? := by
    rw [List.getElem?_take_of_lt (by decide)]
  simp only [isCoreType, readType, List.getD_eq_getElem?_getD]
  rw [part first, part second, same]

/-! ## The nonce determines direction and sequence -/

/-- The eight bytes of a sequence determine it. -/
theorem sequence_eq_of_bytes
    {first second : PacketSequence}
    (same : ∀ index < 8, sequenceByte first index = sequenceByte second index) :
    first = second := by
  have bit (packetSequence : PacketSequence) (position : Nat) :
      (sequenceByte packetSequence (position / 8)).getLsbD (position % 8) =
        packetSequence.getLsbD position := by
    have small : position % 8 < 8 := Nat.mod_lt _ (by decide)
    simp only [sequenceByte, BitVec.getLsbD_setWidth,
      BitVec.getLsbD_ushiftRight, small, decide_true, Bool.true_and,
      Nat.div_add_mod]
  refine BitVec.eq_of_getLsbD_eq fun position bound => ?_
  have byte := same (position / 8) (by omega)
  rw [← bit first, ← bit second, byte]

/-- The two direction bits survive the mixture with the salt. -/
theorem directionBits_eq
    {direction : PacketDirection}
    (valid : direction ≠ .invalid)
    (salt : Byte) :
    ((direction.toByte <<< 6) ||| (salt &&& 0x3F)) >>> 6 =
      direction.toByte := by
  revert salt
  cases direction with
  | clientToServer => decide
  | clientToServerReply => decide
  | serverToClient => decide
  | serverToClientReply => decide
  | invalid => exact absurd rfl valid

theorem toByte_injective
    {first second : PacketDirection}
    (same : first.toByte = second.toByte) :
    first = second := by
  cases first <;> cases second <;> first | rfl | exact absurd same (by decide)

/-- Under one salt, equal nonces have equal sequences and directions. -/
theorem fillNonce_injective
    {salt nonce : List Byte}
    {firstSequence secondSequence : PacketSequence}
    {firstDirection secondDirection : PacketDirection}
    (firstValid : firstDirection ≠ .invalid)
    (secondValid : secondDirection ≠ .invalid)
    (first : fillNonce salt firstSequence firstDirection = some nonce)
    (second : fillNonce salt secondSequence secondDirection = some nonce) :
    firstSequence = secondSequence ∧ firstDirection = secondDirection := by
  have same := first.trans second.symm
  have saltLength : salt.length = sessionSaltSize := by
    by_contra wrong
    simp [fillNonce, wrong] at first
  simp only [fillNonce, saltLength, if_true, Option.some.injEq,
    List.cons.injEq, true_and, and_true] at same
  obtain ⟨direction, b7, b6, b5, b4, b3, b2, b1, b0⟩ := same
  constructor
  · apply sequence_eq_of_bytes
    intro index small
    interval_cases index <;> assumption
  · apply toByte_injective
    rw [← directionBits_eq firstValid (salt.getD 0 0),
      ← directionBits_eq secondValid (salt.getD 0 0), direction]

end PacketCrypto
end MultiSocketRudp
