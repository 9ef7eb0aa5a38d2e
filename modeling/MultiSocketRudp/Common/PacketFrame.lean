import MultiSocketRudp.Common.PacketCrypto

/-!
# Packets before they are encoded

A sender writes the type and the sequence behind the reserved header, and then
whatever the packet carries.  Words are written in little-endian order.  The
header itself is set when the packet is encoded, except for its last two bytes.
-/

namespace MultiSocketRudp
namespace PacketCrypto

/-- `operator<<` of a `PacketSequence`. -/
def sequenceBytes (packetSequence : PacketSequence) : List Byte :=
  (List.range packetSequenceSize).map (sequenceByte packetSequence)

/-- `operator<<` of a word of some bytes. -/
def wordBytes {width : Nat} (size : Nat) (word : BitVec width) : List Byte :=
  (List.range size).map fun index => (word >>> (8 * index)).setWidth 8

/-- The two bytes of the header that `SetHeader` does not write. -/
structure ReservedBytes where
  first : Byte
  second : Byte
  deriving DecidableEq, Repr

/-- A packet that has been written and not yet encoded. -/
def writePacket
    (reserved : ReservedBytes)
    (packetType : Byte)
    (packetSequence : PacketSequence)
    (content : List Byte) : List Byte :=
  [0, 0, 0, reserved.first, reserved.second, packetType] ++
    sequenceBytes packetSequence ++ content

@[simp] theorem sequenceBytes_length (packetSequence : PacketSequence) :
    (sequenceBytes packetSequence).length = packetSequenceSize := by
  simp [sequenceBytes]

@[simp] theorem wordBytes_length
    {width : Nat} (size : Nat) (word : BitVec width) :
    (wordBytes size word).length = size := by
  simp [wordBytes]

@[simp] theorem writePacket_length
    (reserved : ReservedBytes) (packetType : Byte)
    (packetSequence : PacketSequence) (content : List Byte) :
    (writePacket reserved packetType packetSequence content).length =
      aadSize + content.length := by
  simp [writePacket, packetSequenceSize, aadSize_eq]
  omega

/-! ## Reading what was written -/

/-- A byte of the word that some bytes denote. -/
theorem sequenceByte_littleEndian
    (bytes : List Byte)
    {index : Nat}
    (small : index < packetSequenceSize) :
    sequenceByte (littleEndian bytes) index = bytes.getD index 0 := by
  induction bytes generalizing index with
  | nil => simp [littleEndian, sequenceByte]
  | cons byte bytes inductionHypothesis =>
      cases index with
      | zero =>
          simp only [littleEndian, sequenceByte]
          ext bit bound
          simp
      | succ index =>
          have bytesOfRest := inductionHypothesis (Nat.lt_of_succ_lt small)
          rw [List.getD_cons_succ, ← bytesOfRest]
          simp only [littleEndian, sequenceByte]
          ext bit bound
          have inside : 8 * (index + 1) + bit < 64 := by
            change index + 1 < 8 at small
            omega
          have shifted : 8 * (index + 1) + bit - 8 = 8 * index + bit := by
            omega
          have beyond : ¬ 8 * (index + 1) + bit < 8 := by omega
          have outside : byte.getLsbD (8 * (index + 1) + bit) = false :=
            BitVec.getLsbD_of_ge byte _ (Nat.not_lt.mp beyond)
          have within : 8 * index + bit < 64 := by omega
          simp [inside, shifted, beyond, outside, BitVec.getLsbD_eq_getElem within]

/-- A byte of a word that is widened to a sequence. -/
theorem sequenceByte_setWidth
    {width : Nat} (word : BitVec width) (index : Nat)
    (narrow : width ≤ 64) :
    sequenceByte (word.setWidth 64) index =
      (word >>> (8 * index)).setWidth 8 := by
  ext bit bound
  simp only [sequenceByte, BitVec.getElem_setWidth, BitVec.getLsbD_ushiftRight,
    BitVec.getLsbD_setWidth]
  by_cases inside : 8 * index + bit < 64
  · simp [inside]
  · rw [BitVec.getLsbD_of_ge word _ (by omega)]
    simp

/-- A word is read as it was written. -/
theorem littleEndian_wordBytes
    {width size : Nat} (word : BitVec width)
    (narrow : width ≤ 64)
    (covered : width ≤ 8 * size) :
    littleEndian (wordBytes size word) = word.setWidth 64 := by
  refine sequence_eq_of_bytes fun index small => ?_
  rw [sequenceByte_littleEndian _ small, sequenceByte_setWidth word index narrow]
  simp only [wordBytes, List.getD_eq_getElem?_getD, List.getElem?_map]
  by_cases inside : index < size
  · simp [inside]
  · rw [List.getElem?_eq_none (by simpa using inside)]
    ext bit bound
    simp [BitVec.getLsbD_of_ge word (8 * index + bit) (by omega)]

/-- A sequence is read as it was written. -/
@[simp] theorem littleEndian_sequenceBytes (packetSequence : PacketSequence) :
    littleEndian (sequenceBytes packetSequence) = packetSequence := by
  have written := littleEndian_wordBytes packetSequence le_rfl
    (by decide : 64 ≤ 8 * packetSequenceSize)
  rwa [BitVec.setWidth_eq] at written

/-- The sequence stands behind the type. -/
@[simp] theorem readSequence_writePacket
    (reserved : ReservedBytes) (packetType : Byte)
    (packetSequence : PacketSequence) (content : List Byte) :
    readSequence (writePacket reserved packetType packetSequence content) =
      packetSequence := by
  unfold readSequence
  rw [show (writePacket reserved packetType packetSequence content).drop
      packetSequenceOffset = sequenceBytes packetSequence ++ content from rfl,
    List.take_left' (sequenceBytes_length packetSequence),
    littleEndian_sequenceBytes]

end PacketCrypto
end MultiSocketRudp
