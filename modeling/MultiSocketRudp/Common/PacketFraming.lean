import MultiSocketRudp.Common.PacketAuthenticity
import MultiSocketRudp.Common.PacketFrame
import MultiSocketRudp.Lib.SelfDelimiting

/-!
# Frames and how they are cut out of a datagram

A frame is a packet whose body was sealed, with the tag behind it.  The payload
length of its header counts everything behind the header.  The client cuts a
datagram into frames by their payload lengths; the server takes a datagram as
one frame and checks the payload length of it.
-/

namespace MultiSocketRudp
namespace PacketCrypto

/-- `GetPayloadLength`: the word behind the header code. -/
def getPayloadLength (bytes : List Byte) : Nat :=
  (littleEndian ((bytes.drop 1).take 2)).toNat

/-! ## Framing -/

section Framing

variable (readBuffer : List Byte → Nat → List Byte) (defaultSize : Nat)

/-- `NetBuffer::ReadBuffer` copies the bytes that are asked for, if they are
there. -/
def ReadsInside : Prop :=
  ∀ stream count, count ≤ stream.length →
    readBuffer stream count = stream.take count

/-- `RUDPClientCore::OnRecvStream`: the packets that it processes.  The write
position of each is a `WORD`. -/
def onRecvStream (recvBuffer : List Byte) (recvSize : Nat) :
    List (List Byte) :=
  if headerSize < recvSize then
    let header := readBuffer recvBuffer headerSize
    let payloadLength := getPayloadLength header
    if payloadLength = 0 ∨ defaultSize < payloadLength ∨
        recvSize < payloadLength then []
    else
      let packetSize := payloadLength + headerSize
      let payload := readBuffer (recvBuffer.drop headerSize) payloadLength
      (header ++ payload).take (packetSize % 2 ^ 16) ::
        onRecvStream (recvBuffer.drop packetSize) (recvSize - packetSize)
  else []
termination_by recvSize
decreasing_by
  exact Nat.sub_lt (by omega) (Nat.add_pos_right _ (by decide))

/-- `RUDPPacketProcessor::OnRecvPacket`: the datagram as one packet, unless its
size is wrong. -/
def onRecvPacket (datagram : List Byte) : Option (List Byte) :=
  let useSize := datagram.length - headerSize
  if useSize < headerSize then none
  else if useSize ≠ getPayloadLength datagram then none
  else some datagram

end Framing

/-- A frame: the header and the clear part of a packet, the ciphertext of its
body and the tag. -/
def sealedFrame
    (offset : Nat)
    (headed ciphertext authTag : List Byte) : List Byte :=
  headed.take offset ++ ciphertext ++ authTag

/-! ## The payload length -/

/-- `SetHeader` writes the payload length behind the header code. -/
theorem getPayloadLength_setHeader
    (headerCode : Byte) (extraSize : Nat) (bytes rest : List Byte)
    (short : bytes.length - headerSize + extraSize < 2 ^ 16) :
    getPayloadLength (setHeader headerCode extraSize bytes ++ rest) =
      bytes.length - headerSize + extraSize := by
  have word :=
    littleEndian_wordBytes
      (BitVec.ofNat 16 (bytes.length - headerSize + extraSize))
      (by decide) (by decide : 16 ≤ 8 * 2)
  have length := congrArg BitVec.toNat word
  rw [BitVec.toNat_setWidth_of_le (by decide), BitVec.toNat_ofNat,
    Nat.mod_eq_of_lt short] at length
  rw [← length]
  rfl

/-- The first bytes of a longer list are those of the list. -/
theorem getPayloadLength_take
    (bytes : List Byte) {count : Nat} (long : 3 ≤ count) :
    getPayloadLength (bytes.take count) = getPayloadLength bytes := by
  unfold getPayloadLength
  rw [List.drop_take, List.take_take, Nat.min_eq_left (by omega)]

/-! ## Complete frames -/

/-- What a header says of the size of its frame, when the payload length is within
a limit. -/
def announcedSize (limit : Nat) (bytes : List Byte) : Option Nat :=
  if headerSize ≤ bytes.length ∧ 0 < getPayloadLength bytes ∧
      getPayloadLength bytes ≤ limit then
    some (getPayloadLength bytes + headerSize)
  else none

theorem announcedSize_eq_some
    {limit : Nat} {bytes : List Byte} {size : Nat} :
    announcedSize limit bytes = some size ↔
      (headerSize ≤ bytes.length ∧ 0 < getPayloadLength bytes ∧
        getPayloadLength bytes ≤ limit) ∧
        getPayloadLength bytes + headerSize = size := by
  rw [announcedSize, Option.ite_none_right_eq_some, Option.some.injEq]

/-- The header announces the size of a packet, whatever follows it. -/
def packetAnnouncement (limit : Nat) : SelfDelimiting.Announcement Byte where
  size := announcedSize limit
  size_pos found := by
    obtain ⟨-, rfl⟩ := announcedSize_eq_some.mp found
    exact Nat.add_pos_right _ (by decide)
  size_append {stream extent} found following := by
    obtain ⟨⟨header, payload⟩, rfl⟩ := announcedSize_eq_some.mp found
    have same : getPayloadLength (stream ++ following) =
        getPayloadLength stream := by
      have long : 3 ≤ stream.length := le_trans (by decide) header
      rw [← getPayloadLength_take _ long, List.take_left]
    rw [announcedSize, same, if_pos ⟨by simp; omega, payload⟩]
  size_take {stream extent} found inside := by
    obtain ⟨⟨header, payload⟩, rfl⟩ := announcedSize_eq_some.mp found
    have same : getPayloadLength
          (stream.take (getPayloadLength stream + headerSize)) =
        getPayloadLength stream :=
      getPayloadLength_take stream
        (le_trans (by decide) (Nat.le_add_left headerSize _))
    rw [announcedSize, same,
      if_pos ⟨by rw [List.length_take, Nat.min_eq_left inside]; omega, payload⟩]

/-- A frame is one for every limit that its payload length is within. -/
theorem isFrame_of_le
    {limit other : Nat}
    {frame : List Byte}
    (isFrame : (packetAnnouncement other).IsFrame frame)
    (within : getPayloadLength frame ≤ limit) :
    (packetAnnouncement limit).IsFrame frame := by
  obtain ⟨⟨header, payload, -⟩, size⟩ := announcedSize_eq_some.mp isFrame
  exact announcedSize_eq_some.mpr ⟨⟨header, payload, within⟩, size⟩

/-! ## The parts of a frame -/

/-- The sizes of the parts of a frame. -/
structure FrameSizes
    (offset : Nat) (headed ciphertext authTag : List Byte) : Prop where
  /-- The body begins inside the packet. -/
  inside : offset ≤ headed.length
  /-- The ciphertext is as long as the body. -/
  ciphertext_length : ciphertext.length = headed.length - offset
  /-- The tag has its size. -/
  authTag_length : authTag.length = authTagSize

namespace FrameSizes

variable {offset : Nat} {headed ciphertext authTag : List Byte}

theorem length_eq (sizes : FrameSizes offset headed ciphertext authTag) :
    (sealedFrame offset headed ciphertext authTag).length =
      headed.length + authTagSize := by
  have inside := sizes.inside
  simp only [sealedFrame, List.length_append, List.length_take,
    Nat.min_eq_left inside, sizes.ciphertext_length, sizes.authTag_length]
  omega

/-- What stands before the body is not changed by the encryption. -/
theorem take_eq
    (sizes : FrameSizes offset headed ciphertext authTag)
    {count : Nat} (before : count ≤ offset) :
    (sealedFrame offset headed ciphertext authTag).take count =
      headed.take count := by
  have inside := sizes.inside
  rw [sealedFrame, List.append_assoc,
    List.take_append_of_le_length (by simp; omega), List.take_take,
    Nat.min_eq_left before]

theorem drop_offset (sizes : FrameSizes offset headed ciphertext authTag) :
    (sealedFrame offset headed ciphertext authTag).drop offset =
      ciphertext ++ authTag := by
  have inside := sizes.inside
  rw [sealedFrame, List.append_assoc, List.drop_left' (by simpa using inside)]

/-- The ciphertext stands where the body stood. -/
theorem body_eq (sizes : FrameSizes offset headed ciphertext authTag) :
    ((sealedFrame offset headed ciphertext authTag).drop offset).take
        (headed.length - offset) =
      ciphertext := by
  rw [sizes.drop_offset, List.take_left' sizes.ciphertext_length]

/-- The tag stands at the end. -/
theorem authTag_eq (sizes : FrameSizes offset headed ciphertext authTag) :
    (sealedFrame offset headed ciphertext authTag).drop headed.length =
      authTag := by
  have inside := sizes.inside
  have length := sizes.ciphertext_length
  rw [sealedFrame,
    List.drop_left' (by simp only [List.length_append, List.length_take]; omega)]

/-- Sealing keeps the sizes. -/
theorem of_sealed {Key : Type*} {scheme : Aead.Scheme Key Byte}
    {key : Key} {nonce associated : List Byte}
    (tagLength : scheme.tagLength = authTagSize)
    (inside : offset ≤ headed.length)
    (sealing : scheme.sealed key nonce associated (headed.drop offset) =
      some (ciphertext, authTag)) :
    FrameSizes offset headed ciphertext authTag where
  inside := inside
  ciphertext_length := by
    rw [scheme.ciphertext_length sealing, List.length_drop]
  authTag_length := by rw [scheme.tag_length sealing, tagLength]

end FrameSizes

/-! ## Sealed frames through the framing -/

/-- The header of a frame counts the bytes behind it. -/
def HeaderCounts (frame : List Byte) : Prop :=
  getPayloadLength frame = frame.length - headerSize

/-- The server takes a frame as it is. -/
theorem onRecvPacket_eq_some
    {frame : List Byte}
    (counts : HeaderCounts frame)
    (long : 2 * headerSize ≤ frame.length) :
    onRecvPacket frame = some frame := by
  have enough : ¬ frame.length - headerSize < headerSize := by omega
  simp only [onRecvPacket, if_neg enough, HeaderCounts] at counts ⊢
  rw [if_neg (by simp [counts])]

/-- The client cuts a frame off and goes on behind it. -/
theorem onRecvStream_append
    {readBuffer : List Byte → Nat → List Byte} {defaultSize : Nat}
    (reads : ReadsInside readBuffer)
    {frame : List Byte}
    (following : List Byte)
    (counts : HeaderCounts frame)
    (long : headerSize < frame.length)
    (fitsBuffer : frame.length ≤ defaultSize)
    (fitsWord : frame.length < 2 ^ 16) :
    onRecvStream readBuffer defaultSize (frame ++ following)
        (frame.length + following.length) =
      frame ::
        onRecvStream readBuffer defaultSize following following.length := by
  have total : (frame ++ following).length = frame.length + following.length :=
    List.length_append
  have header :
      readBuffer (frame ++ following) headerSize = frame.take headerSize := by
    rw [reads _ _ (by omega), List.take_append_of_le_length long.le]
  have payloadLength :
      getPayloadLength (frame.take headerSize) = frame.length - headerSize := by
    rw [getPayloadLength_take frame (by decide), counts]
  have payload :
      readBuffer ((frame ++ following).drop headerSize)
          (frame.length - headerSize) =
        frame.drop headerSize := by
    rw [reads _ _ (by rw [List.length_drop]; omega),
      List.drop_append_of_le_length long.le,
      List.take_left' List.length_drop]
  have packetSize :
      frame.length - headerSize + headerSize = frame.length := by
    omega
  have accepted :
      ¬ (frame.length - headerSize = 0 ∨
        defaultSize < frame.length - headerSize ∨
        frame.length + following.length < frame.length - headerSize) := by
    omega
  rw [onRecvStream, if_pos (by omega)]
  simp only [header, payloadLength, payload, packetSize, if_neg accepted,
    List.take_append_drop, Nat.mod_eq_of_lt fitsWord, List.take_length,
    List.drop_left, Nat.add_sub_cancel_left]

/-! ## Sealed frames through the codec -/

section Codec

variable {Key : Type*} {scheme : Aead.Scheme Key Byte}
variable {key : Key} {nonce sessionSalt : List Byte}
variable {packetSequence : PacketSequence} {direction : PacketDirection}
variable {isCorePacket : Bool}
variable {headed ciphertext authTag : List Byte}

/-- `EncodePacket` makes a frame of the packet with its header. -/
theorem encodePacket_eq_sealedFrame
    {headerCode : Byte} {packet : List Byte}
    (filled : fillNonce sessionSalt packetSequence direction = some nonce)
    (long : bodyOffset isCorePacket ≤ packet.length)
    (sealing :
      scheme.sealed key nonce
          ((setHeader headerCode authTagSize packet).take aadSize)
          ((setHeader headerCode authTagSize packet).drop
            (bodyOffset isCorePacket)) =
        some (ciphertext, authTag)) :
    encodePacket scheme headerCode ⟨packet, false⟩ packetSequence direction
        sessionSalt (some key) isCorePacket =
      ⟨sealedFrame (bodyOffset isCorePacket)
          (setHeader headerCode authTagSize packet) ciphertext authTag,
        true⟩ := by
  simp [encodePacket, encryptAesGcm, filled, Nat.not_lt.mpr long, sealing,
    sealedFrame]

/-- `DecodePacket` restores the packet in front of the tag. -/
theorem decodePacket_sealedFrame
    (sizes :
      FrameSizes (bodyOffset isCorePacket) headed ciphertext authTag)
    (filled :
      fillNonce sessionSalt (readSequence headed) direction = some nonce)
    (sealing :
      scheme.sealed key nonce (headed.take aadSize)
          (headed.drop (bodyOffset isCorePacket)) =
        some (ciphertext, authTag)) :
    decodePacket scheme
        (sealedFrame (bodyOffset isCorePacket) headed ciphertext authTag)
        sessionSalt (some key) isCorePacket direction =
      some (headed ++ authTag) := by
  have front := aadSize_le_bodyOffset isCorePacket
  have clear := sizes.take_eq front
  have sequence := readSequence_congr clear
  have inside := sizes.inside
  have sequenceInside : packetSequenceOffset ≤ bodyOffset isCorePacket :=
    le_trans (by decide) front
  have enough :
      ¬ headed.length + authTagSize - packetSequenceOffset <
        if isCorePacket then packetSequenceSize + authTagSize
        else packetSequenceSize + packetIdSize + authTagSize := by
    cases isCorePacket <;>
      simp only [bodyOffset_core, bodyOffset_send] at inside <;>
      simp [packetSequenceOffset, headerSize, packetTypeSize,
        packetSequenceSize, packetIdSize, authTagSize] <;>
      omega
  have bodySize :
      headed.length + authTagSize - packetSequenceOffset +
          packetSequenceOffset - authTagSize - bodyOffset isCorePacket =
        headed.length - bodyOffset isCorePacket := by
    omega
  unfold decodePacket decryptAesGcm
  simp only [sizes.length_eq, if_neg enough, bodySize, clear, sequence, filled,
    sizes.body_eq, Nat.add_sub_cancel, sizes.authTag_eq, sizes.take_eq le_rfl,
    Option.bind_some, scheme.opened_sealed sealing, Option.map_some,
    List.take_append_drop]

end Codec

end PacketCrypto
end MultiSocketRudp
