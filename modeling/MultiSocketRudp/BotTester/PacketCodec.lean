import MultiSocketRudp.BotTester.NetBuffer
import MultiSocketRudp.Common.PacketFraming

/-!
# What the bot tester builds, encodes and reads

Whichever way the bot tester builds a packet, the buffer holds the packet that
the other implementation writes front to back.  Its encoding appends to the
buffer the frame of that packet, and reading the frame gives back what the
packet carries.
-/

namespace MultiSocketRudp
namespace BotTester

open PacketCrypto (littleEndian sequenceBytes wordBytes readSequence sealedFrame
  fillNonce FrameSizes HeaderCounts)
open WriteBuffer

/-- What a packet carries.  A core packet has no packet id. -/
structure PacketContent where
  packetType : PacketType
  packetSequence : PacketSequence
  packetId : Option PacketId
  body : List Byte
  deriving DecidableEq, Repr

namespace PacketContent

/-- A packet without a packet id is a core packet. -/
def isCorePacket (content : PacketContent) : Bool :=
  content.packetId.isNone

/-- The bytes of the packet id, if the packet has one. -/
def packetIdBytes (content : PacketContent) : List Byte :=
  match content.packetId with
  | none => []
  | some packetId => wordBytes MultiSocketRudp.packetIdSize packetId

/-- The packet as the C++ side writes it, with the reserved bytes zero. -/
def written (content : PacketContent) : List Byte :=
  PacketCrypto.writePacket ⟨0, 0⟩ content.packetType.toByte
    content.packetSequence (content.packetIdBytes ++ content.body)

/-- The packet with its header. -/
def headed (content : PacketContent) (headerCode : Byte) : List Byte :=
  PacketCrypto.setHeader headerCode MultiSocketRudp.authTagSize content.written

/-- The length of the packet's frame. -/
def frameLength (content : PacketContent) : Nat :=
  PacketCrypto.bodyOffset content.isCorePacket + content.body.length +
    MultiSocketRudp.authTagSize

@[simp] theorem written_length (content : PacketContent) :
    content.written.length =
      PacketCrypto.bodyOffset content.isCorePacket + content.body.length := by
  obtain ⟨packetType, packetSequence, packetId, body⟩ := content
  cases packetId with
  | none => simp [written, packetIdBytes, isCorePacket, PacketCrypto.aadSize_eq]
  | some packetId =>
      simp only [written, packetIdBytes, isCorePacket,
        PacketCrypto.writePacket_length, List.length_append,
        PacketCrypto.wordBytes_length, PacketCrypto.aadSize_eq,
        Option.isNone_some, PacketCrypto.bodyOffset_send,
        MultiSocketRudp.packetIdSize]
      omega

theorem aadSize_le_written (content : PacketContent) :
    PacketCrypto.aadSize ≤ content.written.length := by
  rw [written_length]
  exact le_trans (PacketCrypto.aadSize_le_bodyOffset _) (Nat.le_add_right _ _)

@[simp] theorem headed_length (content : PacketContent) (headerCode : Byte) :
    (content.headed headerCode).length =
      PacketCrypto.bodyOffset content.isCorePacket + content.body.length := by
  have long := content.aadSize_le_written
  rw [headed, PacketCrypto.setHeader_length _ _ (le_trans (by decide) long),
    written_length]

/-- The header leaves what is written behind it alone. -/
theorem headed_drop
    (content : PacketContent) (headerCode : Byte)
    {offset : Nat} (behind : 3 ≤ offset) :
    (content.headed headerCode).drop offset = content.written.drop offset :=
  PacketCrypto.setHeader_drop _ _ _ behind

/-- The type stands behind the header. -/
theorem headed_type (content : PacketContent) (headerCode : Byte) :
    (content.headed headerCode).drop 5 =
      content.packetType.toByte ::
        (sequenceBytes content.packetSequence ++
          (content.packetIdBytes ++ content.body)) := by
  rw [content.headed_drop headerCode (by decide)]
  rfl

/-- The sequence stands behind the type. -/
theorem headed_sequence (content : PacketContent) (headerCode : Byte) :
    (content.headed headerCode).drop 6 =
      sequenceBytes content.packetSequence ++
        (content.packetIdBytes ++ content.body) := by
  rw [content.headed_drop headerCode (by decide)]
  rfl

/-- The packet id, if there is one, and the body stand behind the sequence. -/
theorem headed_content (content : PacketContent) (headerCode : Byte) :
    (content.headed headerCode).drop 14 =
      content.packetIdBytes ++ content.body := by
  rw [show 14 = 6 + 8 from rfl, ← List.drop_drop,
    content.headed_sequence headerCode]
  exact List.drop_left' (PacketCrypto.sequenceBytes_length _)

/-- The body begins at the body offset. -/
theorem headed_body (content : PacketContent) (headerCode : Byte) :
    (content.headed headerCode).drop
        (PacketCrypto.bodyOffset content.isCorePacket) =
      content.body := by
  have behind := content.headed_content headerCode
  obtain ⟨packetType, packetSequence, packetId, body⟩ := content
  cases packetId with
  | none => exact behind
  | some packetId =>
      rw [show PacketCrypto.bodyOffset _ = 14 + 4 from rfl,
        ← List.drop_drop, behind]
      exact List.drop_left' (PacketCrypto.wordBytes_length _ _)

@[simp] theorem readSequence_headed
    (content : PacketContent) (headerCode : Byte) :
    readSequence (content.headed headerCode) = content.packetSequence := by
  rw [headed, PacketCrypto.readSequence_setHeader, written,
    PacketCrypto.readSequence_writePacket]

end PacketContent

/-! ## Building -/

namespace NetBuffer

/-- How `SendPacket` builds a packet: the body behind a reserved header, and then
the metadata in front of it. -/
def insertPacket
    (capacity : Nat) (content : PacketContent) : Option NetBuffer :=
  (create capacity).reserveHeader
    |>.bind (writeBytes content.body)
    |>.bind (insertPacketType content.packetType)
    |>.bind (insertPacketSequence content.packetSequence)
    |>.bind fun packet =>
      match content.packetId with
      | none => some packet
      | some packetId => packet.insertPacketId packetId

/-- The ways in which the bot tester builds a packet. -/
inductive Builds (capacity : Nat) : PacketContent → NetBuffer → Prop
  /-- By insertion, any packet. -/
  | inserted {content packet}
      (built : insertPacket capacity content = some packet) :
      Builds capacity content packet
  /-- By `BuildCorePacket`, a core packet without a body. -/
  | core {packetType packetSequence packet}
      (built : (create capacity).buildCorePacket packetType packetSequence =
        some packet) :
      Builds capacity ⟨packetType, packetSequence, none, []⟩ packet
  /-- By `BuildConnectPacket`, the CONNECT packet of a session. -/
  | connect {sessionId packet}
      (built : (create capacity).buildConnectPacket sessionId = some packet) :
      Builds capacity ⟨.connectType, 0, none, wordBytes 2 sessionId⟩ packet

/-- The two enumerations of packet types agree. -/
theorem packetTypeValue_eq (packetType : PacketType) :
    packetTypeValue packetType = packetType.toByte := by
  cases packetType <;> rfl

/-- The two enumerations of directions agree. -/
theorem packetDirectionValue_eq (direction : PacketDirection) :
    packetDirectionValue direction = direction.toByte := by
  cases direction <;> rfl

/-- The two layouts agree. -/
theorem bodyOffset_eq (isCorePacket : Bool) :
    bodyOffset isCorePacket = PacketCrypto.bodyOffset isCorePacket := by
  cases isCorePacket <;> rfl

/-- A nonce that `FillNonce` fills is the one that `WriteNonce` writes. -/
theorem writeNonce_of_fillNonce
    {sessionSalt nonce : List Byte}
    {packetSequence : PacketSequence} {direction : PacketDirection}
    (filled : fillNonce sessionSalt packetSequence direction = some nonce) :
    writeNonce sessionSalt packetSequence direction = some nonce := by
  unfold fillNonce at filled
  split at filled
  case isTrue saltLength =>
    have enough : 4 ≤ sessionSalt.length := by
      rw [saltLength]
      decide
    rw [writeNonce, if_pos enough, packetDirectionValue_eq, filled]
  case isFalse => cases filled

/-- Type and sequence are inserted in front of a body. -/
theorem insertTypeAndSequence_holds
    {capacity : Nat} (content : PacketContent)
    (fits : PacketCrypto.aadSize + content.body.length ≤ capacity) :
    ∃ packet,
      ((create capacity).reserveHeader
        |>.bind (writeBytes content.body)
        |>.bind (insertPacketType content.packetType)
        |>.bind (insertPacketSequence content.packetSequence)) = some packet ∧
      packet.Holds capacity
        ([0, 0, 0, 0, 0] ++ [content.packetType.toByte] ++
          sequenceBytes content.packetSequence ++ content.body) := by
  rw [PacketCrypto.aadSize_eq] at fits
  have room : headerSize ≤ capacity := by
    change 5 ≤ capacity
    omega
  obtain ⟨reserved, reservedEq, reservedHolds⟩ := Holds.reserveHeader room
  obtain ⟨filled, filledEq, filledHolds, -⟩ :=
    reservedHolds.writeBytes content.body (by simp; omega)
  obtain ⟨typed, typedEq, typedHolds⟩ :=
    filledHolds.insertMetadata [packetTypeValue content.packetType]
      (by simp; omega)
  obtain ⟨sequenced, sequencedEq, sequencedHolds⟩ :=
    typedHolds.insertMetadata (sequenceBytes content.packetSequence)
      (by simp [MultiSocketRudp.packetSequenceSize]; omega)
  have typedInserted :
      filled.insertPacketType content.packetType = some typed := typedEq
  have sequenceInserted :
      typed.insertPacketSequence content.packetSequence = some sequenced :=
    sequencedEq
  rw [packetTypeValue_eq] at sequencedHolds
  refine ⟨sequenced, ?_, sequencedHolds⟩
  rw [reservedEq, Option.bind_some, filledEq, Option.bind_some, typedInserted,
    Option.bind_some, sequenceInserted]

/-- A packet that fits is built by insertion, and it is the packet that the
other implementation writes. -/
theorem insertPacket_holds
    {capacity : Nat} {content : PacketContent}
    (fits : content.written.length ≤ capacity) :
    ∃ packet, insertPacket capacity content = some packet ∧
      packet.Holds capacity content.written := by
  have front := PacketCrypto.aadSize_le_bodyOffset content.isCorePacket
  have total := content.written_length
  obtain ⟨sequenced, sequencedEq, sequencedHolds⟩ :=
    insertTypeAndSequence_holds content (by omega : _ ≤ capacity)
  obtain ⟨packetType, packetSequence, packetId, body⟩ := content
  cases packetId with
  | none =>
      refine ⟨sequenced, ?_, sequencedHolds⟩
      simp only [insertPacket, sequencedEq, Option.bind_some]
  | some packetId =>
      have room :
          MultiSocketRudp.packetIdSize + 14 + body.length ≤ capacity := by
        rw [total] at fits
        change 18 + body.length ≤ capacity at fits
        change 4 + 14 + body.length ≤ capacity
        omega
      obtain ⟨inserted, insertedEq, insertedHolds⟩ :=
        sequencedHolds.insertMetadata
          (wordBytes MultiSocketRudp.packetIdSize packetId)
          (by simp [MultiSocketRudp.packetSequenceSize]; omega)
      have idInserted : sequenced.insertPacketId packetId = some inserted :=
        insertedEq
      refine ⟨inserted, ?_, ?_⟩
      · simp only [insertPacket, sequencedEq, Option.bind_some, idInserted]
      · simpa [PacketContent.written, PacketContent.packetIdBytes,
          PacketCrypto.writePacket] using insertedHolds

/-- A core packet is built front to back. -/
theorem buildCorePacket_holds
    {capacity : Nat}
    (packetType : PacketType) (packetSequence : PacketSequence)
    (fits : PacketCrypto.aadSize ≤ capacity) :
    ∃ packet,
      (create capacity).buildCorePacket packetType packetSequence =
        some packet ∧
      packet.Holds capacity
        ([0, 0, 0, 0, 0] ++ [packetType.toByte] ++
          sequenceBytes packetSequence) := by
  rw [PacketCrypto.aadSize_eq] at fits
  have start :
      ({ create capacity with
          readPos := headerSize, writePos := headerSize } : NetBuffer).Holds
        capacity [0, 0, 0, 0, 0] :=
    ⟨rfl, rfl⟩
  obtain ⟨typed, typedEq, typedHolds, -⟩ :=
    start.writeBytes [packetTypeValue packetType] (by simp; omega)
  obtain ⟨sequenced, sequencedEq, sequencedHolds, -⟩ :=
    typedHolds.writeBytes (sequenceBytes packetSequence)
      (by simp [MultiSocketRudp.packetSequenceSize]; omega)
  rw [packetTypeValue_eq] at sequencedHolds
  refine ⟨sequenced, ?_, sequencedHolds⟩
  rw [buildCorePacket, writeByte, typedEq, Option.bind_some, writeULong,
    sequencedEq]

/-- A CONNECT packet is a core packet with the id of the session behind it. -/
theorem buildConnectPacket_holds
    {capacity : Nat} (sessionId : SessionIdType)
    (fits : PacketCrypto.aadSize + 2 ≤ capacity) :
    ∃ packet, (create capacity).buildConnectPacket sessionId = some packet ∧
      packet.Holds capacity
        ([0, 0, 0, 0, 0] ++ [PacketType.connectType.toByte] ++
          sequenceBytes 0 ++ wordBytes 2 sessionId) := by
  obtain ⟨core, coreEq, coreHolds⟩ :=
    buildCorePacket_holds .connectType 0 (by omega : _ ≤ capacity)
  rw [PacketCrypto.aadSize_eq] at fits
  obtain ⟨filled, filledEq, filledHolds, -⟩ :=
    coreHolds.writeBytes (wordBytes 2 sessionId)
      (by simp [MultiSocketRudp.packetSequenceSize]; omega)
  refine ⟨filled, ?_, filledHolds⟩
  unfold buildCorePacket at coreEq
  rw [buildConnectPacket, coreEq, Option.bind_some, writeUShort, filledEq]

/-- Whatever is built holds the packet that the other implementation writes. -/
theorem Builds.holds
    {capacity : Nat} {content : PacketContent} {packet : NetBuffer}
    (builds : Builds capacity content packet)
    (fits : content.written.length ≤ capacity) :
    packet.Holds capacity content.written := by
  have length := content.written_length
  cases builds with
  | inserted built =>
      obtain ⟨expected, expectedEq, expectedHolds⟩ := insertPacket_holds fits
      cases built.symm.trans expectedEq
      exact expectedHolds
  | @core packetType packetSequence _ built =>
      obtain ⟨expected, expectedEq, expectedHolds⟩ :=
        buildCorePacket_holds packetType packetSequence fits
      cases built.symm.trans expectedEq
      simpa [PacketContent.written, PacketContent.packetIdBytes,
        PacketCrypto.writePacket] using expectedHolds
  | @connect sessionId _ built =>
      obtain ⟨expected, expectedEq, expectedHolds⟩ :=
        buildConnectPacket_holds sessionId fits
      cases built.symm.trans expectedEq
      exact expectedHolds

/-! ## Encoding and reading -/

section Codec

variable {Key : Type*} {scheme : Aead.Scheme Key Byte} {key : Key}
variable {sessionSalt nonce ciphertext authTag : List Byte}
variable {direction : PacketDirection}
variable {content : PacketContent} {headerCode : Byte}

/-- The bot tester seals the packet's body behind the same header. -/
theorem Holds.encodePacket
    {packet : NetBuffer} {capacity : Nat}
    (holds : packet.Holds capacity content.written)
    (tagLength : scheme.tagLength = MultiSocketRudp.authTagSize)
    (filled :
      fillNonce sessionSalt content.packetSequence direction = some nonce)
    (sealing :
      scheme.sealed key nonce
          ((content.headed headerCode).take PacketCrypto.aadSize)
          content.body =
        some (ciphertext, authTag))
    (fits : content.frameLength ≤ capacity)
    (short : content.frameLength < 2 ^ 16) :
    ∃ encoded,
      packet.encodePacket scheme key headerCode content.packetSequence
          direction sessionSalt content.isCorePacket =
        some encoded ∧
      encoded.Holds capacity
        (sealedFrame (PacketCrypto.bodyOffset content.isCorePacket)
          (content.headed headerCode) ciphertext authTag) := by
  have offsetBound := PacketCrypto.aadSize_le_bodyOffset content.isCorePacket
  rw [PacketCrypto.aadSize_eq] at offsetBound
  have length := holds.writePos_eq
  rw [content.written_length] at length
  simp only [PacketContent.frameLength, MultiSocketRudp.authTagSize] at fits short
  obtain ⟨headed, headedEq, headedHolds⟩ :=
    holds.setHeader headerCode authTagSize
      (by rw [content.written_length]; change 5 ≤ _; omega)
      (by rw [content.written_length, authTagSize]; omega)
  change headed.Holds capacity (content.headed headerCode) at headedHolds
  have headedLength := headedHolds.writePos_eq
  rw [content.headed_length] at headedLength
  have bodyLength := scheme.ciphertext_length sealing
  have tagSize : authTag.length = authTagSize :=
    (scheme.tag_length sealing).trans tagLength
  have associated :
      span headed.buffer 0 aadSize =
        (content.headed headerCode).take PacketCrypto.aadSize := by
    rw [headedHolds.span_eq (by
      rw [content.headed_length]
      change 0 + 14 ≤ _
      omega), List.drop_zero]
    rfl
  have plaintext :
      span headed.buffer (bodyOffset content.isCorePacket)
          (headed.writePos - bodyOffset content.isCorePacket) =
        content.body := by
    rw [bodyOffset_eq, headedHolds.writePos_eq,
      headedHolds.span_eq_drop (by rw [content.headed_length]; omega),
      content.headed_body]
  have long :
      ¬ packet.writePos < bodyOffset content.isCorePacket := by
    rw [bodyOffset_eq]
    omega
  have writable :
      packet.isWritableFrom packet.writePos authTagSize = true := by
    simp only [isWritableFrom, holds.capacity_eq, authTagSize,
      decide_eq_true_eq]
    omega
  unfold NetBuffer.encodePacket
  simp only [if_neg long, if_pos writable, writeNonce_of_fillNonce filled,
    headedEq, Option.bind_some, associated, plaintext, sealing,
    Option.map_some]
  refine ⟨_, rfl, headedHolds.capacity_eq, ?_⟩
  simp only [getPacketBuffer, ← tagSize]
  rw [front_write, bodyOffset_eq, front_write_within _ _ _ (by omega),
    headedHolds.front_eq (by rw [content.headed_length]; omega),
    List.drop_of_length_le (by simp; omega), List.append_nil, sealedFrame]

/-- Decoding cuts off the tag and restores the packet with its header. -/
theorem Holds.decodePacket
    {packet : NetBuffer} {capacity : Nat}
    (holds :
      packet.Holds capacity
        (sealedFrame (PacketCrypto.bodyOffset content.isCorePacket)
          (content.headed headerCode) ciphertext authTag))
    (sizes :
      FrameSizes (PacketCrypto.bodyOffset content.isCorePacket)
        (content.headed headerCode) ciphertext authTag)
    (counts :
      HeaderCounts
        (sealedFrame (PacketCrypto.bodyOffset content.isCorePacket)
          (content.headed headerCode) ciphertext authTag))
    (filled :
      fillNonce sessionSalt content.packetSequence direction = some nonce)
    (sealing :
      scheme.sealed key nonce
          ((content.headed headerCode).take PacketCrypto.aadSize)
          content.body =
        some (ciphertext, authTag)) :
    ∃ decoded,
      packet.decodePacket scheme key content.isCorePacket sessionSalt
          direction =
        some decoded ∧
      decoded.Holds capacity (content.headed headerCode) ∧
      decoded.readPos = packet.readPos := by
  have offsetBound := PacketCrypto.aadSize_le_bodyOffset content.isCorePacket
  have aad := sizes.take_eq offsetBound
  have sequence := PacketCrypto.readSequence_congr aad
  rw [PacketCrypto.aadSize_eq] at offsetBound
  have frameLength := sizes.length_eq
  rw [content.headed_length, MultiSocketRudp.authTagSize] at frameLength
  have length := holds.writePos_eq
  rw [frameLength] at length
  have associated :
      span packet.buffer 0 aadSize =
        (content.headed headerCode).take PacketCrypto.aadSize := by
    rw [holds.span_eq (by
      rw [frameLength]
      change 0 + 14 ≤ _
      omega), List.drop_zero, ← aad]
    rfl
  have packetSequence :
      littleEndian (span packet.buffer packetSequenceOffset
          packetSequenceSize) =
        content.packetSequence := by
    rw [holds.span_eq (by
      rw [frameLength]
      change 6 + 8 ≤ _
      omega), ← content.readSequence_headed headerCode, ← sequence]
    rfl
  have authTagOffset :
      packet.writePos - authTagSize = (content.headed headerCode).length := by
    rw [length, authTagSize, content.headed_length]
    omega
  have body :
      span packet.buffer (bodyOffset content.isCorePacket)
          ((content.headed headerCode).length -
            bodyOffset content.isCorePacket) =
        ciphertext := by
    rw [bodyOffset_eq, holds.span_eq (by
      rw [frameLength, content.headed_length]
      omega), sizes.body_eq]
  have tag :
      span packet.buffer (content.headed headerCode).length authTagSize =
        authTag := by
    rw [holds.span_eq (by
      rw [frameLength, content.headed_length, authTagSize]), sizes.authTag_eq]
    exact List.take_of_length_le sizes.authTag_length.le
  have payloadSize :
      (littleEndian (span packet.buffer 1 2)).toNat =
        packet.writePos - headerSize := by
    rw [holds.span_eq (by omega), holds.writePos_eq]
    exact counts
  have accepted :
      ¬ (packet.writePos < packetSequenceOffset + packetSequenceSize ∨
        packet.writePos < bodyOffset content.isCorePacket + authTagSize ∨
        packet.writePos - headerSize ≠ packet.writePos - headerSize) := by
    rw [bodyOffset_eq, length]
    simp only [packetSequenceOffset, headerSize, packetTypeSize,
      packetSequenceSize, authTagSize]
    omega
  have reached : headerSize ≤ packet.writePos := by
    change 5 ≤ _
    omega
  have plaintextLength := scheme.ciphertext_length sealing
  unfold NetBuffer.decodePacket
  simp only [if_pos reached, payloadSize, if_neg accepted, packetSequence,
    writeNonce_of_fillNonce filled, Option.bind_some, associated,
    authTagOffset, body, tag, scheme.opened_sealed sealing, Option.map_some]
  refine ⟨_, rfl, ⟨holds.capacity_eq, ?_⟩, rfl⟩
  have restored :=
    List.take_append_drop (PacketCrypto.bodyOffset content.isCorePacket)
      (content.headed headerCode)
  rw [content.headed_body] at restored
  simp only [getPacketBuffer]
  rw [bodyOffset_eq, front_write_within _ _ _ (by
      rw [content.headed_length]),
    holds.front_eq (by omega), sizes.take_eq le_rfl,
    List.drop_of_length_le (by simp), List.append_nil, restored]

/-- The type is read from the frame before it is decoded. -/
theorem Holds.readByte_sealedFrame
    {packet : NetBuffer} {capacity : Nat}
    (holds :
      packet.Holds capacity
        (sealedFrame (PacketCrypto.bodyOffset content.isCorePacket)
          (content.headed headerCode) ciphertext authTag))
    (sizes :
      FrameSizes (PacketCrypto.bodyOffset content.isCorePacket)
        (content.headed headerCode) ciphertext authTag)
    (position : packet.readPos = 5) :
    ∃ advanced,
      packet.readByte = some (content.packetType.toByte, advanced) ∧
      advanced.Holds capacity
        (sealedFrame (PacketCrypto.bodyOffset content.isCorePacket)
          (content.headed headerCode) ciphertext authTag) ∧
      advanced.readPos = 6 := by
  have offsetBound := PacketCrypto.aadSize_le_bodyOffset content.isCorePacket
  rw [PacketCrypto.aadSize_eq] at offsetBound
  have frameLength := sizes.length_eq
  rw [content.headed_length] at frameLength
  obtain ⟨advanced, advancedEq, advancedHolds, advancedPos⟩ :=
    holds.readBytes (by omega : packet.readPos + 1 ≤ _)
  refine ⟨advanced, ?_, advancedHolds, by rw [advancedPos, position]⟩
  have front := sizes.take_eq (by omega : 5 + 1 ≤ _)
  rw [NetBuffer.readByte, advancedEq, position, List.take_drop, front,
    ← List.take_drop, content.headed_type]
  rfl

/-- The sequence is read from the decoded packet. -/
theorem Holds.readULong_headed
    {packet : NetBuffer} {capacity : Nat}
    (holds : packet.Holds capacity (content.headed headerCode))
    (position : packet.readPos = 6) :
    ∃ advanced,
      packet.readULong = some (content.packetSequence, advanced) ∧
      advanced.Holds capacity (content.headed headerCode) ∧
      advanced.readPos = 14 := by
  have offsetBound := PacketCrypto.aadSize_le_bodyOffset content.isCorePacket
  rw [PacketCrypto.aadSize_eq] at offsetBound
  obtain ⟨advanced, advancedEq, advancedHolds, advancedPos⟩ :=
    holds.readBytes (by rw [content.headed_length]; omega :
      packet.readPos + 8 ≤ _)
  refine ⟨advanced, ?_, advancedHolds, by rw [advancedPos, position]⟩
  have bytes :
      ((content.headed headerCode).drop 6).take 8 =
        sequenceBytes content.packetSequence := by
    rw [content.headed_sequence]
    exact List.take_left' (PacketCrypto.sequenceBytes_length _)
  rw [NetBuffer.readULong, advancedEq, position, bytes, Option.map_some,
    Prod.map_apply, PacketCrypto.littleEndian_sequenceBytes]
  rfl

/-- The packet id of a full packet is read behind the sequence. -/
theorem Holds.readUInt_headed
    {packet : NetBuffer} {capacity : Nat} {packetId : PacketId}
    (holds : packet.Holds capacity (content.headed headerCode))
    (full : content.packetId = some packetId)
    (position : packet.readPos = 14) :
    ∃ advanced,
      packet.readUInt = some (packetId, advanced) ∧
      advanced.Holds capacity (content.headed headerCode) ∧
      advanced.readPos = 18 := by
  have offset : PacketCrypto.bodyOffset content.isCorePacket = 18 := by
    rw [PacketContent.isCorePacket, full]
    rfl
  obtain ⟨advanced, advancedEq, advancedHolds, advancedPos⟩ :=
    holds.readBytes (by rw [content.headed_length]; omega :
      packet.readPos + 4 ≤ _)
  refine ⟨advanced, ?_, advancedHolds, by rw [advancedPos, position]⟩
  have bytes :
      ((content.headed headerCode).drop 14).take 4 =
        wordBytes MultiSocketRudp.packetIdSize packetId := by
    rw [content.headed_content, PacketContent.packetIdBytes, full]
    exact List.take_left' (PacketCrypto.wordBytes_length _ _)
  rw [NetBuffer.readUInt, advancedEq, position, bytes, Option.map_some,
    Prod.map_apply,
    PacketCrypto.littleEndian_wordBytes packetId (by decide) (by decide)]
  simp

/-- The rest of the decoded packet is its body. -/
theorem Holds.readBody_headed
    {packet : NetBuffer} {capacity : Nat}
    (holds : packet.Holds capacity (content.headed headerCode))
    (position :
      packet.readPos = PacketCrypto.bodyOffset content.isCorePacket) :
    ∃ advanced,
      packet.readBytes (packet.writePos - packet.readPos) =
        some (content.body, advanced) := by
  have length := holds.writePos_eq
  rw [content.headed_length] at length
  obtain ⟨advanced, advancedEq, -⟩ :=
    holds.readBytes (by rw [content.headed_length]; omega :
      packet.readPos + (packet.writePos - packet.readPos) ≤ _)
  refine ⟨advanced, ?_⟩
  rw [advancedEq, position, content.headed_body, length,
    Nat.add_sub_cancel_left, List.take_length]

/-- A datagram is copied into a buffer of its length. -/
theorem Holds.ofDatagram (data : List Byte) :
    ∃ written, (create data.length).writeBytes data = some written ∧
      written.Holds data.length data ∧ written.readPos = 0 := by
  have empty : (create data.length).Holds data.length [] := ⟨rfl, rfl⟩
  obtain ⟨written, writtenEq, writtenHolds, writtenPos⟩ :=
    empty.writeBytes data (by simp)
  exact ⟨written, writtenEq, writtenHolds, writtenPos⟩

/-- Reading a frame gives back what the packet carries. -/
theorem receive_sealedFrame
    (sizes :
      FrameSizes (PacketCrypto.bodyOffset content.isCorePacket)
        (content.headed headerCode) ciphertext authTag)
    (counts :
      HeaderCounts
        (sealedFrame (PacketCrypto.bodyOffset content.isCorePacket)
          (content.headed headerCode) ciphertext authTag))
    (filled :
      fillNonce sessionSalt content.packetSequence direction = some nonce)
    (sealing :
      scheme.sealed key nonce
          ((content.headed headerCode).take PacketCrypto.aadSize)
          content.body =
        some (ciphertext, authTag)) :
    receive scheme key content.isCorePacket sessionSalt direction
        (sealedFrame (PacketCrypto.bodyOffset content.isCorePacket)
          (content.headed headerCode) ciphertext authTag) =
      some
        ⟨content.packetType.toByte, content.packetSequence, content.packetId,
          content.body⟩ := by
  have offsetBound := PacketCrypto.aadSize_le_bodyOffset content.isCorePacket
  have frameLength := sizes.length_eq
  rw [content.headed_length] at frameLength
  rw [PacketCrypto.aadSize_eq] at offsetBound
  obtain ⟨written, writtenEq, writtenHolds, writtenPos⟩ :=
    Holds.ofDatagram
      (sealedFrame (PacketCrypto.bodyOffset content.isCorePacket)
        (content.headed headerCode) ciphertext authTag)
  obtain ⟨skipped, skippedEq, skippedHolds, skippedPos⟩ :=
    writtenHolds.readBytes (by
      rw [writtenPos]
      change 0 + 5 ≤ _
      omega : written.readPos + headerSize ≤ _)
  rw [writtenPos] at skippedPos
  obtain ⟨typed, typedEq, typedHolds, typedPos⟩ :=
    skippedHolds.readByte_sealedFrame sizes skippedPos
  obtain ⟨decoded, decodedEq, decodedHolds, decodedPos⟩ :=
    typedHolds.decodePacket sizes counts filled sealing
  rw [typedPos] at decodedPos
  obtain ⟨sequenced, sequencedEq, sequencedHolds, sequencedPos⟩ :=
    decodedHolds.readULong_headed decodedPos
  unfold receive
  simp only [writtenEq, Option.bind_some, skipBytes, skippedEq,
    Option.map_some, typedEq, decodedEq, sequencedEq]
  cases packetId : content.packetId with
  | none =>
      have core : content.isCorePacket = true := by
        rw [PacketContent.isCorePacket, packetId]
        rfl
      obtain ⟨rest, restEq⟩ :=
        sequencedHolds.readBody_headed (by rw [sequencedPos, core]; rfl)
      simp only [core, if_true, restEq, Option.map_some]
  | some id =>
      have full : content.isCorePacket = false := by
        rw [PacketContent.isCorePacket, packetId]
        rfl
      obtain ⟨identified, identifiedEq, identifiedHolds, identifiedPos⟩ :=
        sequencedHolds.readUInt_headed packetId sequencedPos
      obtain ⟨rest, restEq⟩ :=
        identifiedHolds.readBody_headed (by rw [identifiedPos, full]; rfl)
      simp only [full, Bool.false_eq_true, if_false, identifiedEq,
        Option.bind_some, restEq, Option.map_some]

end Codec

end NetBuffer
end BotTester
end MultiSocketRudp
