import MultiSocketRudp.BotTester.PacketCodec

/-!
# The two packet codecs

`PacketCryptoHelper` and the `NetBuffer` of the bot tester encode every packet to
the same frame, and each of the receivers reads from the frame what the packet
carries.  Both sides have the key, the salt and the header code of the session,
and both use the same authenticated cipher.
-/

namespace MultiSocketRudp

open PacketCrypto BotTester

/-- What the C++ side reads from a decoded packet is what the packet carries. -/
structure BotTester.PacketContent.IsReadFrom
    (content : PacketContent) (decoded : List Byte) : Prop where
  packetType : readType decoded = content.packetType.toByte
  packetSequence : readSequence decoded = content.packetSequence
  packetId :
    ∀ packetId ∈ content.packetId,
      (littleEndian (readPacketId decoded)).setWidth 32 = packetId
  body :
    (decoded.drop (PacketCrypto.bodyOffset content.isCorePacket)).take
        content.body.length =
      content.body

section Interoperability

variable {Key : Type*} (scheme : Aead.Scheme Key Byte) (key : Key)
variable (headerCode : Byte) (sessionSalt : List Byte)
variable (direction : PacketDirection)
variable (readBuffer : List Byte → Nat → List Byte)
variable (defaultSize capacity : Nat) (content : PacketContent)

/-- Both sides encode the packet to the frame, and all read the packet from
it. -/
structure Interoperates (frame : List Byte) : Prop where
  /-- `PacketCryptoHelper::EncodePacket` produces the frame. -/
  encoded :
    PacketCrypto.encodePacket scheme headerCode ⟨content.written, false⟩
        content.packetSequence direction sessionSalt (some key)
        content.isCorePacket =
      ⟨frame, true⟩
  /-- The bot tester can build the packet. -/
  built : ∃ packet, NetBuffer.insertPacket capacity content = some packet
  /-- However the bot tester builds it, it produces the frame. -/
  encodedByTester :
    ∀ packet, NetBuffer.Builds capacity content packet →
      (packet.encodePacket scheme key headerCode content.packetSequence
          direction sessionSalt content.isCorePacket).map
        NetBuffer.getPacketBuffer = some frame
  /-- The server takes the frame as one packet. -/
  framedByServer : onRecvPacket frame = some frame
  /-- The client cuts the frame off whatever follows it. -/
  framedByClient :
    ∀ following,
      onRecvStream readBuffer defaultSize (frame ++ following)
          (frame.length + following.length) =
        frame ::
          onRecvStream readBuffer defaultSize following following.length
  /-- `PacketCryptoHelper::DecodePacket` accepts the frame. -/
  decoded :
    ∃ decoded,
      PacketCrypto.decodePacket scheme frame sessionSalt (some key)
          content.isCorePacket direction =
        some decoded ∧
      content.IsReadFrom decoded
  /-- The bot tester accepts the frame. -/
  received :
    NetBuffer.receive scheme key content.isCorePacket sessionSalt direction
        frame =
      some
        ⟨content.packetType.toByte, content.packetSequence, content.packetId,
          content.body⟩

/-- The packet with its header, and anything behind it, is read as the packet. -/
theorem BotTester.PacketContent.isReadFrom_headed (authTag : List Byte) :
    content.IsReadFrom (content.headed headerCode ++ authTag) := by
  have long := content.headed_length headerCode
  have offsetBound := aadSize_le_bodyOffset content.isCorePacket
  rw [aadSize_eq] at offsetBound
  have front {count : Nat} (inside : count ≤ 14) :
      (content.headed headerCode ++ authTag).drop count =
        (content.headed headerCode).drop count ++ authTag :=
    List.drop_append_of_le_length (by omega)
  constructor
  · have byte := congrArg (fun bytes => bytes[0]?) (front (by decide : 5 ≤ 14))
    rw [content.headed_type] at byte
    simp only [List.getElem?_drop, Nat.add_zero] at byte
    rw [readType, List.getD_eq_getElem?_getD]
    change ((content.headed headerCode ++ authTag)[5]?).getD 0 = _
    rw [byte]
    rfl
  · rw [readSequence_congr
      (List.take_append_of_le_length (by rw [aadSize_eq]; omega)),
      content.readSequence_headed]
  · intro packetId full
    have bytes :
        readPacketId (content.headed headerCode ++ authTag) =
          wordBytes packetIdSize packetId := by
      rw [readPacketId, aadSize_eq, front le_rfl, content.headed_content,
        PacketContent.packetIdBytes, Option.mem_def.mp full, List.append_assoc]
      exact List.take_left' (wordBytes_length _ _)
    rw [bytes, littleEndian_wordBytes packetId (by decide) (by decide)]
    simp
  · rw [List.drop_append_of_le_length (by omega), content.headed_body,
      List.take_left]

/-- The header of the packet's frame counts the bytes behind it. -/
theorem BotTester.PacketContent.headerCounts
    {content : PacketContent} {headerCode : Byte}
    {ciphertext authTag : List Byte}
    (sizes :
      FrameSizes (PacketCrypto.bodyOffset content.isCorePacket)
        (content.headed headerCode) ciphertext authTag)
    (short : content.frameLength < 2 ^ 16) :
    HeaderCounts
      (sealedFrame (PacketCrypto.bodyOffset content.isCorePacket)
        (content.headed headerCode) ciphertext authTag) := by
  have written := content.written_length
  have offsetBound := aadSize_le_bodyOffset content.isCorePacket
  rw [aadSize_eq] at offsetBound
  rw [PacketContent.frameLength] at short
  have size :
      content.written.length - MultiSocketRudp.headerSize +
          MultiSocketRudp.authTagSize =
        (content.headed headerCode).length + MultiSocketRudp.authTagSize -
          MultiSocketRudp.headerSize := by
    rw [content.headed_length, written]
    simp only [MultiSocketRudp.headerSize]
    omega
  have header :=
    getPayloadLength_setHeader headerCode MultiSocketRudp.authTagSize
      content.written [] (by omega)
  rw [List.append_nil, size] at header
  rw [HeaderCounts, sizes.length_eq,
    ← getPayloadLength_take _ (le_refl 3), sizes.take_eq (by omega),
    getPayloadLength_take _ le_rfl]
  exact header

/-- The two codecs interoperate on every packet that fits the buffers and that
the cipher encrypts. -/
theorem codecs_interoperate
    (tagLength : scheme.tagLength = MultiSocketRudp.authTagSize)
    (saltLength : sessionSalt.length = sessionSaltSize)
    (encrypts :
      ∀ nonce,
        fillNonce sessionSalt content.packetSequence direction = some nonce →
        (scheme.sealed key nonce
          ((content.headed headerCode).take PacketCrypto.aadSize)
          content.body).isSome)
    (reads : ReadsInside readBuffer)
    (fitsBuffer : content.frameLength ≤ defaultSize)
    (fitsWord : content.frameLength < 2 ^ 16)
    (fitsCapacity : content.frameLength ≤ capacity) :
    ∃ frame,
      Interoperates scheme key headerCode sessionSalt direction readBuffer
        defaultSize capacity content frame := by
  obtain ⟨nonce, filled⟩ :
      ∃ nonce,
        fillNonce sessionSalt content.packetSequence direction = some nonce :=
    ⟨_, if_pos saltLength⟩
  obtain ⟨⟨ciphertext, authTag⟩, sealing⟩ :=
    Option.isSome_iff_exists.mp (encrypts nonce filled)
  have written := content.written_length
  have headed := content.headed_length headerCode
  have offsetBound := aadSize_le_bodyOffset content.isCorePacket
  rw [aadSize_eq] at offsetBound
  have size : content.frameLength = content.written.length + 16 := by
    rw [written]
    rfl
  have sealingBody := sealing
  rw [← content.headed_body headerCode] at sealingBody
  have sizes :=
    FrameSizes.of_sealed tagLength (by omega) sealingBody
  have frameLength := sizes.length_eq
  rw [headed, ← written, authTagSize, ← size] at frameLength
  have counts := PacketContent.headerCounts sizes fitsWord
  refine
    ⟨sealedFrame (PacketCrypto.bodyOffset content.isCorePacket)
        (content.headed headerCode) ciphertext authTag, ?_⟩
  exact
    { encoded :=
        encodePacket_eq_sealedFrame filled (by omega) sealingBody
      built :=
        (NetBuffer.insertPacket_holds (by omega)).imp fun _ built => built.1
      encodedByTester := by
        intro packet builds
        obtain ⟨encoded, encodedEq, encodedHolds⟩ :=
          (builds.holds (by omega)).encodePacket tagLength filled sealing
            fitsCapacity fitsWord
        rw [encodedEq, Option.map_some, encodedHolds.bytes_eq]
      framedByServer := onRecvPacket_eq_some counts (by
        rw [frameLength, size, written, headerSize]
        omega)
      framedByClient := fun following =>
        onRecvStream_append reads following counts (by
          rw [frameLength, size, written, headerSize]
          omega) (by omega) (by omega)
      decoded :=
        ⟨content.headed headerCode ++ authTag,
          decodePacket_sealedFrame sizes (by
            rwa [content.readSequence_headed]) sealingBody,
          content.isReadFrom_headed headerCode authTag⟩
      received :=
        NetBuffer.receive_sealedFrame sizes counts filled sealing }

end Interoperability

/-! ## A vector of the interoperability test -/

/-- The packet of the vector `ClientToServerReplyFull`. -/
def vectorContent : PacketContent :=
  ⟨.sendReplyType, 1, some 78, [0xDE, 0xAD, 0xBE, 0xEF]⟩

/-- The encryption of the vector. -/
def vectorEncryption : Aead.Encryption (List Byte) Byte where
  key :=
    [0x01, 0x02, 0x03, 0x04, 0x05, 0x06, 0x07, 0x08, 0x09, 0x0A, 0x0B, 0x0C,
      0x0D, 0x0E, 0x0F, 0x10]
  nonce := [0x60, 0xA1, 0xA2, 0xA3, 0, 0, 0, 0, 0, 0, 0, 1]
  associated := [0x00, 0x21, 0x00, 0, 0, 4, 1, 0, 0, 0, 0, 0, 0, 0]
  plaintext := [0xDE, 0xAD, 0xBE, 0xEF]

/-- The cipher on the vector's encryption. -/
def vectorScheme : Aead.Scheme (List Byte) Byte :=
  .ofVector vectorEncryption [0x0D, 0x61, 0xD1, 0xCF]
    [0xE9, 0x9E, 0x58, 0xF3, 0xEE, 0x2F, 0x63, 0x42, 0x58, 0xED, 0x62, 0x78,
      0xC3, 0x03, 0x66, 0x8D] rfl

/-- The salt of the vector. -/
def vectorSalt : List Byte :=
  [0xA0, 0xA1, 0xA2, 0xA3, 0xA4, 0xA5, 0xA6, 0xA7, 0xA8, 0xA9, 0xAA, 0xAB,
    0xAC, 0xAD, 0xAE, 0xAF]

theorem codecs_interoperate_vector :
    ∃ frame,
      Interoperates vectorScheme vectorEncryption.key 0 vectorSalt
        .clientToServerReply (fun stream count => stream.take count) 1024 128
        vectorContent frame :=
  codecs_interoperate vectorScheme vectorEncryption.key 0 vectorSalt
    .clientToServerReply _ 1024 128 vectorContent rfl rfl
    (fun nonce filled => by
      obtain rfl : vectorEncryption.nonce = nonce :=
        Option.some.inj (Eq.trans (by decide) filled)
      decide)
    (fun stream count inside => rfl) (by decide) (by decide) (by decide)

/-- The frame is the one of the vector. -/
example :
    PacketCrypto.encodePacket vectorScheme 0 ⟨vectorContent.written, false⟩ 1
        .clientToServerReply vectorSalt (some vectorEncryption.key) false =
      ⟨[0x00, 0x21, 0x00, 0x00, 0x00, 0x04, 0x01, 0x00, 0x00, 0x00, 0x00, 0x00,
        0x00, 0x00, 0x4E, 0x00, 0x00, 0x00, 0x0D, 0x61, 0xD1, 0xCF, 0xE9, 0x9E,
        0x58, 0xF3, 0xEE, 0x2F, 0x63, 0x42, 0x58, 0xED, 0x62, 0x78, 0xC3, 0x03,
        0x66, 0x8D], true⟩ := by
  decide

end MultiSocketRudp
