import MultiSocketRudp.Common.PacketCrypto

/-!
# Authenticity of accepted packets

The encryptions under one session key are those of a history of `EncodePacket`
calls.  With an ideal cipher, a packet that `DecodePacket` accepts agrees with
one produced packet in its associated data and its body.  For a core packet
these are all bytes in front of the tag.  For a SEND packet the four bytes of
the packet id lie between them, and the decoder accepts every value there.
-/

namespace MultiSocketRudp
namespace PacketCrypto

/-- The keying material that both ends of a session share. -/
structure SessionKeys (Key : Type*) where
  headerCode : Byte
  sessionSalt : List Byte
  keyHandle : Option Key

/-- One call of `EncodePacket`.  The callers write the sequence into the packet
behind its type, pass the same sequence and one of the four directions, and
derive the class from the type. -/
structure EncodeCall where
  /-- Bytes of the packet, which is not yet encoded. -/
  packet : List Byte
  /-- Sequence that enters the nonce. -/
  packetSequence : PacketSequence
  /-- Direction that enters the nonce. -/
  direction : PacketDirection
  /-- The sequence also stands in the packet. -/
  sequence_written : readSequence packet = packetSequence
  /-- The direction is not the sentinel. -/
  direction_valid : direction ≠ .invalid

namespace EncodeCall

variable {Key : Type*} (scheme : Aead.Scheme Key Byte)
variable (keys : SessionKeys Key) (call : EncodeCall)

/-- The class of the packet. -/
def isCorePacket : Bool := isCoreType call.packet

/-- The packet with its header set. -/
def headed : List Byte := setHeader keys.headerCode authTagSize call.packet

/-- The packet that the call produces, when it encodes it. -/
def frame : Option (List Byte) :=
  let encoded :=
    encodePacket scheme keys.headerCode ⟨call.packet, false⟩
      call.packetSequence call.direction keys.sessionSalt keys.keyHandle
      call.isCorePacket
  if encoded.isEncoded then some encoded.bytes else none

/-- The encryption that the call asks the cipher for, when it comes that far. -/
def encryption : Option (Aead.Encryption Key Byte) :=
  (fillNonce keys.sessionSalt call.packetSequence call.direction).bind
    fun nonce =>
      if call.packet.length < bodyOffset call.isCorePacket then none
      else
        keys.keyHandle.map fun key =>
          { key
            nonce
            associated := (call.headed keys).take aadSize
            plaintext := (call.headed keys).drop (bodyOffset call.isCorePacket) }

end EncodeCall

/-- The calls of `EncodePacket` under one session key.  A SEND packet takes its
sequence from the counter of its direction, so no two of them share it. -/
structure EncodeHistory where
  /-- The calls that were made. -/
  Encoded : EncodeCall → Prop
  /-- SEND packets of one direction have distinct sequences. -/
  send_once :
    ∀ {first second : EncodeCall},
      Encoded first →
      Encoded second →
      first.isCorePacket = false →
      second.isCorePacket = false →
      first.direction = second.direction →
      first.packetSequence = second.packetSequence →
      first = second

section Authenticity

variable {Key : Type*} (scheme : Aead.Scheme Key Byte)
variable (keys : SessionKeys Key) (history : EncodeHistory)

/-- The encryptions under the session key are those of the history. -/
def EncodeHistory.log (encryption : Aead.Encryption Key Byte) : Prop :=
  keys.keyHandle = some encryption.key →
    ∃ call, history.Encoded call ∧ call.encryption keys = some encryption

/-- A SEND packet has been produced in this direction. -/
def EncodeHistory.ProducedSend (direction : PacketDirection) : Prop :=
  ∃ call, history.Encoded call ∧ call.direction = direction ∧
    call.isCorePacket = false ∧ (call.frame scheme keys).isSome

/-- The bytes of a packet from the header through the body. -/
def headerThroughBody (packet : List Byte) : List Byte :=
  packet.take (packet.length - authTagSize)

/-- A received packet is authentic when it equals, in every byte from the header
through the body, a packet produced under the same keys with its direction,
class and sequence. -/
def Authentic
    (direction : PacketDirection)
    (isCorePacket : Bool)
    (received : List Byte) : Prop :=
  ∃ call frame, history.Encoded call ∧
    call.direction = direction ∧
    call.isCorePacket = isCorePacket ∧
    call.packetSequence = readSequence received ∧
    call.frame scheme keys = some frame ∧
    headerThroughBody received = headerThroughBody frame

end Authenticity

/-! ## What encoding and decoding hand to the cipher -/

section Ranges

variable {Key : Type*} {scheme : Aead.Scheme Key Byte}
variable {keys : SessionKeys Key} {call : EncodeCall}

theorem aadSize_le_bodyOffset (isCorePacket : Bool) :
    aadSize ≤ bodyOffset isCorePacket := by
  cases isCorePacket <;> decide

/-- A produced frame is the header, the layout-dependent clear part, the
ciphertext and the tag of the call's encryption. -/
theorem EncodeCall.frame_eq_some_iff {frame : List Byte} :
    call.frame scheme keys = some frame ↔
      ∃ encryption ciphertext authTag,
        call.encryption keys = some encryption ∧
        scheme.sealed encryption.key encryption.nonce encryption.associated
          encryption.plaintext = some (ciphertext, authTag) ∧
        frame =
          (call.headed keys).take (bodyOffset call.isCorePacket) ++
            ciphertext ++ authTag := by
  unfold EncodeCall.frame encodePacket EncodeCall.encryption encryptAesGcm
  cases fillNonce keys.sessionSalt call.packetSequence call.direction with
  | none => simp
  | some nonce =>
      by_cases short : call.packet.length < bodyOffset call.isCorePacket
      · simp [short]
      · cases handle : keys.keyHandle with
        | none => simp [short]
        | some key =>
            cases sealing :
                scheme.sealed key nonce ((call.headed keys).take aadSize)
                  ((call.headed keys).drop
                    (bodyOffset call.isCorePacket)) with
            | none =>
                simp only [EncodeCall.headed] at sealing
                simp [short, sealing, EncodeCall.headed]
            | some result =>
                obtain ⟨ciphertext, authTag⟩ := result
                simp only [EncodeCall.headed] at sealing
                simp [short, sealing, EncodeCall.headed, eq_comm]

/-- A call that reaches the cipher has its sequence, direction and class in the
nonce and the associated data. -/
theorem EncodeCall.encryption_eq_some_iff
    {encryption : Aead.Encryption Key Byte} :
    call.encryption keys = some encryption ↔
      bodyOffset call.isCorePacket ≤ call.packet.length ∧
      keys.keyHandle = some encryption.key ∧
      fillNonce keys.sessionSalt call.packetSequence call.direction =
        some encryption.nonce ∧
      encryption.associated = (call.headed keys).take aadSize ∧
      encryption.plaintext =
        (call.headed keys).drop (bodyOffset call.isCorePacket) := by
  obtain ⟨key, nonce, associated, plaintext⟩ := encryption
  unfold EncodeCall.encryption
  cases fillNonce keys.sessionSalt call.packetSequence call.direction with
  | none => simp
  | some written =>
      by_cases short : call.packet.length < bodyOffset call.isCorePacket
      · simp [short]
      · simp only [Option.bind_some, short, if_false, Option.map_eq_some_iff,
          Aead.Encryption.mk.injEq, Option.some.injEq]
        constructor
        · rintro ⟨found, handle, rfl, rfl, rfl, rfl⟩
          exact ⟨not_lt.mp short, handle, rfl, rfl, rfl⟩
        · rintro ⟨-, handle, rfl, rfl, rfl⟩
          exact ⟨key, handle, rfl, rfl, rfl, rfl⟩

/-- The header keeps the length of a packet that reaches the cipher. -/
theorem EncodeCall.headed_length
    (keys : SessionKeys Key)
    (long : bodyOffset call.isCorePacket ≤ call.packet.length) :
    (call.headed keys).length = call.packet.length := by
  have behind := aadSize_le_bodyOffset call.isCorePacket
  rw [aadSize_eq] at behind
  exact setHeader_length _ _ (by omega)

/-- `DecodePacket` accepts exactly what is long enough and what the cipher opens
at the nonce of the written sequence. -/
theorem decodePacket_isSome_iff
    {received salt : List Byte}
    {keyHandle : Option Key}
    {isCorePacket : Bool}
    {direction : PacketDirection} :
    (decodePacket scheme received salt keyHandle isCorePacket
        direction).isSome ↔
      bodyOffset isCorePacket + authTagSize ≤ received.length ∧
      ∃ key nonce, keyHandle = some key ∧
        fillNonce salt (readSequence received) direction = some nonce ∧
        (scheme.opened key nonce (received.take aadSize)
          ((received.drop (bodyOffset isCorePacket)).take
            (received.length - authTagSize - bodyOffset isCorePacket))
          (received.drop (received.length - authTagSize))).isSome := by
  have minimum :
      (received.length - packetSequenceOffset <
        if isCorePacket then packetSequenceSize + authTagSize
        else packetSequenceSize + packetIdSize + authTagSize) ↔
      received.length < bodyOffset isCorePacket + authTagSize := by
    cases isCorePacket <;>
      simp only [packetSequenceOffset, headerSize, packetTypeSize,
        packetSequenceSize, packetIdSize, authTagSize, bodyOffset] <;>
      simp <;> omega
  unfold decodePacket decryptAesGcm
  by_cases short :
      received.length < bodyOffset isCorePacket + authTagSize
  · simp [minimum, short]
  · have body :
        received.length - packetSequenceOffset + packetSequenceOffset -
            authTagSize - bodyOffset isCorePacket =
          received.length - authTagSize - bodyOffset isCorePacket := by
      have behind := aadSize_le_bodyOffset isCorePacket
      have front : packetSequenceOffset ≤ aadSize := by decide
      omega
    simp only [minimum, short, if_false, body]
    simp only [not_lt] at short
    cases fillNonce salt (readSequence received) direction with
    | none => simp
    | some nonce =>
        cases keyHandle with
        | none => simp
        | some key => simp [short]

end Ranges

/-! ## From an accepted packet to its encryption -/

section Accepted

variable {Key : Type*} {scheme : Aead.Scheme Key Byte}
variable {keys : SessionKeys Key} {history : EncodeHistory}

/-- Header through body of a frame with a tag of the right length. -/
theorem headerThroughBody_append
    {front authTag : List Byte}
    (tagSize : authTag.length = authTagSize) :
    headerThroughBody (front ++ authTag) = front := by
  simp [headerThroughBody, tagSize]

/-- Header through body of a received packet, split at the body. -/
theorem headerThroughBody_eq
    {received : List Byte} {offset : Nat}
    (long : offset + authTagSize ≤ received.length) :
    headerThroughBody received =
      received.take offset ++
        (received.drop offset).take
          (received.length - authTagSize - offset) := by
  rw [← List.take_add, headerThroughBody]
  congr 1
  omega

/-- An accepted packet has the associated data, the sequence, the direction, the
body and the tag of one call of the history. -/
theorem accepted_call
    (ideal : scheme.IdealFor (history.log keys))
    {received : List Byte}
    {isCorePacket : Bool}
    {direction : PacketDirection}
    (valid : direction ≠ .invalid)
    (accepted :
      (decodePacket scheme received keys.sessionSalt keys.keyHandle
        isCorePacket direction).isSome) :
    ∃ call, history.Encoded call ∧
      call.direction = direction ∧
      call.packetSequence = readSequence received ∧
      (call.headed keys).take aadSize = received.take aadSize ∧
      call.frame scheme keys = some
        ((call.headed keys).take (bodyOffset call.isCorePacket) ++
          (received.drop (bodyOffset isCorePacket)).take
            (received.length - authTagSize - bodyOffset isCorePacket) ++
          received.drop (received.length - authTagSize)) := by
  obtain ⟨-, key, nonce, handle, written, opens⟩ :=
    decodePacket_isSome_iff.mp accepted
  obtain ⟨plaintext, logged, sealing⟩ := ideal _ _ _ _ _ opens
  obtain ⟨call, encoded, encryption⟩ := logged handle
  obtain ⟨-, -, callNonce, associated, -⟩ :=
    EncodeCall.encryption_eq_some_iff.mp encryption
  obtain ⟨sameSequence, sameDirection⟩ :=
    fillNonce_injective call.direction_valid valid callNonce written
  exact ⟨call, encoded, sameDirection, sameSequence, associated.symm,
    EncodeCall.frame_eq_some_iff.mpr
      ⟨_, _, _, encryption, sealing, rfl⟩⟩

/-- The header leaves the class of a call alone. -/
theorem EncodeCall.isCorePacket_of_associated
    (keys : SessionKeys Key)
    {call : EncodeCall} {received : List Byte}
    (same : (call.headed keys).take aadSize = received.take aadSize) :
    call.isCorePacket = isCoreType received := by
  rw [← isCoreType_congr same, EncodeCall.headed, isCoreType_setHeader]
  rfl

/-- The header leaves the sequence of a call alone. -/
theorem EncodeCall.packetSequence_of_associated
    (keys : SessionKeys Key)
    {call : EncodeCall} {received : List Byte}
    (same : (call.headed keys).take aadSize = received.take aadSize) :
    call.packetSequence = readSequence received := by
  rw [← readSequence_congr same, EncodeCall.headed, readSequence_setHeader,
    call.sequence_written]

/-- Accepted core packets are authentic: associated data and body meet. -/
theorem authentic_of_core
    (ideal : scheme.IdealFor (history.log keys))
    {received : List Byte}
    {direction : PacketDirection}
    (valid : direction ≠ .invalid)
    (core : isCoreType received = true)
    (accepted :
      (decodePacket scheme received keys.sessionSalt keys.keyHandle
        true direction).isSome) :
    Authentic scheme keys history direction true received := by
  obtain ⟨call, encoded, sameDirection, sameSequence, associated, produced⟩ :=
    accepted_call ideal valid accepted
  have long := (decodePacket_isSome_iff.mp accepted).1
  have callCore : call.isCorePacket = true := by
    rw [EncodeCall.isCorePacket_of_associated keys associated, core]
  refine ⟨call, _, encoded, sameDirection, callCore, sameSequence,
    produced, ?_⟩
  have tagSize :
      (received.drop (received.length - authTagSize)).length =
        authTagSize := by
    rw [List.length_drop]
    omega
  rw [headerThroughBody_append tagSize, headerThroughBody_eq long, callCore]
  congr 1
  exact associated.symm

/-- An accepted SEND packet presupposes a SEND packet that was produced. -/
theorem producedSend_of_accepted
    (ideal : scheme.IdealFor (history.log keys))
    {received : List Byte}
    {direction : PacketDirection}
    (valid : direction ≠ .invalid)
    (send : isCoreType received = false)
    (accepted :
      (decodePacket scheme received keys.sessionSalt keys.keyHandle
        false direction).isSome) :
    history.ProducedSend scheme keys direction := by
  obtain ⟨call, encoded, sameDirection, -, associated, produced⟩ :=
    accepted_call ideal valid accepted
  refine ⟨call, encoded, sameDirection, ?_, by simp [produced]⟩
  rw [EncodeCall.isCorePacket_of_associated keys associated, send]

end Accepted

/-! ## Replacing the packet id -/

section Replaced

variable {Key : Type*} {scheme : Aead.Scheme Key Byte}
variable {keys : SessionKeys Key} {history : EncodeHistory}

/-- The packet with other bytes in place of its packet id. -/
def replacePacketId (packetId packet : List Byte) : List Byte :=
  packet.take aadSize ++ packetId ++ packet.drop (aadSize + packetIdSize)

variable {packetId packet : List Byte}

theorem replacePacketId_length
    (size : packetId.length = packetIdSize)
    (long : aadSize + packetIdSize ≤ packet.length) :
    (replacePacketId packetId packet).length = packet.length := by
  simp only [replacePacketId, List.length_append, List.length_take,
    List.length_drop, size]
  omega

theorem replacePacketId_take
    (long : aadSize ≤ packet.length) :
    (replacePacketId packetId packet).take aadSize = packet.take aadSize := by
  rw [replacePacketId, List.append_assoc]
  exact List.take_left' (by rw [List.length_take]; omega)

theorem replacePacketId_drop
    (size : packetId.length = packetIdSize)
    (long : aadSize ≤ packet.length) :
    (replacePacketId packetId packet).drop (aadSize + packetIdSize) =
      packet.drop (aadSize + packetIdSize) := by
  refine List.drop_left' ?_
  simp only [List.length_append, List.length_take, size]
  omega

/-- The handler is chosen by the new bytes. -/
theorem readPacketId_replacePacketId
    (size : packetId.length = packetIdSize)
    (long : aadSize ≤ packet.length) :
    readPacketId (replacePacketId packetId packet) = packetId := by
  rw [readPacketId, replacePacketId, List.append_assoc,
    List.drop_left' (by rw [List.length_take]; omega)]
  exact List.take_left' size

/-- A produced SEND packet has a packet id and a tag, and keeps the associated
data of its call. -/
theorem EncodeCall.frame_bounds
    {call : EncodeCall} {frame : List Byte}
    (tagLength : scheme.tagLength = authTagSize)
    (send : call.isCorePacket = false)
    (produced : call.frame scheme keys = some frame) :
    aadSize + packetIdSize + authTagSize ≤ frame.length ∧
      (call.headed keys).take aadSize = frame.take aadSize := by
  obtain ⟨encryption, ciphertext, authTag, asked, sealing, rfl⟩ :=
    EncodeCall.frame_eq_some_iff.mp produced
  have long := (EncodeCall.encryption_eq_some_iff.mp asked).1
  have tagSize : authTag.length = authTagSize :=
    (scheme.tag_length sealing).trans tagLength
  have headedLength := EncodeCall.headed_length keys long
  rw [send] at long ⊢
  have clearSize :
      ((call.headed keys).take (bodyOffset false)).length =
        aadSize + packetIdSize := by
    rw [List.length_take, headedLength]
    exact Nat.min_eq_left long
  constructor
  · rw [List.length_append, List.length_append, clearSize, tagSize]
    omega
  · rw [List.append_assoc,
      List.take_append_of_le_length (by rw [clearSize]; omega), List.take_take,
      Nat.min_eq_left (by decide)]

/-- A produced SEND packet is still accepted when its packet id is replaced. -/
theorem accepted_replacePacketId
    (tagLength : scheme.tagLength = authTagSize)
    {call : EncodeCall} {frame : List Byte}
    (send : call.isCorePacket = false)
    (produced : call.frame scheme keys = some frame)
    (size : packetId.length = packetIdSize) :
    (decodePacket scheme (replacePacketId packetId frame) keys.sessionSalt
      keys.keyHandle false call.direction).isSome := by
  have front := (EncodeCall.frame_bounds tagLength send produced).2
  obtain ⟨encryption, ciphertext, authTag, asked, sealing, rfl⟩ :=
    EncodeCall.frame_eq_some_iff.mp produced
  obtain ⟨long, handle, nonce, associated, plaintext⟩ :=
    EncodeCall.encryption_eq_some_iff.mp asked
  have tagSize : authTag.length = authTagSize :=
    (scheme.tag_length sealing).trans tagLength
  have headedLength := EncodeCall.headed_length keys long
  rw [send] at long
  have clearSize :
      ((call.headed keys).take (bodyOffset false)).length =
        aadSize + packetIdSize := by
    rw [List.length_take, headedLength]
    exact Nat.min_eq_left long
  have frameSize :
      ((call.headed keys).take (bodyOffset false) ++ ciphertext ++
        authTag).length =
        aadSize + packetIdSize + ciphertext.length + authTagSize := by
    rw [List.length_append, List.length_append, clearSize, tagSize]
  rw [send] at front ⊢
  generalize shape :
    (call.headed keys).take (bodyOffset false) ++ ciphertext ++ authTag =
      frame at frameSize front
  have behindId : frame.drop (aadSize + packetIdSize) =
      ciphertext ++ authTag := by
    rw [← shape, List.append_assoc, List.drop_left' clearSize]
  have replacedSize : (replacePacketId packetId frame).length = frame.length :=
    replacePacketId_length size (by omega)
  have replacedFront :
      (replacePacketId packetId frame).take aadSize =
        (call.headed keys).take aadSize := by
    rw [replacePacketId_take (by omega), ← front]
  have replacedRest :
      (replacePacketId packetId frame).drop (bodyOffset false) =
        ciphertext ++ authTag := by
    rw [← behindId]
    exact replacePacketId_drop size (by omega)
  refine decodePacket_isSome_iff.mpr
    ⟨?_, encryption.key, encryption.nonce, handle, ?_, ?_⟩
  · rw [replacedSize, frameSize]
    change aadSize + packetIdSize + authTagSize ≤ _
    omega
  · rw [← EncodeCall.packetSequence_of_associated keys replacedFront.symm, nonce]
  · have bodySize :
        frame.length - authTagSize - bodyOffset false = ciphertext.length := by
      rw [frameSize]
      change _ - (aadSize + packetIdSize) = _
      omega
    have tagOffset :
        frame.length - authTagSize = bodyOffset false + ciphertext.length := by
      rw [frameSize]
      change _ = aadSize + packetIdSize + _
      omega
    rw [replacedSize, replacedRest, bodySize, tagOffset, ← List.drop_drop,
      replacedRest, List.take_left, List.drop_left, replacedFront,
      ← associated, scheme.opened_sealed sealing]
    rfl

/-- Replacing the packet id by one that differs destroys authenticity: the only
produced packet with that sequence has the old one. -/
theorem not_authentic_replacePacketId
    {call : EncodeCall} {frame : List Byte}
    (tagLength : scheme.tagLength = authTagSize)
    (encoded : history.Encoded call)
    (send : call.isCorePacket = false)
    (produced : call.frame scheme keys = some frame)
    (size : packetId.length = packetIdSize)
    (differs : packetId ≠ readPacketId frame) :
    ¬ Authentic scheme keys history call.direction false
      (replacePacketId packetId frame) := by
  rintro ⟨other, otherFrame, otherEncoded, sameDirection, otherSend,
    sameSequence, otherProduced, same⟩
  obtain ⟨long, associated⟩ := EncodeCall.frame_bounds tagLength send produced
  have sequence :
      call.packetSequence = readSequence (replacePacketId packetId frame) := by
    refine EncodeCall.packetSequence_of_associated keys ?_
    rw [replacePacketId_take (by omega), associated]
  obtain rfl : other = call :=
    history.send_once otherEncoded encoded otherSend send sameDirection
      (sameSequence.trans sequence.symm)
  obtain rfl : otherFrame = frame :=
    Option.some.inj (otherProduced.symm.trans produced)
  apply differs
  have reads (bytes : List Byte)
      (long : aadSize + packetIdSize + authTagSize ≤ bytes.length) :
      readPacketId bytes = readPacketId (headerThroughBody bytes) := by
    rw [readPacketId, readPacketId, headerThroughBody, List.drop_take,
      List.take_take, Nat.min_eq_left (by omega)]
  have replacedSize :
      (replacePacketId packetId otherFrame).length = otherFrame.length :=
    replacePacketId_length size (by omega)
  rw [reads otherFrame long, ← same, ← reads _ (by omega),
    readPacketId_replacePacketId size (by omega)]

end Replaced

section Characterization

variable {Key : Type*} {scheme : Aead.Scheme Key Byte}
variable {keys : SessionKeys Key} {history : EncodeHistory}

/-- Everything accepted in a direction and class is authentic exactly when the
class is core or no SEND packet has been produced in that direction.  The
receivers choose the class by the type byte. -/
theorem accepted_authentic_iff
    (ideal : scheme.IdealFor (history.log keys))
    (tagLength : scheme.tagLength = authTagSize)
    {direction : PacketDirection}
    (valid : direction ≠ .invalid)
    (isCorePacket : Bool) :
    (∀ received : List Byte,
      isCoreType received = isCorePacket →
      (decodePacket scheme received keys.sessionSalt keys.keyHandle
        isCorePacket direction).isSome →
      Authentic scheme keys history direction isCorePacket received) ↔
    (isCorePacket = true ∨ ¬ history.ProducedSend scheme keys direction) := by
  constructor
  · intro authentic
    by_contra sendProduced
    obtain ⟨send, call, encoded, rfl, callSend, produced⟩ :
        isCorePacket = false ∧ history.ProducedSend scheme keys direction := by
      simpa using sendProduced
    subst send
    obtain ⟨frame, produced⟩ := Option.isSome_iff_exists.mp produced
    obtain ⟨long, associated⟩ :=
      EncodeCall.frame_bounds tagLength callSend produced
    let packetId := (readPacketId frame).map (· + 1)
    have size : packetId.length = packetIdSize := by
      simp only [packetId, readPacketId, List.length_map, List.length_take,
        List.length_drop]
      omega
    have differs : packetId ≠ readPacketId frame := by
      intro same
      have first := congrArg (fun bytes => bytes[0]?) same
      have present : 0 < (readPacketId frame).length := by
        rw [← List.length_map (· + 1)]
        exact size ▸ (by decide)
      simp [packetId, List.getElem?_eq_getElem present] at first
    have typed : isCoreType (replacePacketId packetId frame) = false := by
      have same :
          (call.headed keys).take aadSize =
            (replacePacketId packetId frame).take aadSize := by
        rw [replacePacketId_take (by omega), associated]
      rw [← EncodeCall.isCorePacket_of_associated keys same, callSend]
    exact not_authentic_replacePacketId tagLength encoded callSend produced size
      differs (authentic _ typed
        (accepted_replacePacketId tagLength callSend produced size))
  · rintro condition received typed accepted
    cases isCorePacket with
    | true => exact authentic_of_core ideal valid typed accepted
    | false =>
        refine absurd (producedSend_of_accepted ideal valid typed accepted) ?_
        simpa using condition

/-- Keys of one session, for a concrete run. -/
def sampleKeys : SessionKeys Unit where
  headerCode := 0x77
  sessionSalt := List.replicate 16 0
  keyHandle := some ()

/-- A SEND packet with sequence one, packet id seven and a body of one byte. -/
def sampleCall : EncodeCall where
  packet := [0, 0, 0, 0, 0, 3, 1, 0, 0, 0, 0, 0, 0, 0, 7, 0, 0, 0, 42]
  packetSequence := 1
  direction := .clientToServer
  sequence_written := by decide
  direction_valid := by decide

/-- The history of that one packet. -/
def sampleHistory : EncodeHistory where
  Encoded call := call = sampleCall
  send_once := by
    rintro first second rfl rfl - - - -
    rfl

/-- An ideal cipher that has sealed the body of that packet. -/
def sampleScheme : Aead.Scheme Unit Byte :=
  Aead.Scheme.ofList
    [((), [0, 0, 0, 0, 0, 0, 0, 0, 0, 0, 0, 1],
      [0x77, 30, 0, 0, 0, 3, 1, 0, 0, 0, 0, 0, 0, 0], [42])]
    (List.replicate 16 0)

theorem sampleScheme_idealFor :
    sampleScheme.IdealFor (sampleHistory.log sampleKeys) := by
  refine Aead.Scheme.ofList_idealFor fun entry member => ?_
  obtain rfl := List.mem_singleton.mp member
  exact fun _ => ⟨sampleCall, rfl, rfl⟩

theorem accepted_authentic_iff_sample :
    (∀ received : List Byte,
      isCoreType received = true →
      (decodePacket sampleScheme received sampleKeys.sessionSalt
        sampleKeys.keyHandle true .clientToServer).isSome →
      Authentic sampleScheme sampleKeys sampleHistory .clientToServer true
        received) ↔
    (true = true ∨
      ¬ sampleHistory.ProducedSend sampleScheme sampleKeys .clientToServer) :=
  accepted_authentic_iff sampleScheme_idealFor rfl (by decide) true

/-- The packet on the wire, with packet id eight instead of seven. -/
def tamperedPacket : List Byte :=
  [0x77, 30, 0, 0, 0, 3, 1, 0, 0, 0, 0, 0, 0, 0, 8, 0, 0, 0, 42] ++
    List.replicate 16 0

/-- The decoder accepts the tampered packet although it is not authentic. -/
theorem tamperedPacket_accepted :
    sampleScheme.IdealFor (sampleHistory.log sampleKeys) ∧
    isCoreType tamperedPacket = false ∧
    (decodePacket sampleScheme tamperedPacket sampleKeys.sessionSalt
      sampleKeys.keyHandle false .clientToServer).isSome ∧
    ¬ Authentic sampleScheme sampleKeys sampleHistory .clientToServer false
      tamperedPacket := by
  refine ⟨sampleScheme_idealFor, by decide, by decide, ?_⟩
  rintro ⟨call, frame, rfl, -, -, -, produced, same⟩
  have frame_eq :
      sampleCall.frame sampleScheme sampleKeys = some
        ([0x77, 30, 0, 0, 0, 3, 1, 0, 0, 0, 0, 0, 0, 0, 7, 0, 0, 0, 42] ++
          List.replicate 16 0) := by
    decide
  obtain rfl := Option.some.inj (frame_eq.symm.trans produced)
  exact absurd same (by decide)

end Characterization

end PacketCrypto
end MultiSocketRudp
