import MultiSocketRudp.Client.RecvStream
import MultiSocketRudp.Common.PacketFrame

/-!
# The session info from the broker

`TrySetTargetSessionInfo` receives the response of the broker in decrypted chunks
and writes each of them to the beginning of the same buffer.  The number of bytes
received goes on counting over all chunks.

`NetBuffer` is not part of the repository.  `WriteBuffer` and `operator>>` are
parameters that copy bytes and move a position, as the description of the packet
format has it.
-/

namespace MultiSocketRudp
namespace SessionInfoStream

open PacketCrypto (ReservedBytes littleEndian littleEndian_wordBytes setHeader
  wordBytes)
open RecvStream (NetBuffer)
open WriteBuffer

/-- `SESSION_KEY_SIZE`. -/
def sessionKeySize : Nat := 16

/-- `SESSION_SALT_SIZE`. -/
def sessionSaltSize : Nat := 16

/-- What the broker tells a client about its session. -/
structure SessionInfo where
  serverIp : List Byte
  port : BitVec 16
  sessionId : SessionIdType
  sessionKey : List Byte
  sessionSalt : List Byte
  deriving DecidableEq, Repr

/-- How `TrySetTargetSessionInfo` ends. -/
inductive Outcome
  /-- It returns false before it looks at a result code. -/
  | noResponse
  /-- It returns false because of the result code. -/
  | refused (connectResultCode : Byte)
  /-- It has set the target session, and makes the key handle of the key. -/
  | established (info : SessionInfo)
  deriving DecidableEq, Repr

/-! ## What the server writes -/

/-- `SetSessionInfoToBuffer`, behind what has been written before. -/
def setSessionInfoToBuffer (info : SessionInfo) : List Byte :=
  wordBytes 2 (BitVec.ofNat 16 info.serverIp.length) ++ info.serverIp ++
    wordBytes 2 info.port ++ wordBytes 2 info.sessionId ++ info.sessionKey ++
      info.sessionSalt

/-- The buffer of `ReserveSession` when `SendSessionInfoToClient` has set its
header. -/
def reserveSession
    (headerCode : Byte)
    (reserved : ReservedBytes)
    (connectResultCode : Byte)
    (info : SessionInfo) : List Byte :=
  setHeader headerCode 0
    ([0, 0, 0, reserved.first, reserved.second, connectResultCode] ++
      if connectResultCode = 0 then setSessionInfoToBuffer info else [])

/-! ## What the client receives -/

/-- What one receive and one decryption yield. -/
inductive ReceiveStep
  /-- A chunk, and whether the close notification has come. -/
  | received (plain : List Byte) (closeNotify : Bool)
  /-- `recv` or `DecryptDataStream` fails. -/
  | failed
  deriving DecidableEq, Repr

/-- `WriteBuffer` and `operator>>` of `NetBuffer`: for some bytes and for a
string. -/
structure Operations where
  writeBuffer : NetBuffer → List Byte → NetBuffer
  readBytes : NetBuffer → Nat → NetBuffer × List Byte
  readString : NetBuffer → NetBuffer × List Byte

/-- The buffer has a capacity, writing copies to the write position, reading copies
from the read position, and a string stands behind its length. -/
structure Operations.Copies
    (operations : Operations) (capacity : Nat) : Prop where
  writes : ∀ buffer bytes, buffer.iWrite + bytes.length ≤ capacity →
    operations.writeBuffer buffer bytes =
      { buffer with
        serializeBuffer := write buffer.serializeBuffer buffer.iWrite bytes
        iWrite := buffer.iWrite + bytes.length }
  reads : ∀ buffer size,
    operations.readBytes buffer size =
      ({ buffer with iRead := buffer.iRead + size },
        span buffer.serializeBuffer buffer.iRead size)
  readsString : ∀ buffer,
    operations.readString buffer =
      let size :=
        (littleEndian (span buffer.serializeBuffer buffer.iRead 2)).toNat
      ({ buffer with iRead := buffer.iRead + 2 + size },
        span buffer.serializeBuffer (buffer.iRead + 2) size)

/-- The locals of `TrySetTargetSessionInfo`. -/
structure Receiving where
  recvBuffer : NetBuffer
  totalPlainReceived : Nat
  payloadLength : Nat
  payloadComplete : Bool

/-- A word that is read from its two bytes. -/
def readWord (bytes : List Byte) : BitVec 16 :=
  (littleEndian bytes).setWidth 16

section TrySetTargetSessionInfo

variable (operations : Operations)

/-- `SetTargetSessionInfo`, up to the key handle. -/
def setTargetSessionInfo (receivedBuffer : NetBuffer) : Outcome :=
  let (receivedBuffer, code) := operations.readBytes receivedBuffer 1
  let connectResultCode := code.getD 0 0
  if connectResultCode ≠ 0 then .refused connectResultCode
  else
    let (receivedBuffer, serverIp) := operations.readString receivedBuffer
    let (receivedBuffer, port) := operations.readBytes receivedBuffer 2
    let (receivedBuffer, sessionId) := operations.readBytes receivedBuffer 2
    let (receivedBuffer, sessionKey) :=
      operations.readBytes receivedBuffer sessionKeySize
    let (_, sessionSalt) := operations.readBytes receivedBuffer sessionSaltSize
    .established
      ⟨serverIp, readWord port, readWord sessionId, sessionKey, sessionSalt⟩

/-- A chunk is written to the beginning of the buffer. -/
def writeChunk (receiving : Receiving) (plain : List Byte) : Receiving :=
  if plain.length > 0 then
    { receiving with
      recvBuffer :=
        operations.writeBuffer { receiving.recvBuffer with iWrite := 0 } plain
      totalPlainReceived := receiving.totalPlainReceived + plain.length }
  else receiving

/-- The header is read, unless a payload length is known. -/
def readHeader (receiving : Receiving) : Receiving :=
  if receiving.payloadLength = 0 then
    let (recvBuffer, _) := operations.readBytes receiving.recvBuffer 1
    let (recvBuffer, payloadLength) := operations.readBytes recvBuffer 2
    { receiving with
      recvBuffer := recvBuffer
      payloadLength := (littleEndian payloadLength).toNat }
  else receiving

/-- The payload is complete as soon as its length has been received. -/
def testComplete (receiving : Receiving) : Receiving :=
  { receiving with
    payloadComplete :=
      receiving.payloadComplete ||
        decide
          (receiving.payloadLength + headerSize ≤
            receiving.totalPlainReceived) }

/-- The body of the loop behind a successful decryption. -/
def receiveChunk (receiving : Receiving) (plain : List Byte) : Receiving :=
  let written := writeChunk operations receiving plain
  if written.totalPlainReceived < headerSize then written
  else testComplete (readHeader operations written)

/-- The loop, which ends when `recv` returns nothing more; none if it fails. -/
def receiveLoop : Receiving → List ReceiveStep → Option Receiving
  | receiving, [] => some receiving
  | _, .failed :: _ => none
  | receiving, .received plain closeNotify :: rest =>
      let next := receiveChunk operations receiving plain
      if next.payloadComplete && closeNotify then some next
      else receiveLoop next rest

/-- `TrySetTargetSessionInfo` on a buffer that `Alloc` has handed out. -/
def trySetTargetSessionInfo
    (recvBuffer : NetBuffer) (steps : List ReceiveStep) : Outcome :=
  match receiveLoop operations ⟨{ recvBuffer with iRead := 0 }, 0, 0, false⟩
      steps with
  | none => .noResponse
  | some received =>
      if received.payloadComplete then
        setTargetSessionInfo operations
          { received.recvBuffer with iRead := headerSize }
      else .noResponse

/-- The chunks of a response, of which the last one may come with the close
notification. -/
def receiveSteps : List (List Byte) → Bool → List ReceiveStep
  | [], _ => []
  | plain :: rest, closeNotify =>
      .received plain (rest.isEmpty && closeNotify) ::
        receiveSteps rest closeNotify

end TrySetTargetSessionInfo

/-! ## What the bytes in the buffer say -/

/-- The payload length that the header announces. -/
def payloadLengthAt (memory : Nat → Byte) : Nat :=
  (littleEndian (span memory 1 2)).toNat

/-- The number of bytes of the server address. -/
def serverIpSize (memory : Nat → Byte) : Nat :=
  (littleEndian (span memory 6 2)).toNat

/-- The session info behind the result code. -/
def sessionInfoAt (memory : Nat → Byte) : SessionInfo :=
  let size := serverIpSize memory
  { serverIp := span memory 8 size
    port := readWord (span memory (8 + size) 2)
    sessionId := readWord (span memory (8 + size + 2) 2)
    sessionKey := span memory (8 + size + 2 + 2) sessionKeySize
    sessionSalt :=
      span memory (8 + size + 2 + 2 + sessionKeySize) sessionSaltSize }

/-- The outcome that stands behind the header. -/
def outcomeAt (memory : Nat → Byte) : Outcome :=
  if memory headerSize ≠ 0 then .refused (memory headerSize)
  else .established (sessionInfoAt memory)

/-- The number of bytes that `SetTargetSessionInfo` reads. -/
def readSize (memory : Nat → Byte) : Nat :=
  if memory headerSize ≠ 0 then 1 else 39 + serverIpSize memory

variable {operations : Operations} {capacity : Nat}

/-- `SetTargetSessionInfo` reads the outcome behind the header. -/
theorem setTargetSessionInfo_eq
    (copies : operations.Copies capacity)
    (buffer : NetBuffer) :
    setTargetSessionInfo operations { buffer with iRead := headerSize } =
      outcomeAt buffer.serializeBuffer := by
  simp only [setTargetSessionInfo, copies.reads, copies.readsString, outcomeAt,
    sessionInfoAt, serverIpSize]
  have code :
      (span buffer.serializeBuffer headerSize 1).getD 0 0 =
        buffer.serializeBuffer headerSize := by
    simp [span]
  rw [code]
  rfl

/-- Two bytes are read as a small number. -/
theorem littleEndian_pair_lt (memory : Nat → Byte) (offset : Nat) :
    (littleEndian (span memory offset 2)).toNat < 2 ^ 16 := by
  have pair :
      span memory offset 2 = [memory offset, memory (offset + 1)] := rfl
  rw [pair, BotTester.toNat_littleEndian_pair]
  exact Nat.lt_of_le_pred (by decide)
    (BotTester.toNat_or_shiftLeft_le _ _)

/-- Two pairs of bytes that are read as the same number are the same. -/
theorem span_eq_of_littleEndian_eq
    {first second : Nat → Byte} {offset : Nat}
    (same :
      (littleEndian (span first offset 2)).toNat =
        (littleEndian (span second offset 2)).toNat) :
    span first offset 2 = span second offset 2 := by
  have words := BitVec.eq_of_toNat_eq same
  refine List.ext_getElem (by simp) fun index bound other => ?_
  have inside : index < packetSequenceSize :=
    lt_of_lt_of_le (by simpa using bound) (by decide : 2 ≤ _)
  have bytes :=
    (PacketCrypto.sequenceByte_littleEndian (span first offset 2) inside).symm
  rw [words, PacketCrypto.sequenceByte_littleEndian _ inside,
    List.getD_eq_getElem _ _ bound, List.getD_eq_getElem _ _ other] at bytes
  exact bytes

/-- The same for words. -/
theorem span_eq_of_readWord_eq
    {first second : Nat → Byte} {offset : Nat}
    (same :
      readWord (span first offset 2) = readWord (span second offset 2)) :
    span first offset 2 = span second offset 2 := by
  refine span_eq_of_littleEndian_eq ?_
  have words := congrArg BitVec.toNat same
  rwa [readWord, readWord, BitVec.toNat_setWidth, BitVec.toNat_setWidth,
    Nat.mod_eq_of_lt (littleEndian_pair_lt first offset),
    Nat.mod_eq_of_lt (littleEndian_pair_lt second offset)] at words

/-- The bytes of a session info, part by part. -/
theorem span_headerSize (memory : Nat → Byte) (size : Nat) :
    span memory headerSize (39 + size) =
      span memory headerSize 1 ++ span memory 6 2 ++ span memory 8 size ++
        span memory (8 + size) 2 ++ span memory (8 + size + 2) 2 ++
        span memory (8 + size + 2 + 2) sessionKeySize ++
        span memory (8 + size + 2 + 2 + sessionKeySize) sessionSaltSize := by
  have total :
      39 + size = 1 + 2 + size + 2 + 2 + sessionKeySize + sessionSaltSize := by
    simp only [sessionKeySize, sessionSaltSize]
    omega
  have place (count : Nat) : headerSize + (1 + 2 + count) = 8 + count := by
    simp only [headerSize]
    omega
  simp only [total, span_add, Nat.add_assoc, List.append_assoc] at place ⊢
  simp only [place]
  rfl

/-- Two buffers that agree on what is read in the second one have the same
session info. -/
theorem sessionInfoAt_eq
    {first second : Nat → Byte}
    (same :
      span first headerSize (39 + serverIpSize second) =
        span second headerSize (39 + serverIpSize second)) :
    sessionInfoAt first = sessionInfoAt second := by
  have agrees := span_eq_iff.mp same
  have part (offset count : Nat)
      (after : 5 ≤ offset)
      (inside : offset + count ≤ 44 + serverIpSize second) :
      span first offset count = span second offset count :=
    span_eq_iff.mpr fun index bound => by
      have byte := agrees (offset + index - 5) (by omega)
      rwa [show headerSize + (offset + index - 5) = offset + index by
        simp only [headerSize]
        omega] at byte
  have size : serverIpSize first = serverIpSize second := by
    rw [serverIpSize, serverIpSize, part 6 2 (by omega) (by omega)]
  rw [sessionInfoAt, sessionInfoAt, size]
  simp only [sessionKeySize, sessionSaltSize]
  rw [part 8 _ (by omega) (by omega), part (8 + _) 2 (by omega) (by omega),
    part (8 + _ + 2) 2 (by omega) (by omega),
    part (8 + _ + 2 + 2) 16 (by omega) (by omega),
    part (8 + _ + 2 + 2 + 16) 16 (by omega) (by omega)]

/-- Two buffers with the same session info agree on what is read. -/
theorem span_eq_of_sessionInfoAt_eq
    {first second : Nat → Byte}
    (codes : first headerSize = second headerSize)
    (same : sessionInfoAt first = sessionInfoAt second) :
    span first headerSize (39 + serverIpSize second) =
      span second headerSize (39 + serverIpSize second) := by
  obtain ⟨serverIp, port, sessionId, sessionKey, sessionSalt⟩ :=
    SessionInfo.mk.inj same
  have size : serverIpSize first = serverIpSize second := by
    simpa using congrArg List.length serverIp
  have code : span first headerSize 1 = span second headerSize 1 :=
    span_eq_iff.mpr fun index inside => by
      obtain rfl : index = 0 := by omega
      exact codes
  rw [size] at serverIp port sessionId sessionKey sessionSalt
  rw [span_headerSize, span_headerSize, code, span_eq_of_littleEndian_eq size,
    serverIp, span_eq_of_readWord_eq port, span_eq_of_readWord_eq sessionId,
    sessionKey, sessionSalt]

/-- Two buffers have the same outcome if and only if they agree on the bytes that
are read in the second one. -/
theorem outcomeAt_eq_iff {first second : Nat → Byte} :
    outcomeAt first = outcomeAt second ↔
      span first headerSize (readSize second) =
        span second headerSize (readSize second) := by
  have code_eq {size : Nat} (positive : 0 < size)
      (same : span first headerSize size = span second headerSize size) :
      first headerSize = second headerSize :=
    span_eq_iff.mp same 0 positive
  by_cases refused : second headerSize ≠ 0
  · rw [outcomeAt, outcomeAt, readSize, if_pos refused, if_pos refused]
    constructor
    · intro same
      refine span_eq_iff.mpr fun index inside => ?_
      obtain rfl : index = 0 := by omega
      by_cases other : first headerSize ≠ 0
      · rw [if_pos other] at same
        exact Outcome.refused.inj same
      · rw [if_neg other] at same
        nomatch same
    · intro same
      rw [code_eq Nat.one_pos same, if_pos refused]
  · have code : second headerSize = 0 := not_not.mp refused
    rw [outcomeAt, outcomeAt, readSize, if_neg refused, if_neg refused]
    constructor
    · intro same
      by_cases other : first headerSize ≠ 0
      · rw [if_pos other] at same
        nomatch same
      · rw [if_neg other] at same
        exact span_eq_of_sessionInfoAt_eq
          ((not_not.mp other).trans code.symm)
          (Outcome.established.inj same)
    · intro same
      have other : first headerSize = 0 :=
        (code_eq (by omega) same).trans code
      rw [if_neg (not_not.mpr other), sessionInfoAt_eq same]

/-! ## What the chunks leave in the buffer -/

/-- Chunks that are all written to the beginning of the buffer. -/
def overlay (memory : Nat → Byte) (chunks : List (List Byte)) : Nat → Byte :=
  chunks.foldl (fun memory plain => write memory 0 plain) memory

/-- The buffer when the size of the header has first been received. -/
def headerMemory : (Nat → Byte) → Nat → List (List Byte) → Nat → Byte
  | memory, _, [] => memory
  | memory, received, plain :: rest =>
      if headerSize ≤ received + plain.length then write memory 0 plain
      else headerMemory (write memory 0 plain) (received + plain.length) rest

/-- The chunks of a response go through the loop one after another. -/
theorem receiveLoop_receiveSteps
    (chunks : List (List Byte)) (closeNotify : Bool) (receiving : Receiving) :
    receiveLoop operations receiving (receiveSteps chunks closeNotify) =
      some (chunks.foldl (receiveChunk operations) receiving) := by
  induction chunks generalizing receiving with
  | nil => rfl
  | cons plain rest inductionHypothesis =>
      rw [receiveSteps, receiveLoop, List.foldl_cons, ← inductionHypothesis]
      cases rest with
      | nil =>
          simp only [receiveSteps, receiveLoop, ite_self]
      | cons second others => simp

/-- Writing nothing changes nothing. -/
theorem write_nil (memory : Nat → Byte) : write memory 0 [] = memory := by
  funext position
  simp [write]

/-- The loop has received less than a header. -/
structure BeforeHeader
    (memory : Nat → Byte) (count : Nat) (receiving : Receiving) : Prop where
  contents : receiving.recvBuffer.serializeBuffer = memory
  received : receiving.totalPlainReceived = count
  iRead : receiving.recvBuffer.iRead = 0
  payloadLength : receiving.payloadLength = 0
  incomplete : receiving.payloadComplete = false

/-- The loop has read a payload length, and knows whether the payload is
complete. -/
structure AfterHeader
    (announced : Nat) (memory : Nat → Byte) (count : Nat)
    (receiving : Receiving) : Prop where
  contents : receiving.recvBuffer.serializeBuffer = memory
  received : receiving.totalPlainReceived = count
  header : headerSize ≤ count
  payloadLength : announced ≠ 0 → receiving.payloadLength = announced
  complete :
    receiving.payloadComplete = decide (announced + headerSize ≤ count)

/-- A chunk is written over the beginning of the buffer. -/
theorem writeChunk_eq
    (copies : operations.Copies capacity)
    (receiving : Receiving) {plain : List Byte}
    (fits : plain.length ≤ capacity) :
    ∃ iWrite, writeChunk operations receiving plain =
      { receiving with
        recvBuffer :=
          { receiving.recvBuffer with
            serializeBuffer :=
              write receiving.recvBuffer.serializeBuffer 0 plain
            iWrite := iWrite }
        totalPlainReceived :=
          receiving.totalPlainReceived + plain.length } := by
  unfold writeChunk
  split
  · refine ⟨0 + plain.length, ?_⟩
    rw [copies.writes _ _ (by simpa using fits)]
  · next empty =>
      obtain rfl : plain = [] := by simpa using empty
      exact ⟨receiving.recvBuffer.iWrite, by rw [write_nil]; rfl⟩

/-- A chunk with which less than a header has been received. -/
theorem BeforeHeader.receiveChunk
    (copies : operations.Copies capacity)
    {memory : Nat → Byte} {count : Nat} {receiving : Receiving}
    {plain : List Byte}
    (before : BeforeHeader memory count receiving)
    (fits : plain.length ≤ capacity)
    (short : count + plain.length < headerSize) :
    BeforeHeader (write memory 0 plain) (count + plain.length)
      (receiveChunk operations receiving plain) := by
  obtain ⟨iWrite, written⟩ := writeChunk_eq copies receiving fits
  simp only [SessionInfoStream.receiveChunk, written, before.received, if_pos short]
  exact
    { contents := by rw [before.contents]
      received := rfl
      iRead := before.iRead
      payloadLength := before.payloadLength
      incomplete := before.incomplete }

/-- The chunk with which a header has been received. -/
theorem BeforeHeader.receiveHeader
    (copies : operations.Copies capacity)
    {memory : Nat → Byte} {count : Nat} {receiving : Receiving}
    {plain : List Byte}
    (before : BeforeHeader memory count receiving)
    (fits : plain.length ≤ capacity)
    (enough : headerSize ≤ count + plain.length) :
    AfterHeader (payloadLengthAt (write memory 0 plain))
      (write memory 0 plain) (count + plain.length)
      (SessionInfoStream.receiveChunk operations receiving plain) := by
  obtain ⟨iWrite, written⟩ := writeChunk_eq copies receiving fits
  simp only [SessionInfoStream.receiveChunk, written, before.received,
    if_neg (Nat.not_lt.mpr enough), readHeader, before.payloadLength,
    if_true, copies.reads, testComplete, before.iRead, before.contents,
    before.incomplete]
  exact
    { contents := rfl
      received := rfl
      header := enough
      payloadLength := fun _ => rfl
      complete := by
        rw [Bool.false_or]
        rfl }

/-- A chunk behind the header. -/
theorem AfterHeader.receiveChunk
    (copies : operations.Copies capacity)
    {announced : Nat} {memory : Nat → Byte} {count : Nat}
    {receiving : Receiving} {plain : List Byte}
    (after : AfterHeader announced memory count receiving)
    (fits : plain.length ≤ capacity) :
    AfterHeader announced (write memory 0 plain) (count + plain.length)
      (SessionInfoStream.receiveChunk operations receiving plain) := by
  obtain ⟨iWrite, written⟩ := writeChunk_eq copies receiving fits
  have header := after.header
  have enough : ¬ count + plain.length < headerSize := by omega
  simp only [SessionInfoStream.receiveChunk, written, after.received,
    if_neg enough, readHeader]
  by_cases nothing : receiving.payloadLength = 0
  · have zero : announced = 0 := by
      by_contra positive
      exact positive ((after.payloadLength positive).symm.trans nothing)
    have complete : receiving.payloadComplete = true := by
      rw [after.complete, zero, Nat.zero_add]
      exact decide_eq_true header
    simp only [if_pos nothing, copies.reads, testComplete, complete,
      Bool.true_or, after.contents]
    exact
      { contents := rfl
        received := rfl
        header := by omega
        payloadLength := fun positive => absurd zero positive
        complete := by
          rw [zero, Nat.zero_add]
          exact (decide_eq_true (by omega)).symm }
  · simp only [if_neg nothing, testComplete, after.complete, after.contents]
    exact
      { contents := rfl
        received := rfl
        header := by omega
        payloadLength := after.payloadLength
        complete := by
          by_cases zero : announced = 0
          · simp [zero, header, show headerSize ≤ count + plain.length by omega]
          · simp only [after.payloadLength zero]
            by_cases early : announced + headerSize ≤ count
            · simp [early,
                show announced + headerSize ≤ count + plain.length by omega]
            · simp [early] }

/-- The chunks that are received behind the header. -/
theorem AfterHeader.receiveChunks
    (copies : operations.Copies capacity)
    {announced : Nat} {memory : Nat → Byte} {count : Nat}
    {receiving : Receiving} {chunks : List (List Byte)}
    (after : AfterHeader announced memory count receiving)
    (fits : ∀ plain ∈ chunks, plain.length ≤ capacity) :
    AfterHeader announced (overlay memory chunks)
      (count + chunks.flatten.length)
      (chunks.foldl (SessionInfoStream.receiveChunk operations) receiving) := by
  induction chunks generalizing memory count receiving with
  | nil => exact after
  | cons plain rest inductionHypothesis =>
      have ⟨first, others⟩ := List.forall_mem_cons.mp fits
      have step := inductionHypothesis (after.receiveChunk copies first) others
      rw [List.flatten_cons, List.length_append, ← Nat.add_assoc]
      exact step

/-- What `TrySetTargetSessionInfo` makes of the locals when the loop has ended. -/
def finish (operations : Operations) (received : Receiving) : Outcome :=
  if received.payloadComplete then
    setTargetSessionInfo operations
      { received.recvBuffer with iRead := headerSize }
  else .noResponse

/-- The outcome of a response that has been received in chunks. -/
def outcomeOf
    (memory : Nat → Byte) (count : Nat) (chunks : List (List Byte)) : Outcome :=
  if headerSize ≤ count + chunks.flatten.length ∧
      payloadLengthAt (headerMemory memory count chunks) + headerSize ≤
        count + chunks.flatten.length then
    outcomeAt (overlay memory chunks)
  else .noResponse

/-- The outcome when the header has been received. -/
theorem AfterHeader.finish
    (copies : operations.Copies capacity)
    {announced : Nat} {memory : Nat → Byte} {count : Nat}
    {receiving : Receiving}
    (after : AfterHeader announced memory count receiving) :
    finish operations receiving =
      if announced + headerSize ≤ count then outcomeAt memory
      else .noResponse := by
  rw [SessionInfoStream.finish, setTargetSessionInfo_eq copies, after.complete,
    after.contents]
  simp only [decide_eq_true_eq]

/-- The outcome of the chunks that are left when the header has not been
received. -/
theorem BeforeHeader.finish
    (copies : operations.Copies capacity)
    {memory : Nat → Byte} {count : Nat} {receiving : Receiving}
    {chunks : List (List Byte)}
    (before : BeforeHeader memory count receiving)
    (short : count < headerSize)
    (fits : ∀ plain ∈ chunks, plain.length ≤ capacity) :
    finish operations
        (chunks.foldl (SessionInfoStream.receiveChunk operations) receiving) =
      outcomeOf memory count chunks := by
  induction chunks generalizing memory count receiving with
  | nil =>
      have missing : ¬ headerSize ≤ count := Nat.not_le.mpr short
      rw [List.foldl_nil, SessionInfoStream.finish, before.incomplete]
      exact (if_neg fun both => missing both.1).symm
  | cons plain rest inductionHypothesis =>
      have ⟨first, others⟩ := List.forall_mem_cons.mp fits
      have total :
          count + (plain :: rest).flatten.length =
            count + plain.length + rest.flatten.length := by
        rw [List.flatten_cons, List.length_append, Nat.add_assoc]
      rw [List.foldl_cons, outcomeOf, total, headerMemory]
      by_cases enough : headerSize ≤ count + plain.length
      · have after :=
          (before.receiveHeader copies first enough).receiveChunks copies others
        have header :
            headerSize ≤ count + plain.length + rest.flatten.length := by
          omega
        rw [after.finish copies, if_pos enough]
        simp only [header, true_and]
        rfl
      · have later := before.receiveChunk copies first (Nat.lt_of_not_le enough)
        rw [inductionHypothesis later (Nat.lt_of_not_le enough) others,
          if_neg enough]
        rfl

/-- The outcome of a response that is received in chunks. -/
theorem trySetTargetSessionInfo_eq
    (copies : operations.Copies capacity)
    (recvBuffer : NetBuffer)
    {chunks : List (List Byte)}
    (fits : chunks.flatten.length ≤ capacity)
    (closeNotify : Bool) :
    trySetTargetSessionInfo operations recvBuffer
        (receiveSteps chunks closeNotify) =
      outcomeOf recvBuffer.serializeBuffer 0 chunks := by
  have small (plain : List Byte) (member : plain ∈ chunks) :
      plain.length ≤ capacity :=
    (List.sublist_flatten_of_mem member).length_le.trans fits
  have before :
      BeforeHeader recvBuffer.serializeBuffer 0
        ⟨{ recvBuffer with iRead := 0 }, 0, 0, false⟩ :=
    ⟨rfl, rfl, rfl, rfl, rfl⟩
  rw [trySetTargetSessionInfo, receiveLoop_receiveSteps]
  exact before.finish copies (by decide) small

/-! ## The condition -/

/-- The buffer after a response that arrives as one chunk. -/
def wholeMemory
    (memory : Nat → Byte) (chunks : List (List Byte)) : Nat → Byte :=
  write memory 0 chunks.flatten

/-- The chunks say as much about the completeness of the payload as the response
does, and leave the bytes that are read as the response has them. -/
structure Undamaged
    (memory : Nat → Byte) (chunks : List (List Byte)) : Prop where
  length :
    headerSize ≤ chunks.flatten.length →
      (payloadLengthAt (headerMemory memory 0 chunks) + headerSize ≤
          chunks.flatten.length ↔
        payloadLengthAt (wholeMemory memory chunks) + headerSize ≤
          chunks.flatten.length)
  fields :
    headerSize ≤ chunks.flatten.length →
      payloadLengthAt (wholeMemory memory chunks) + headerSize ≤
          chunks.flatten.length →
        span (overlay memory chunks) headerSize
            (readSize (wholeMemory memory chunks)) =
          span (wholeMemory memory chunks) headerSize
            (readSize (wholeMemory memory chunks))

/-- The outcome of a response that arrives as one chunk. -/
theorem outcomeOf_singleton
    (memory : Nat → Byte) (chunks : List (List Byte)) :
    outcomeOf memory 0 [chunks.flatten] =
      if headerSize ≤ chunks.flatten.length ∧
          payloadLengthAt (wholeMemory memory chunks) + headerSize ≤
            chunks.flatten.length then
        outcomeAt (wholeMemory memory chunks)
      else .noResponse := by
  have header :
      headerMemory memory 0 [chunks.flatten] = wholeMemory memory chunks := by
    simp only [headerMemory, ite_self]
    rfl
  rw [outcomeOf, header, List.flatten_cons, List.flatten_nil, List.append_nil,
    Nat.zero_add]
  rfl

/-- An outcome that stands in the buffer is a response. -/
theorem outcomeAt_ne_noResponse (memory : Nat → Byte) :
    outcomeAt memory ≠ .noResponse := by
  unfold outcomeAt
  split <;> nofun

/-- The chunks have the outcome of the response if and only if it is undamaged. -/
theorem outcomeOf_eq_iff
    (memory : Nat → Byte) (chunks : List (List Byte)) :
    outcomeOf memory 0 chunks = outcomeOf memory 0 [chunks.flatten] ↔
      Undamaged memory chunks := by
  rw [outcomeOf_singleton, outcomeOf, Nat.zero_add]
  by_cases header : headerSize ≤ chunks.flatten.length
  · simp only [header, true_and]
    by_cases complete :
        payloadLengthAt (wholeMemory memory chunks) + headerSize ≤
          chunks.flatten.length
    · rw [if_pos complete]
      constructor
      · intro same
        by_cases found :
            payloadLengthAt (headerMemory memory 0 chunks) + headerSize ≤
              chunks.flatten.length
        · rw [if_pos found] at same
          exact
            { length := fun _ => iff_of_true found complete
              fields := fun _ _ => outcomeAt_eq_iff.mp same }
        · rw [if_neg found] at same
          exact absurd same.symm (outcomeAt_ne_noResponse _)
      · intro undamaged
        rw [if_pos ((undamaged.length header).mpr complete)]
        exact outcomeAt_eq_iff.mpr (undamaged.fields header complete)
    · rw [if_neg complete]
      constructor
      · intro same
        by_cases found :
            payloadLengthAt (headerMemory memory 0 chunks) + headerSize ≤
              chunks.flatten.length
        · rw [if_pos found] at same
          exact absurd same (outcomeAt_ne_noResponse _)
        · exact
            { length := fun _ => iff_of_false found complete
              fields := fun _ whole => absurd whole complete }
      · intro undamaged
        rw [if_neg (mt (undamaged.length header).mp complete)]
  · simp only [header, false_and, if_false, true_iff]
    exact
      { length := fun enough => absurd enough header
        fields := fun enough => absurd enough header }

/-! ## What the server wrote -/

/-- The sizes of a session info that a server can write. -/
structure SessionInfo.WellFormed (info : SessionInfo) : Prop where
  serverIp : info.serverIp.length + 39 < 2 ^ 16
  sessionKey : info.sessionKey.length = sessionKeySize
  sessionSalt : info.sessionSalt.length = sessionSaltSize

/-- What the client makes of the result code and the session info. -/
def expectedOutcome (connectResultCode : Byte) (info : SessionInfo) : Outcome :=
  if connectResultCode ≠ 0 then .refused connectResultCode
  else .established info

/-- The header of a response, and what the server has written behind it. -/
def responseOf
    (headerCode : Byte) (reserved : ReservedBytes) (connectResultCode : Byte)
    (content : List Byte) : List Byte :=
  [headerCode] ++ wordBytes 2 (BitVec.ofNat 16 (content.length + 1)) ++
    [reserved.first, reserved.second, connectResultCode] ++ content

theorem reserveSession_eq
    (headerCode : Byte) (reserved : ReservedBytes) (connectResultCode : Byte)
    (info : SessionInfo) :
    reserveSession headerCode reserved connectResultCode info =
      responseOf headerCode reserved connectResultCode
        (if connectResultCode = 0 then setSessionInfoToBuffer info else []) := by
  rw [reserveSession]
  generalize (if connectResultCode = 0 then setSessionInfoToBuffer info
    else []) = content
  have size :
      ([0, 0, 0, reserved.first, reserved.second, connectResultCode] ++
        content).length - headerSize + 0 = content.length + 1 := by
    simp [headerSize]
  rw [setHeader, size]
  simp [responseOf, wordBytes, List.range_succ]

/-- A word that stands in a buffer. -/
theorem littleEndian_wordBytes_toNat (word : BitVec 16) :
    (littleEndian (wordBytes 2 word)).toNat = word.toNat := by
  rw [littleEndian_wordBytes word (by decide) (by decide), BitVec.toNat_setWidth,
    Nat.mod_eq_of_lt (word.isLt.trans (by decide))]

/-- A word that is read from the bytes that were written. -/
theorem readWord_wordBytes (word : BitVec 16) :
    readWord (wordBytes 2 word) = word := by
  refine BitVec.eq_of_toNat_eq ?_
  rw [readWord, BitVec.toNat_setWidth, littleEndian_wordBytes_toNat,
    Nat.mod_eq_of_lt word.isLt]

section Written

variable (memory : Nat → Byte) (headerCode : Byte) (reserved : ReservedBytes)
variable (connectResultCode : Byte)

/-- The payload length of a response. -/
theorem payloadLengthAt_responseOf
    {content : List Byte} (small : content.length + 1 < 2 ^ 16) :
    payloadLengthAt
        (write memory 0
          (responseOf headerCode reserved connectResultCode content)) =
      content.length + 1 := by
  have word := span_write_middle memory [headerCode]
    (wordBytes 2 (BitVec.ofNat 16 (content.length + 1)))
    ([reserved.first, reserved.second, connectResultCode] ++ content)
  rw [← List.append_assoc, PacketCrypto.wordBytes_length,
    List.length_singleton] at word
  rw [payloadLengthAt, responseOf, word, littleEndian_wordBytes_toNat,
    BitVec.toNat_ofNat, Nat.mod_eq_of_lt small]

/-- The result code of a response. -/
theorem write_responseOf_headerSize (content : List Byte) :
    write memory 0 (responseOf headerCode reserved connectResultCode content)
        headerSize =
      connectResultCode :=
  rfl

/-- A part of what has been written behind the header. -/
theorem span_responseOf (first middle last : List Byte) :
    span
        (write memory 0
          (responseOf headerCode reserved connectResultCode
            (first ++ middle ++ last)))
        (6 + first.length) middle.length =
      middle := by
  generalize sizeDef : BitVec.ofNat 16 ((first ++ middle ++ last).length + 1) =
    size
  have part := span_write_middle memory
    ([headerCode] ++ wordBytes 2 size ++
      [reserved.first, reserved.second, connectResultCode] ++ first)
    middle last
  have start :
      ([headerCode] ++ wordBytes 2 size ++
        [reserved.first, reserved.second, connectResultCode] ++
          first).length = 6 + first.length := by
    simp
    omega
  rw [start] at part
  rw [responseOf, sizeDef, ← List.append_assoc, ← List.append_assoc]
  exact part

/-- The session info is read as it was written. -/
theorem sessionInfoAt_responseOf
    {info : SessionInfo} (wellFormed : info.WellFormed) :
    sessionInfoAt
        (write memory 0
          (responseOf headerCode reserved connectResultCode
            (setSessionInfoToBuffer info))) =
      info := by
  have part {offset count : Nat} (first middle last : List Byte)
      (content : setSessionInfoToBuffer info = first ++ middle ++ last)
      (offsetEq : offset = 6 + first.length)
      (countEq : count = middle.length) :
      span
          (write memory 0
            (responseOf headerCode reserved connectResultCode
              (setSessionInfoToBuffer info))) offset count = middle := by
    rw [content, offsetEq, countEq]
    exact span_responseOf memory headerCode reserved connectResultCode first
      middle last
  have small := wellFormed.serverIp
  let sizeBytes := wordBytes 2 (BitVec.ofNat 16 info.serverIp.length)
  let port := wordBytes 2 info.port
  let sessionId := wordBytes 2 info.sessionId
  have size :
      serverIpSize
          (write memory 0
            (responseOf headerCode reserved connectResultCode
              (setSessionInfoToBuffer info))) =
        info.serverIp.length := by
    rw [serverIpSize, part [] sizeBytes
      (info.serverIp ++ port ++ sessionId ++ info.sessionKey ++
        info.sessionSalt)
      (by simp [setSessionInfoToBuffer, sizeBytes, port, sessionId])
      (by simp) (by simp [sizeBytes]),
      littleEndian_wordBytes_toNat, BitVec.toNat_ofNat,
      Nat.mod_eq_of_lt (by omega)]
  rw [sessionInfoAt, size,
    part sizeBytes info.serverIp
      (port ++ sessionId ++ info.sessionKey ++ info.sessionSalt)
      (by simp [setSessionInfoToBuffer, sizeBytes, port, sessionId])
      (by simp [sizeBytes]) rfl,
    part (sizeBytes ++ info.serverIp) port
      (sessionId ++ info.sessionKey ++ info.sessionSalt)
      (by simp [setSessionInfoToBuffer, sizeBytes, port, sessionId])
      (by simp [sizeBytes]; omega) (by simp [port]),
    part (sizeBytes ++ info.serverIp ++ port) sessionId
      (info.sessionKey ++ info.sessionSalt)
      (by simp [setSessionInfoToBuffer, sizeBytes, port, sessionId])
      (by simp [sizeBytes, port]; omega) (by simp [sessionId]),
    part (sizeBytes ++ info.serverIp ++ port ++ sessionId) info.sessionKey
      info.sessionSalt
      (by simp [setSessionInfoToBuffer, sizeBytes, port, sessionId])
      (by simp [sizeBytes, port, sessionId]; omega)
      wellFormed.sessionKey.symm,
    part
      (sizeBytes ++ info.serverIp ++ port ++ sessionId ++ info.sessionKey)
      info.sessionSalt []
      (by simp [setSessionInfoToBuffer, sizeBytes, port, sessionId])
      (by simp [sizeBytes, port, sessionId, wellFormed.sessionKey]; omega)
      wellFormed.sessionSalt.symm,
    readWord_wordBytes, readWord_wordBytes]

end Written

/-- A response of the server that arrives as one chunk has the outcome that the
server wrote. -/
theorem outcomeOf_reserveSession
    (memory : Nat → Byte) (headerCode : Byte) (reserved : ReservedBytes)
    (connectResultCode : Byte)
    {info : SessionInfo} (wellFormed : info.WellFormed)
    {chunks : List (List Byte)}
    (response :
      chunks.flatten =
        reserveSession headerCode reserved connectResultCode info) :
    outcomeOf memory 0 [chunks.flatten] =
      expectedOutcome connectResultCode info := by
  have contentSize : (setSessionInfoToBuffer info).length + 1 < 2 ^ 16 := by
    have small := wellFormed.serverIp
    simp only [setSessionInfoToBuffer, List.length_append,
      PacketCrypto.wordBytes_length, wellFormed.sessionKey,
      wellFormed.sessionSalt, sessionKeySize, sessionSaltSize]
    omega
  rw [outcomeOf_singleton, wholeMemory, response, reserveSession_eq]
  generalize contentDef :
    (if connectResultCode = 0 then setSessionInfoToBuffer info else []) =
      content
  have small : content.length + 1 < 2 ^ 16 := by
    rw [← contentDef]
    split
    · exact contentSize
    · decide
  have received :
      (responseOf headerCode reserved connectResultCode content).length =
        content.length + 1 + headerSize := by
    simp [responseOf, headerSize]
    omega
  rw [payloadLengthAt_responseOf _ _ _ _ small, received,
    if_pos ⟨Nat.le_add_left _ _, le_rfl⟩, outcomeAt,
    write_responseOf_headerSize, expectedOutcome]
  by_cases code : connectResultCode = 0
  · rw [if_pos code] at contentDef
    rw [← contentDef, sessionInfoAt_responseOf _ _ _ _ wellFormed]
  · rw [if_pos code, if_pos code]

/-! ## The parse of the client -/

/-- A response that is received in chunks has the outcome that it has as one chunk,
which is what the server wrote if it comes from there. -/
structure ParsedAlike
    (operations : Operations)
    (recvBuffer : NetBuffer) (chunks : List (List Byte)) : Prop where
  same : ∀ closeNotify closeNotifyAtOnce,
    trySetTargetSessionInfo operations recvBuffer
        (receiveSteps chunks closeNotify) =
      trySetTargetSessionInfo operations recvBuffer
        (receiveSteps [chunks.flatten] closeNotifyAtOnce)
  exact : ∀ headerCode reserved connectResultCode info,
    info.WellFormed →
      chunks.flatten =
        reserveSession headerCode reserved connectResultCode info →
      ∀ closeNotify,
        trySetTargetSessionInfo operations recvBuffer
            (receiveSteps chunks closeNotify) =
          expectedOutcome connectResultCode info

/-- A response is parsed alike if and only if its chunks leave it undamaged. -/
theorem parsedAlike_iff_undamaged
    (copies : operations.Copies capacity)
    (recvBuffer : NetBuffer)
    {chunks : List (List Byte)}
    (fits : chunks.flatten.length ≤ capacity) :
    ParsedAlike operations recvBuffer chunks ↔
      Undamaged recvBuffer.serializeBuffer chunks := by
  have inChunks := trySetTargetSessionInfo_eq copies recvBuffer fits
  have fitsAtOnce : [chunks.flatten].flatten.length ≤ capacity := by
    simpa using fits
  have atOnce := trySetTargetSessionInfo_eq copies recvBuffer fitsAtOnce
  rw [← outcomeOf_eq_iff]
  constructor
  · intro alike
    rw [← inChunks false, ← atOnce false]
    exact alike.same false false
  · intro same
    exact
      { same := fun closeNotify closeNotifyAtOnce => by
          rw [inChunks, atOnce, same]
        exact := fun headerCode reserved connectResultCode info wellFormed
            response closeNotify => by
          rw [inChunks, same]
          exact outcomeOf_reserveSession _ _ _ _ wellFormed response }

/-- Operations that copy within any capacity. -/
def copyOperations : Operations where
  writeBuffer buffer bytes :=
    { buffer with
      serializeBuffer := write buffer.serializeBuffer buffer.iWrite bytes
      iWrite := buffer.iWrite + bytes.length }
  readBytes buffer size :=
    ({ buffer with iRead := buffer.iRead + size },
      span buffer.serializeBuffer buffer.iRead size)
  readString buffer :=
    let size :=
      (littleEndian (span buffer.serializeBuffer buffer.iRead 2)).toNat
    ({ buffer with iRead := buffer.iRead + 2 + size },
      span buffer.serializeBuffer (buffer.iRead + 2) size)

theorem copies_copyOperations : copyOperations.Copies 1024 where
  writes _ _ _ := rfl
  reads _ _ := rfl
  readsString _ := rfl

/-- A session at the address `::1`. -/
def localSession : SessionInfo where
  serverIp := [58, 58, 49]
  port := 10001
  sessionId := 7
  sessionKey := List.replicate 16 1
  sessionSalt := List.replicate 16 2

/-- The response for this session. -/
def localResponse : List Byte :=
  reserveSession 0x89 ⟨0, 0⟩ 0 localSession

/-- The response is refused when its first ten bytes arrive in a chunk of their
own. -/
theorem second_chunk_overwrites :
    trySetTargetSessionInfo copyOperations RecvStream.freshBuffer
        (receiveSteps [localResponse] true) =
      .established localSession ∧
    trySetTargetSessionInfo copyOperations RecvStream.freshBuffer
        (receiveSteps [localResponse.take 10, localResponse.drop 10] true) =
      .refused 1 ∧
    ¬ ParsedAlike copyOperations RecvStream.freshBuffer
        [localResponse.take 10, localResponse.drop 10] := by
  have atOnce :
      trySetTargetSessionInfo copyOperations RecvStream.freshBuffer
          (receiveSteps [localResponse] true) =
        .established localSession := by
    decide +kernel
  have inChunks :
      trySetTargetSessionInfo copyOperations RecvStream.freshBuffer
          (receiveSteps [localResponse.take 10, localResponse.drop 10] true) =
        .refused 1 := by
    decide +kernel
  have whole :
      [localResponse.take 10, localResponse.drop 10].flatten =
        localResponse := by
    decide
  refine ⟨atOnce, inChunks, fun alike => ?_⟩
  have same := alike.same true true
  rw [whole, atOnce, inChunks] at same
  nomatch same

/-- The response arrives at once, between chunks without plaintext. -/
theorem parsedAlike_emptyChunks :
    ParsedAlike copyOperations RecvStream.freshBuffer [[], localResponse, []] :=
  (parsedAlike_iff_undamaged copies_copyOperations RecvStream.freshBuffer
    (by decide)).mpr
    { length := fun _ => by decide +kernel
      fields := fun _ _ => by decide +kernel }

end SessionInfoStream
end MultiSocketRudp
