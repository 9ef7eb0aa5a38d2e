import MultiSocketRudp.Client.RecvStream

/-!
# Received bytes and the buffers they are copied to

The server copies a datagram into one buffer, and the client copies the frames of
a datagram into one buffer each.  `Alloc` hands out buffers of the default size.
The server gives the size of its receive slot as the limit of the copy, and the
client compares the payload length with the default size before it copies the
payload behind a header.

`NetBuffer` is not part of the repository.  Its capacity is the documented one,
and of `ReadBuffer` it is used that it copies written bytes as they are asked for.
-/

namespace MultiSocketRudp
namespace ReceivedBytes

open PacketCrypto (packetAnnouncement announcedSize_eq_some)
open RecvStream SelfDelimiting WriteBuffer

/-- `dfDEFAULTSIZE`, the documented capacity of a buffer that has not been
resized. -/
def dfDefaultSize : Nat := 1024

/-- Bytes that are written to a buffer, from an offset on. -/
structure Copy where
  offset : Nat
  size : Nat
  deriving DecidableEq, Repr

/-- The copy stays inside a buffer that has not been resized. -/
def Copy.StaysInside (copy : Copy) : Prop :=
  copy.offset + copy.size ≤ dfDefaultSize

instance (copy : Copy) : Decidable copy.StaysInside :=
  inferInstanceAs (Decidable (_ ≤ _))

/-! ## The server -/

/-- `memcpy_s` to the beginning of a buffer: whether it succeeds, and what it
writes.  Where the limit is too small it clears as many bytes. -/
def memcpyS (limit count : Nat) : Bool × Copy :=
  if count ≤ limit then (true, ⟨0, count⟩) else (false, ⟨0, limit⟩)

/-- What `RecvIOCompleted` finds. -/
structure Circumstances where
  /-- The context and its session are there. -/
  isContextValid : Bool
  shouldDropReceivedDatagram : Bool
  /-- What `Alloc` hands out. -/
  alloc : Option NetBuffer
  enqueueContextResult : Bool
  doRecv : Bool

/-- What `RecvIOCompleted` has done. -/
structure Receipt where
  copies : List Copy
  /-- The buffer that it passes to `EnqueueContextResult`. -/
  buffer : Option NetBuffer
  result : Bool

/-- `RUDPIOHandler::RecvIOCompleted`, of which the datagram has been received. -/
def recvIoCompleted
    (circumstances : Circumstances) (datagram : List Byte) : Receipt :=
  if ¬ circumstances.isContextValid then
    { copies := [], buffer := none, result := false }
  else if circumstances.shouldDropReceivedDatagram then
    { copies := [], buffer := none, result := circumstances.doRecv }
  else
    match circumstances.alloc with
    | none => { copies := [], buffer := none, result := false }
    | some buffer =>
        let transferred := datagram.length
        match memcpyS recvBufferSize transferred with
        | (false, copy) =>
            { copies := [copy], buffer := none, result := false }
        | (true, copy) =>
            { copies := [copy]
              buffer := some
                { buffer with
                  serializeBuffer := write buffer.serializeBuffer 0 datagram
                  iWrite := transferred % 2 ^ 16 }
              result :=
                circumstances.enqueueContextResult && circumstances.doRecv }

/-! ## The client -/

/-- One round of the loop of `OnRecvStream`. -/
structure Round where
  headerCopy : Copy
  /-- The copy of the payload, and the packet for `ProcessRecvPacket`. -/
  accepted : Option (Copy × NetBuffer)

/-- What one round copies into its buffer. -/
def Round.copies (round : Round) : List Copy :=
  round.headerCopy :: (round.accepted.map Prod.fst).toList

section OnRecvStream

variable (readBuffer :
  NetBuffer → (Nat → Byte) → Nat → Nat → NetBuffer × (Nat → Byte))
-- `ReadBuffer`: how many bytes it copies when this many are asked for.
variable (bytesCopied : NetBuffer → Nat → Nat)
variable (alloc : Int → NetBuffer)

/-- `ReadBuffer` copies as many bytes as it is asked for, when they have been
written. -/
def CopiesAsked : Prop :=
  ∀ buffer size, buffer.iRead + size ≤ buffer.iWrite →
    bytesCopied buffer size = size

/-- `RUDPClientCore::OnRecvStream`, round by round. -/
def rounds (recvBuffer : NetBuffer) (recvSize : Int) : List Round :=
  if (headerSize : Int) < recvSize then
    let headerCopy : Copy := ⟨0, bytesCopied recvBuffer headerSize⟩
    let (recvBuffer, header) :=
      readBuffer recvBuffer (alloc recvSize).serializeBuffer 0 headerSize
    let recvPacketBuffer : NetBuffer :=
      { serializeBuffer := header, iRead := 0, iWrite := (alloc recvSize).iWrite }
    let payloadLength := recvPacketBuffer.getPayloadLength
    if payloadLength = 0 ∨ dfDefaultSize < payloadLength ∨
        recvSize < payloadLength then [⟨headerCopy, none⟩]
    else
      let packetSize := payloadLength + headerSize
      let payloadCopy : Copy :=
        ⟨recvPacketBuffer.iWrite, bytesCopied recvBuffer payloadLength⟩
      let (recvBuffer, packet) :=
        readBuffer recvBuffer header recvPacketBuffer.iWrite payloadLength
      let recvPacketBuffer : NetBuffer :=
        { serializeBuffer := packet
          iRead := headerSize
          iWrite := packetSize % 2 ^ 16 }
      ⟨headerCopy, some (payloadCopy, recvPacketBuffer)⟩ ::
        rounds recvBuffer (recvSize - packetSize)
  else []
termination_by recvSize.toNat
decreasing_by
  have positive : 0 < headerSize := by decide
  omega

/-- The rounds process the packets of `OnRecvStream`. -/
theorem rounds_packets (recvBuffer : NetBuffer) (recvSize : Int) :
    (rounds readBuffer bytesCopied alloc recvBuffer recvSize).filterMap
        (fun round => round.accepted.map Prod.snd) =
      onRecvStream readBuffer alloc dfDefaultSize recvBuffer recvSize := by
  induction size : recvSize.toNat using Nat.strong_induction_on
    generalizing recvBuffer recvSize with
  | _ size inductionHypothesis =>
      subst size
      rw [rounds, onRecvStream]
      dsimp only
      split
      case isTrue long =>
        split
        case isTrue => rfl
        case isFalse =>
          rw [List.filterMap_cons]
          dsimp only [Option.map_some]
          rw [inductionHypothesis _ ?_ _ _ rfl]
          have positive : 0 < headerSize := by decide
          omega
      case isFalse => rfl

variable {readBuffer bytesCopied alloc}

/-- What the rounds copy stays inside the buffers. -/
def CopiesInside (rounds : List Round) : Prop :=
  ∀ round ∈ rounds, ∀ copy ∈ round.copies, copy.StaysInside

/-- The header fits. -/
theorem headerCopy_staysInside : (⟨0, headerSize⟩ : Copy).StaysInside := by
  decide

/-- The copy of an accepted payload decides, and what follows it. -/
theorem copiesInside_cons
    (payloadCopy : Copy) (packet : NetBuffer) (rounds : List Round) :
    CopiesInside (⟨⟨0, headerSize⟩, some (payloadCopy, packet)⟩ :: rounds) ↔
      payloadCopy.StaysInside ∧ CopiesInside rounds := by
  simp [CopiesInside, Round.copies, headerCopy_staysInside]

/-- Nothing but the header is copied of a rejected packet. -/
theorem copiesInside_rejected :
    CopiesInside [⟨⟨0, headerSize⟩, none⟩] := by
  simp [CopiesInside, Round.copies, headerCopy_staysInside]

/-- Where not more than a header is left nothing is copied. -/
theorem rounds_of_le
    (buffer : NetBuffer)
    {recvSize : Int}
    (short : recvSize ≤ headerSize) :
    rounds readBuffer bytesCopied alloc buffer recvSize = [] := by
  rw [rounds, if_neg (Int.not_lt.mpr short)]

/-- One round of the loop. -/
theorem rounds_of_lt
    (copies : CopiesWritten readBuffer)
    (asked : CopiesAsked bytesCopied)
    (behind : WritesBehindHeader alloc)
    (buffer : NetBuffer)
    (long : headerSize < buffer.unread.length) :
    let payloadLength := PacketCrypto.getPayloadLength buffer.unread
    let behindHeader := { buffer with iRead := buffer.iRead + headerSize }
    let read := readBuffer behindHeader
      (withHeader buffer (alloc buffer.unread.length)) headerSize payloadLength
    rounds readBuffer bytesCopied alloc buffer buffer.unread.length =
      if payloadLength = 0 ∨ dfDefaultSize < payloadLength ∨
          buffer.unread.length < payloadLength then
        [⟨⟨0, headerSize⟩, none⟩]
      else
        ⟨⟨0, headerSize⟩,
          some
            (⟨headerSize, bytesCopied behindHeader payloadLength⟩,
              { serializeBuffer := read.2
                iRead := headerSize
                iWrite := (payloadLength + headerSize) % 2 ^ 16 })⟩ ::
          rounds readBuffer bytesCopied alloc read.1
            (buffer.unread.length - (payloadLength + headerSize : Nat)) := by
  have written := long
  rw [unread_length] at written
  have header := copies buffer (alloc buffer.unread.length).serializeBuffer 0
    headerSize (by omega)
  have copied := asked buffer headerSize (by omega)
  have room := behind buffer.unread.length
  rw [rounds, if_pos (by exact_mod_cast long)]
  simp only [header, room, copied, Nat.cast_lt]
  have length := getPayloadLength_withHeader buffer
    (alloc buffer.unread.length) headerSize long.le
  simp only [withHeader] at length ⊢
  rw [length]

/-- The buffer when the header behind the complete frames has been read. -/
def behindFrames (buffer : NetBuffer) : NetBuffer :=
  { buffer with
    iRead := buffer.iWrite -
      ((packetAnnouncement dfDefaultSize).rest buffer.unread).length +
      headerSize }

/-- What is copied for a header that announces more than what follows it. -/
def overrunCopy
    (bytesCopied : NetBuffer → Nat → Nat) (buffer : NetBuffer) : Copy :=
  ⟨headerSize,
    bytesCopied (behindFrames buffer)
      (PacketCrypto.getPayloadLength
        ((packetAnnouncement dfDefaultSize).rest buffer.unread))⟩

/-- The frames fit the buffers that they are copied to. -/
def FramesFit
    (bytesCopied : NetBuffer → Nat → Nat) (buffer : NetBuffer) : Prop :=
  (∀ frame ∈ (packetAnnouncement dfDefaultSize).cut buffer.unread,
    frame.length ≤ dfDefaultSize) ∧
  (Overruns dfDefaultSize buffer.unread →
    (overrunCopy bytesCopied buffer).StaysInside)

/-- Where no frame can be cut off the copy for the first header decides. -/
theorem framesFit_iff
    (buffer : NetBuffer)
    (nothing : (packetAnnouncement dfDefaultSize).cut buffer.unread = []) :
    FramesFit bytesCopied buffer ↔
      (Overruns dfDefaultSize buffer.unread →
        (⟨headerSize,
          bytesCopied { buffer with iRead := buffer.iRead + headerSize }
            (PacketCrypto.getPayloadLength buffer.unread)⟩ :
              Copy).StaysInside) := by
  rw [FramesFit, nothing]
  refine ⟨fun fits overruns => ?_, fun fits => ⟨nofun, fun overruns => ?_⟩⟩
  all_goals
    have long := ((overruns_iff nothing).mp overruns).1
    have start : buffer.iWrite - buffer.unread.length = buffer.iRead := by
      rw [unread_length] at long ⊢
      omega
  · have copied := fits.2 overruns
    rwa [overrunCopy, behindFrames, Announcement.rest_eq_self nothing, start]
      at copied
  · rw [overrunCopy, behindFrames, Announcement.rest_eq_self nothing, start]
    exact fits overruns

/-- The first frame fits, and so does what follows it. -/
theorem framesFit_inside
    (buffer : NetBuffer)
    {packetSize : Nat}
    (inside : packetSize ≤ buffer.unread.length)
    (isFrame : (packetAnnouncement dfDefaultSize).IsFrame
      (span buffer.serializeBuffer buffer.iRead packetSize)) :
    FramesFit bytesCopied buffer ↔
      packetSize ≤ dfDefaultSize ∧
        FramesFit bytesCopied
          { buffer with iRead := buffer.iRead + packetSize } := by
  have parts := unread_eq_append buffer inside
  have rest := Announcement.rest_append isFrame
    { buffer with iRead := buffer.iRead + packetSize }.unread
  rw [← parts] at rest
  have same : overrunCopy bytesCopied buffer =
      overrunCopy bytesCopied
        { buffer with iRead := buffer.iRead + packetSize } := by
    rw [overrunCopy, overrunCopy, behindFrames, behindFrames, rest]
  rw [FramesFit, FramesFit, same, parts, overruns_append isFrame,
    Announcement.cut_append isFrame, List.forall_mem_cons, span_length,
    and_assoc]

/-- The client copies inside its buffers if and only if the frames fit. -/
theorem copiesInside_rounds
    (copies : CopiesWritten readBuffer)
    (asked : CopiesAsked bytesCopied)
    (behind : WritesBehindHeader alloc)
    (buffer : NetBuffer) :
    CopiesInside
        (rounds readBuffer bytesCopied alloc buffer buffer.unread.length) ↔
      FramesFit bytesCopied buffer := by
  induction size : buffer.unread.length using Nat.strong_induction_on
    generalizing buffer with
  | _ size inductionHypothesis =>
      subst size
      have nothing := cut_eq_nil_of_lt dfDefaultSize buffer.unread
      by_cases accepts : Accepts dfDefaultSize buffer
      · obtain ⟨packetSize, size⟩ : ∃ packetSize,
            packetSize =
              headerSize + PacketCrypto.getPayloadLength buffer.unread :=
          ⟨_, rfl⟩
        have round := rounds_of_lt copies asked behind buffer accepts.1
        dsimp only at round
        obtain ⟨long, positive, valid, within⟩ := accepts
        rw [if_neg (by omega)] at round
        rw [round, copiesInside_cons]
        by_cases inside : packetSize ≤ buffer.unread.length
        · have isFrame := isFrame_span buffer positive valid (size ▸ inside)
          rw [← size] at isFrame
          have shorter := congrArg List.length (unread_eq_append buffer inside)
          rw [List.length_append, span_length] at shorter
          have written := inside
          rw [unread_length, size] at written
          have payload := asked { buffer with iRead := buffer.iRead + headerSize }
            (PacketCrypto.getPayloadLength buffer.unread) (by dsimp only; omega)
          have read := copies { buffer with iRead := buffer.iRead + headerSize }
            (withHeader buffer (alloc buffer.unread.length)) headerSize
            (PacketCrypto.getPayloadLength buffer.unread) (by dsimp only; omega)
          have left : (buffer.unread.length : Int) -
              (PacketCrypto.getPayloadLength buffer.unread + headerSize : Nat) =
              { buffer with iRead := buffer.iRead + packetSize }.unread.length :=
            by omega
          have nonempty : 0 < packetSize := by omega
          have later := inductionHypothesis _ (by omega)
            { buffer with iRead := buffer.iRead + packetSize } rfl
          rw [payload, read, left, framesFit_inside buffer inside isFrame,
            ← later, Copy.StaysInside, ← size]
          simp only [Nat.add_assoc, ← size]
        · have none_cut := nothing (by omega)
          rw [framesFit_iff buffer none_cut, overruns_iff none_cut,
            rounds_of_le _ (by omega)]
          constructor
          · intro fits _
            exact fits.1
          · intro fits
            exact ⟨fits (by omega), nofun⟩
      · have none_cut := nothing (by unfold Accepts at accepts; omega)
        rw [framesFit_iff buffer none_cut, overruns_iff none_cut]
        refine iff_of_true ?_ fun overruns => absurd
          ⟨overruns.1, overruns.2.1, overruns.2.2.1, overruns.2.2.2.2⟩ accepts
        by_cases long : headerSize < buffer.unread.length
        · have round := rounds_of_lt copies asked behind buffer long
          dsimp only at round
          unfold Accepts at accepts
          rw [if_pos (by omega)] at round
          rw [round]
          exact copiesInside_rejected
        · rw [rounds_of_le _ (by exact_mod_cast Nat.not_lt.mp long)]
          exact nofun

end OnRecvStream

/-! ## A datagram at both ends -/

/-- The copies of a datagram stay inside the buffers, and the server stores its
size. -/
structure ReceivedBytesFit
    (readBuffer :
      NetBuffer → (Nat → Byte) → Nat → Nat → NetBuffer × (Nat → Byte))
    (bytesCopied : NetBuffer → Nat → Nat)
    (alloc : Int → NetBuffer)
    (recvBuffer : NetBuffer) (datagram : List Byte) : Prop where
  server : ∀ circumstances,
    ∀ copy ∈ (recvIoCompleted circumstances datagram).copies, copy.StaysInside
  writePosition : ∀ circumstances,
    ∀ buffer ∈ (recvIoCompleted circumstances datagram).buffer,
      buffer.iWrite = datagram.length
  client : CopiesInside
    (rounds readBuffer bytesCopied alloc (received recvBuffer datagram)
      datagram.length)

/-- A datagram is copied whole, if at all. -/
theorem recvIoCompleted_copies
    {datagram : List Byte}
    (within : datagram.length ≤ recvBufferSize)
    (circumstances : Circumstances) :
    (recvIoCompleted circumstances datagram).copies =
      if circumstances.isContextValid ∧
          ¬ circumstances.shouldDropReceivedDatagram ∧
          circumstances.alloc.isSome then [⟨0, datagram.length⟩]
      else [] := by
  have copied : memcpyS recvBufferSize datagram.length =
      (true, ⟨0, datagram.length⟩) := if_pos within
  unfold recvIoCompleted
  split
  case isTrue invalid => simp [invalid]
  case isFalse valid =>
    split
    case isTrue drops => simp [drops]
    case isFalse keeps =>
      split
      case h_1 none => simp [none]
      case h_2 buffer some =>
        simp only [copied]
        rw [if_pos ⟨not_not.mp valid, keeps, by rw [some]; rfl⟩]

/-- The write position is the size of the datagram. -/
theorem recvIoCompleted_iWrite
    {datagram : List Byte}
    (within : datagram.length ≤ recvBufferSize)
    (circumstances : Circumstances)
    {buffer : NetBuffer}
    (enqueued : buffer ∈ (recvIoCompleted circumstances datagram).buffer) :
    buffer.iWrite = datagram.length := by
  have copied : memcpyS recvBufferSize datagram.length =
      (true, ⟨0, datagram.length⟩) := if_pos within
  have small : datagram.length < 2 ^ 16 :=
    within.trans_lt (by decide : recvBufferSize < 2 ^ 16)
  unfold recvIoCompleted at enqueued
  split at enqueued
  case isTrue => cases enqueued
  case isFalse =>
    split at enqueued
    case isTrue => cases enqueued
    case isFalse =>
      split at enqueued
      case h_1 => cases enqueued
      case h_2 allocated _ =>
        simp only [copied] at enqueued
        obtain rfl := Option.mem_some.mp enqueued
        exact Nat.mod_eq_of_lt small

/-- Nothing goes wrong on the server. -/
def undisturbed (buffer : NetBuffer) : Circumstances where
  isContextValid := true
  shouldDropReceivedDatagram := false
  alloc := some buffer
  enqueueContextResult := true
  doRecv := true

/-- The server copies a datagram inside its buffer if and only if it is not larger
than that. -/
theorem recvIoCompleted_staysInside_iff
    {datagram : List Byte}
    (within : datagram.length ≤ recvBufferSize)
    (buffer : NetBuffer) :
    (∀ circumstances, ∀ copy ∈ (recvIoCompleted circumstances datagram).copies,
        copy.StaysInside) ↔
      datagram.length ≤ dfDefaultSize := by
  constructor
  · intro inside
    have copied := inside (undisturbed buffer) ⟨0, datagram.length⟩
      (by rw [recvIoCompleted_copies within]; exact List.mem_cons_self)
    rwa [Copy.StaysInside, Nat.zero_add] at copied
  · intro small circumstances copy member
    rw [recvIoCompleted_copies within] at member
    split at member
    case isTrue =>
      obtain rfl := List.mem_singleton.mp member
      rwa [Copy.StaysInside, Nat.zero_add]
    case isFalse => cases member

/-- Complete frames are not larger than the datagram. -/
theorem length_le_of_mem_cut
    {datagram frame : List Byte}
    (member : frame ∈ (packetAnnouncement dfDefaultSize).cut datagram) :
    frame.length ≤ datagram.length :=
  ((List.sublist_flatten_of_mem member).length_le).trans
    (Announcement.framing_cut datagram).inside.length_le

/-- The copies stay inside the buffers if and only if the datagram is not larger
than a buffer, and a header that announces more than what follows it has no more
copied than fits behind a header. -/
theorem receivedBytesFit_iff
    {readBuffer :
      NetBuffer → (Nat → Byte) → Nat → Nat → NetBuffer × (Nat → Byte)}
    {bytesCopied : NetBuffer → Nat → Nat}
    {alloc : Int → NetBuffer}
    (copies : CopiesWritten readBuffer)
    (asked : CopiesAsked bytesCopied)
    (behind : WritesBehindHeader alloc)
    (recvBuffer : NetBuffer)
    (datagram : List Byte)
    (within : datagram.length ≤ recvBufferSize) :
    ReceivedBytesFit readBuffer bytesCopied alloc recvBuffer datagram ↔
      datagram.length ≤ dfDefaultSize ∧
        (Overruns dfDefaultSize datagram →
          (overrunCopy bytesCopied
            (received recvBuffer datagram)).StaysInside) := by
  have stream := unread_received recvBuffer datagram
  have server := recvIoCompleted_staysInside_iff within recvBuffer
  have client := copiesInside_rounds copies asked behind
    (received recvBuffer datagram)
  rw [FramesFit, stream] at client
  constructor
  · intro fit
    exact ⟨server.mp fit.server, (client.mp fit.client).2⟩
  · rintro ⟨small, overrun⟩
    exact
      { server := server.mpr small
        writePosition := fun circumstances _ enqueued =>
          recvIoCompleted_iWrite within circumstances enqueued
        client := client.mpr ⟨fun frame member =>
          (length_le_of_mem_cut member).trans small, overrun⟩ }

/-! ## One byte more than a buffer holds -/

/-- A `ReadBuffer` that copies what it is asked for. -/
def copiesAll (_ : NetBuffer) (size : Nat) : Nat := size

theorem receivedBytesFit_twoFrames :
    ReceivedBytesFit copyBytes copiesAll (fun _ => freshBuffer) usedBuffer
      twoFrames :=
  (receivedBytesFit_iff copiesWritten_copyBytes (fun _ _ _ => rfl)
    (fun _ => rfl) usedBuffer twoFrames (by decide)).mpr
    ⟨by decide, fun overruns => absurd overruns not_overruns_twoFrames⟩

/-- A frame whose payload is within the limit of the client. -/
def largeFrame : List Byte :=
  [0, 0xFC, 3, 0, 0] ++ List.replicate 1020 0

theorem length_largeFrame : largeFrame.length = 1025 := by
  rw [largeFrame, List.length_append, List.length_replicate]
  rfl

theorem getPayloadLength_largeFrame :
    PacketCrypto.getPayloadLength largeFrame = 1020 := by
  rw [← PacketCrypto.getPayloadLength_take largeFrame
    (by decide : 3 ≤ headerSize), largeFrame, List.take_left' (by rfl)]
  decide

theorem isFrame_largeFrame :
    (packetAnnouncement dfDefaultSize).IsFrame largeFrame := by
  have size := length_largeFrame
  have payloadLength := getPayloadLength_largeFrame
  generalize largeFrame = frame at size payloadLength ⊢
  refine announcedSize_eq_some.mpr ?_
  rw [payloadLength, size]
  decide

/-- Both ends write behind the end of the buffer, whatever `ReadBuffer` does with
bytes that have not been written. -/
theorem largeFrame_does_not_fit :
    largeFrame.length ≤ recvBufferSize ∧
    ∀ readBuffer bytesCopied alloc recvBuffer, CopiesWritten readBuffer →
      CopiesAsked bytesCopied → WritesBehindHeader alloc →
      (∃ copy ∈ (recvIoCompleted (undisturbed recvBuffer) largeFrame).copies,
        ¬ copy.StaysInside) ∧
      ¬ CopiesInside
        (rounds readBuffer bytesCopied alloc (received recvBuffer largeFrame)
          largeFrame.length) ∧
      ¬ ReceivedBytesFit readBuffer bytesCopied alloc recvBuffer
        largeFrame := by
  have within : largeFrame.length ≤ recvBufferSize := by
    rw [length_largeFrame]
    decide
  have large : ¬ largeFrame.length ≤ dfDefaultSize := by
    rw [length_largeFrame]
    decide
  refine ⟨within, ?_⟩
  intro readBuffer bytesCopied alloc recvBuffer copies asked behind
  have client := copiesInside_rounds copies asked behind
    (received recvBuffer largeFrame)
  rw [FramesFit, unread_received] at client
  have first : largeFrame ∈
      (packetAnnouncement dfDefaultSize).cut largeFrame := by
    have cuts := Announcement.cut_append isFrame_largeFrame []
    rw [List.append_nil] at cuts
    rw [cuts]
    exact List.mem_cons_self
  refine ⟨⟨⟨0, largeFrame.length⟩, ?_, ?_⟩,
    fun inside => large ((client.mp inside).1 _ first),
    fun fit => large ((recvIoCompleted_staysInside_iff within recvBuffer).mp
      fit.server)⟩
  · rw [recvIoCompleted_copies within, if_pos ⟨rfl, Bool.false_ne_true, rfl⟩]
    exact List.mem_cons_self
  · rwa [Copy.StaysInside, Nat.zero_add]

end ReceivedBytes
end MultiSocketRudp
