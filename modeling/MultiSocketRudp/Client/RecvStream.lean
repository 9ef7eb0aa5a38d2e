import MultiSocketRudp.BotTester.DatagramFramer
import MultiSocketRudp.Lib.WriteBuffer

/-!
# How the client splits a datagram

`RunRecvThread` receives every datagram into the same buffer, which keeps what
stands behind it from earlier ones.  `OnRecvStream` copies one packet after the
other out of it.  The test of the payload length compares it with all bytes that
are left, the header among them.

`NetBuffer` is not part of the repository.  `ReadBuffer` and `Alloc` are parameters,
of which only what they do with written bytes is used.
-/

namespace MultiSocketRudp
namespace RecvStream

open PacketCrypto (littleEndian packetAnnouncement announcedSize
  announcedSize_eq_some getPayloadLength_take)
open SelfDelimiting WriteBuffer

/-- `NetBuffer`: the bytes behind `m_pSerializeBuffer`, `m_iRead` and `m_iWrite`. -/
structure NetBuffer where
  serializeBuffer : Nat → Byte
  iRead : Nat
  iWrite : Nat

namespace NetBuffer

/-- `RUDPClientCore::GetPayloadLength`. -/
def getPayloadLength (buffer : NetBuffer) : Nat :=
  (littleEndian (span buffer.serializeBuffer (buffer.iRead + 1) 2)).toNat

/-- The bytes of a packet. -/
def bytes (buffer : NetBuffer) : List Byte :=
  front buffer.serializeBuffer buffer.iWrite

/-- The bytes that have been written and not been read. -/
def unread (buffer : NetBuffer) : List Byte :=
  span buffer.serializeBuffer buffer.iRead (buffer.iWrite - buffer.iRead)

end NetBuffer

/-- `recvfrom` writes a datagram to the beginning of the buffer, and `RunRecvThread`
sets the positions. -/
def received (buffer : NetBuffer) (datagram : List Byte) : NetBuffer where
  serializeBuffer := write buffer.serializeBuffer 0 datagram
  iRead := 0
  iWrite := datagram.length

section OnRecvStream

-- `ReadBuffer`: the buffer and the target after this many bytes have been asked for
-- at an offset of the target.
variable (readBuffer :
  NetBuffer → (Nat → Byte) → Nat → Nat → NetBuffer × (Nat → Byte))
-- `Alloc`: the buffer that it hands out when this many bytes are left.
variable (alloc : Int → NetBuffer)
variable (defaultSize : Nat)

/-- `ReadBuffer` copies bytes that have been written and moves the read position
behind them. -/
def CopiesWritten : Prop :=
  ∀ buffer target offset size, buffer.iRead + size ≤ buffer.iWrite →
    readBuffer buffer target offset size =
      ({ buffer with iRead := buffer.iRead + size },
        write target offset (span buffer.serializeBuffer buffer.iRead size))

/-- `Alloc` leaves room for the header. -/
def WritesBehindHeader : Prop :=
  ∀ left, (alloc left).iWrite = headerSize

/-- `RUDPClientCore::OnRecvStream`: the packets that it hands to
`ProcessRecvPacket`. -/
def onRecvStream (recvBuffer : NetBuffer) (recvSize : Int) : List NetBuffer :=
  if (headerSize : Int) < recvSize then
    let (recvBuffer, header) :=
      readBuffer recvBuffer (alloc recvSize).serializeBuffer 0 headerSize
    let recvPacketBuffer : NetBuffer :=
      { serializeBuffer := header, iRead := 0, iWrite := (alloc recvSize).iWrite }
    let payloadLength := recvPacketBuffer.getPayloadLength
    if payloadLength = 0 ∨ defaultSize < payloadLength ∨
        recvSize < payloadLength then []
    else
      let packetSize := payloadLength + headerSize
      let (recvBuffer, packet) :=
        readBuffer recvBuffer header recvPacketBuffer.iWrite payloadLength
      { serializeBuffer := packet
        iRead := headerSize
        iWrite := packetSize % 2 ^ 16 } ::
        onRecvStream recvBuffer (recvSize - packetSize)
  else []
termination_by recvSize.toNat
decreasing_by
  have positive : 0 < headerSize := by decide
  omega

end OnRecvStream

/-! ## What is promised -/

/-- The packets are the longest sequence of complete frames with which the datagram
begins, and those that the bot tester processes when their payload lengths are
within the limit. -/
structure SplitsExactly
    (defaultSize : Nat)
    (datagram : List Byte) (packets : List (List Byte)) : Prop where
  longest : (packetAnnouncement defaultSize).LongestFraming datagram packets
  agrees :
    (∀ frame ∈ BotTester.processReceivedStream datagram 0,
      PacketCrypto.getPayloadLength frame ≤ defaultSize) →
    packets = BotTester.processReceivedStream datagram 0

/-- Behind its complete frames the datagram goes on with a header whose payload
length is within the limit, and larger than what follows the header by at most the
size of the header. -/
def Overruns (defaultSize : Nat) (datagram : List Byte) : Prop :=
  let rest := (packetAnnouncement defaultSize).rest datagram
  headerSize < rest.length ∧
    0 < PacketCrypto.getPayloadLength rest ∧
    PacketCrypto.getPayloadLength rest ≤ defaultSize ∧
    rest.length - headerSize < PacketCrypto.getPayloadLength rest ∧
    PacketCrypto.getPayloadLength rest ≤ rest.length

/-! ## One packet -/

theorem unread_length (buffer : NetBuffer) :
    buffer.unread.length = buffer.iWrite - buffer.iRead :=
  span_length _ _ _

theorem unread_received (buffer : NetBuffer) (datagram : List Byte) :
    (received buffer datagram).unread = datagram := by
  have written := front_write buffer.serializeBuffer 0 datagram
  rw [Nat.zero_add, front_zero, List.nil_append] at written
  rw [NetBuffer.unread, received, Nat.sub_zero, span_zero, written]

/-- The packet buffer with the header that has been copied into it. -/
def withHeader (buffer packet : NetBuffer) : Nat → Byte :=
  write packet.serializeBuffer 0
    (span buffer.serializeBuffer buffer.iRead headerSize)

theorem front_withHeader (buffer packet : NetBuffer) :
    front (withHeader buffer packet) headerSize =
      span buffer.serializeBuffer buffer.iRead headerSize := by
  have written := front_write packet.serializeBuffer 0
    (span buffer.serializeBuffer buffer.iRead headerSize)
  rwa [span_length, Nat.zero_add, front_zero, List.nil_append] at written

/-- The payload length is read from the copy of the header. -/
theorem getPayloadLength_withHeader
    (buffer packet : NetBuffer)
    (iWrite : Nat)
    (long : headerSize ≤ buffer.unread.length) :
    NetBuffer.getPayloadLength
        { serializeBuffer := withHeader buffer packet
          iRead := 0
          iWrite := iWrite } =
      PacketCrypto.getPayloadLength buffer.unread := by
  rw [unread_length] at long
  rw [← getPayloadLength_take buffer.unread (by decide : 3 ≤ headerSize),
    NetBuffer.unread, take_span _ _ long, ← front_withHeader buffer packet,
    NetBuffer.getPayloadLength, PacketCrypto.getPayloadLength,
    take_drop_front _ (by decide : 1 + 2 ≤ headerSize)]

/-- The payload is copied behind the header. -/
theorem front_write_withHeader
    (buffer packet : NetBuffer) (payloadLength : Nat) :
    front
        (write (withHeader buffer packet) headerSize
          (span buffer.serializeBuffer (buffer.iRead + headerSize)
            payloadLength))
        (headerSize + payloadLength) =
      span buffer.serializeBuffer buffer.iRead (headerSize + payloadLength) := by
  have written := front_write (withHeader buffer packet) headerSize
    (span buffer.serializeBuffer (buffer.iRead + headerSize) payloadLength)
  rw [span_length, front_withHeader] at written
  rw [written, span_add]

/-- What is read is followed by what is left to read. -/
theorem unread_eq_append
    (buffer : NetBuffer)
    {count : Nat}
    (within : count ≤ buffer.unread.length) :
    buffer.unread =
      span buffer.serializeBuffer buffer.iRead count ++
        { buffer with iRead := buffer.iRead + count }.unread := by
  rw [unread_length] at within
  have total : buffer.iWrite - buffer.iRead =
      count + (buffer.iWrite - (buffer.iRead + count)) := by
    omega
  rw [NetBuffer.unread, total, span_add]
  rfl

/-- A valid header with its payload behind it is a frame. -/
theorem isFrame_span
    (buffer : NetBuffer)
    {defaultSize : Nat}
    (positive : 0 < PacketCrypto.getPayloadLength buffer.unread)
    (valid : PacketCrypto.getPayloadLength buffer.unread ≤ defaultSize)
    (inside : headerSize + PacketCrypto.getPayloadLength buffer.unread ≤
      buffer.unread.length) :
    (packetAnnouncement defaultSize).IsFrame
      (span buffer.serializeBuffer buffer.iRead
        (headerSize + PacketCrypto.getPayloadLength buffer.unread)) := by
  have written := inside
  rw [unread_length] at written
  have first := take_span buffer.serializeBuffer buffer.iRead written
  have found : (packetAnnouncement defaultSize).size buffer.unread =
      some (headerSize + PacketCrypto.getPayloadLength buffer.unread) :=
    announcedSize_eq_some.mpr
      ⟨⟨le_trans (Nat.le_add_right _ _) inside, positive, valid⟩,
        Nat.add_comm _ _⟩
  have size := (packetAnnouncement defaultSize).size_take found inside
  rw [← NetBuffer.unread] at first
  rw [Announcement.IsFrame, span_length, ← first]
  exact size

section OnRecvStream

variable {readBuffer :
  NetBuffer → (Nat → Byte) → Nat → Nat → NetBuffer × (Nat → Byte)}
variable {alloc : Int → NetBuffer} (defaultSize : Nat)

/-- Where not more than a header is left nothing is processed. -/
theorem onRecvStream_of_le
    (buffer : NetBuffer)
    {recvSize : Int}
    (short : recvSize ≤ headerSize) :
    onRecvStream readBuffer alloc defaultSize buffer recvSize = [] := by
  rw [onRecvStream, if_neg (Int.not_lt.mpr short)]

/-- One round of the loop. -/
theorem onRecvStream_of_lt
    (copies : CopiesWritten readBuffer)
    (behind : WritesBehindHeader alloc)
    (buffer : NetBuffer)
    (long : headerSize < buffer.unread.length) :
    let payloadLength := PacketCrypto.getPayloadLength buffer.unread
    let read := readBuffer { buffer with iRead := buffer.iRead + headerSize }
      (withHeader buffer (alloc buffer.unread.length)) headerSize payloadLength
    onRecvStream readBuffer alloc defaultSize buffer buffer.unread.length =
      if payloadLength = 0 ∨ defaultSize < payloadLength ∨
          buffer.unread.length < payloadLength then []
      else
        { serializeBuffer := read.2
          iRead := headerSize
          iWrite := (payloadLength + headerSize) % 2 ^ 16 } ::
          onRecvStream readBuffer alloc defaultSize read.1
            (buffer.unread.length - (payloadLength + headerSize : Nat)) := by
  have written := long
  rw [unread_length] at written
  have header := copies buffer (alloc buffer.unread.length).serializeBuffer 0
    headerSize (by omega)
  have room := behind buffer.unread.length
  rw [onRecvStream, if_pos (by exact_mod_cast long)]
  simp only [header, room, Nat.cast_lt]
  have length := getPayloadLength_withHeader buffer
    (alloc buffer.unread.length) headerSize long.le
  simp only [withHeader] at length ⊢
  rw [length]

/-- A header whose payload length the loop accepts. -/
def Accepts (buffer : NetBuffer) : Prop :=
  headerSize < buffer.unread.length ∧
    0 < PacketCrypto.getPayloadLength buffer.unread ∧
    PacketCrypto.getPayloadLength buffer.unread ≤ defaultSize ∧
    PacketCrypto.getPayloadLength buffer.unread ≤ buffer.unread.length

/-- An accepted packet inside the datagram is processed, and the loop goes on behind
it. -/
theorem onRecvStream_inside
    (copies : CopiesWritten readBuffer)
    (behind : WritesBehindHeader alloc)
    (buffer : NetBuffer)
    (accepts : Accepts defaultSize buffer)
    (fits : buffer.unread.length ≤ recvBufferSize)
    {packetSize : Nat}
    (size : packetSize =
      headerSize + PacketCrypto.getPayloadLength buffer.unread)
    (inside : packetSize ≤ buffer.unread.length) :
    (onRecvStream readBuffer alloc defaultSize buffer
        buffer.unread.length).map NetBuffer.bytes =
      span buffer.serializeBuffer buffer.iRead packetSize ::
        (onRecvStream readBuffer alloc defaultSize
          { buffer with iRead := buffer.iRead + packetSize }
          { buffer with iRead := buffer.iRead + packetSize }.unread.length).map
            NetBuffer.bytes := by
  obtain ⟨long, positive, valid, within⟩ := accepts
  have round := onRecvStream_of_lt defaultSize copies behind buffer long
  dsimp only at round
  rw [if_neg (by omega)] at round
  have written := inside
  rw [unread_length, size] at written
  have copied := copies { buffer with iRead := buffer.iRead + headerSize }
    (withHeader buffer (alloc buffer.unread.length)) headerSize
    (PacketCrypto.getPayloadLength buffer.unread) (by dsimp only; omega)
  have left : (buffer.unread.length : Int) -
      (PacketCrypto.getPayloadLength buffer.unread + headerSize : Nat) =
      { buffer with iRead := buffer.iRead + packetSize }.unread.length := by
    rw [unread_length, unread_length]
    dsimp only
    omega
  have small : PacketCrypto.getPayloadLength buffer.unread + headerSize <
      2 ^ 16 := by
    have limit : recvBufferSize < 2 ^ 16 := by decide
    omega
  rw [round, copied, left]
  simp only [List.map_cons, NetBuffer.bytes, Nat.mod_eq_of_lt small]
  rw [Nat.add_comm (PacketCrypto.getPayloadLength buffer.unread),
    front_write_withHeader, ← size, Nat.add_assoc, ← size]

/-- An accepted packet that goes beyond the datagram is processed too, and is the
last one. -/
theorem onRecvStream_beyond
    (copies : CopiesWritten readBuffer)
    (behind : WritesBehindHeader alloc)
    (buffer : NetBuffer)
    (accepts : Accepts defaultSize buffer)
    (beyond : buffer.unread.length <
      headerSize + PacketCrypto.getPayloadLength buffer.unread) :
    ∃ packet,
      onRecvStream readBuffer alloc defaultSize buffer buffer.unread.length =
        [packet] := by
  obtain ⟨long, positive, valid, within⟩ := accepts
  have round := onRecvStream_of_lt defaultSize copies behind buffer long
  dsimp only at round
  rw [if_neg (by omega)] at round
  exact ⟨_, round.trans
    (congrArg (List.cons _) (onRecvStream_of_le _ _ (by omega)))⟩

/-- Where the header is not accepted nothing is processed. -/
theorem onRecvStream_of_not_accepts
    (copies : CopiesWritten readBuffer)
    (behind : WritesBehindHeader alloc)
    (buffer : NetBuffer)
    (rejects : ¬ Accepts defaultSize buffer) :
    onRecvStream readBuffer alloc defaultSize buffer buffer.unread.length =
      [] := by
  by_cases long : headerSize < buffer.unread.length
  · have round := onRecvStream_of_lt defaultSize copies behind buffer long
    dsimp only at round
    unfold Accepts at rejects
    rwa [if_pos (by omega)] at round
  · exact onRecvStream_of_le _ buffer (by exact_mod_cast Nat.not_lt.mp long)

/-! ## A whole datagram -/

/-- A datagram overruns when what follows its first frame does. -/
theorem overruns_append
    {defaultSize : Nat}
    {frame : List Byte}
    (isFrame : (packetAnnouncement defaultSize).IsFrame frame)
    (following : List Byte) :
    Overruns defaultSize (frame ++ following) ↔
      Overruns defaultSize following := by
  simp only [Overruns, Announcement.rest_append isFrame]

/-- Where no frame can be cut off the header decides. -/
theorem overruns_iff
    {defaultSize : Nat}
    {stream : List Byte}
    (nothing : (packetAnnouncement defaultSize).cut stream = []) :
    Overruns defaultSize stream ↔
      headerSize < stream.length ∧
        0 < PacketCrypto.getPayloadLength stream ∧
        PacketCrypto.getPayloadLength stream ≤ defaultSize ∧
        stream.length - headerSize < PacketCrypto.getPayloadLength stream ∧
        PacketCrypto.getPayloadLength stream ≤ stream.length := by
  simp only [Overruns, Announcement.rest_eq_self nothing]

/-- No frame can be cut off when a valid header announces more than there is. -/
theorem cut_eq_nil_of_lt
    (stream : List Byte)
    (truncated : headerSize ≤ stream.length →
      0 < PacketCrypto.getPayloadLength stream →
      PacketCrypto.getPayloadLength stream ≤ defaultSize →
      stream.length < PacketCrypto.getPayloadLength stream + headerSize) :
    (packetAnnouncement defaultSize).cut stream = [] := by
  refine Announcement.cut_eq_nil fun extent found => ?_
  obtain ⟨⟨header, payload, within⟩, rfl⟩ := announcedSize_eq_some.mp found
  exact truncated header payload within

/-- `OnRecvStream` processes the complete frames, and one packet more when the
datagram overruns. -/
theorem onRecvStream_bytes
    (copies : CopiesWritten readBuffer)
    (behind : WritesBehindHeader alloc)
    (buffer : NetBuffer)
    (fits : buffer.unread.length ≤ recvBufferSize) :
    ∃ extra,
      (onRecvStream readBuffer alloc defaultSize buffer
          buffer.unread.length).map NetBuffer.bytes =
        (packetAnnouncement defaultSize).cut buffer.unread ++ extra ∧
      (extra = [] ↔ ¬ Overruns defaultSize buffer.unread) := by
  induction size : buffer.unread.length using Nat.strong_induction_on
    generalizing buffer with
  | _ size inductionHypothesis =>
      subst size
      have nothing := cut_eq_nil_of_lt defaultSize buffer.unread
      by_cases accepts : Accepts defaultSize buffer
      · obtain ⟨packetSize, size⟩ : ∃ packetSize,
            packetSize =
              headerSize + PacketCrypto.getPayloadLength buffer.unread :=
          ⟨_, rfl⟩
        by_cases inside : packetSize ≤ buffer.unread.length
        · have isFrame := isFrame_span buffer accepts.2.1 accepts.2.2.1
            (size ▸ inside)
          rw [← size] at isFrame
          have parts := unread_eq_append buffer inside
          have shorter := congrArg List.length parts
          rw [List.length_append] at shorter
          have positive := isFrame.length_pos
          obtain ⟨extra, later, overruns⟩ := inductionHypothesis _ (by omega)
            { buffer with iRead := buffer.iRead + packetSize } (by omega) rfl
          refine ⟨extra, ?_, ?_⟩
          · rw [onRecvStream_inside defaultSize copies behind buffer accepts
                fits size inside,
              later, parts, Announcement.cut_append isFrame, List.cons_append]
          · rw [overruns, parts, overruns_append isFrame]
        · obtain ⟨packet, processed⟩ := onRecvStream_beyond defaultSize copies
            behind buffer accepts (by omega)
          obtain ⟨long, positive, valid, within⟩ := accepts
          have none_cut := nothing (by omega)
          refine ⟨[packet.bytes], ?_, iff_of_false nofun ?_⟩
          · rw [processed, none_cut]
            rfl
          · rw [overruns_iff none_cut]
            omega
      · have none_cut := nothing (by unfold Accepts at accepts; omega)
        refine ⟨[], ?_, iff_of_true rfl ?_⟩
        · rw [onRecvStream_of_not_accepts defaultSize copies behind buffer
            accepts, none_cut]
          rfl
        · rw [overruns_iff none_cut]
          exact fun overruns => accepts
            ⟨overruns.1, overruns.2.1, overruns.2.2.1, overruns.2.2.2.2⟩

omit defaultSize in
/-- A packet more than the complete frames is not exact. -/
theorem splitsExactly_append_iff
    {defaultSize : Nat}
    (datagram : List Byte) (extra : List (List Byte)) :
    SplitsExactly defaultSize datagram
        ((packetAnnouncement defaultSize).cut datagram ++ extra) ↔
      extra = [] := by
  constructor
  · intro exact
    exact List.append_right_eq_self.mp exact.longest.eq_cut
  · rintro rfl
    rw [List.append_nil]
    exact
      { longest := Announcement.longestFraming_cut datagram
        agrees := BotTester.cut_eq_processReceivedStream }

/-- The client splits a datagram exactly if and only if it does not overrun. -/
theorem splitsExactly_iff_not_overruns
    (copies : CopiesWritten readBuffer)
    (behind : WritesBehindHeader alloc)
    (buffer : NetBuffer)
    (datagram : List Byte)
    (fits : datagram.length ≤ recvBufferSize) :
    SplitsExactly defaultSize datagram
        ((onRecvStream readBuffer alloc defaultSize (received buffer datagram)
          datagram.length).map NetBuffer.bytes) ↔
      ¬ Overruns defaultSize datagram := by
  have stream := unread_received buffer datagram
  obtain ⟨extra, processed, overruns⟩ := onRecvStream_bytes defaultSize copies
    behind (received buffer datagram) (stream.symm ▸ fits)
  rw [stream] at processed overruns
  rw [← overruns, processed, splitsExactly_append_iff]

end OnRecvStream

/-- One round of the loop over a list of bytes. -/
theorem onRecvStream_list_inside
    {readBytes : List Byte → Nat → List Byte}
    (reads : PacketCrypto.ReadsInside readBytes)
    {defaultSize : Nat}
    {datagram : List Byte}
    (fits : datagram.length ≤ recvBufferSize)
    (positive : 0 < PacketCrypto.getPayloadLength datagram)
    (valid : PacketCrypto.getPayloadLength datagram ≤ defaultSize)
    {packetSize : Nat}
    (size : PacketCrypto.getPayloadLength datagram + headerSize = packetSize)
    (inside : packetSize ≤ datagram.length) :
    PacketCrypto.onRecvStream readBytes defaultSize datagram datagram.length =
      datagram.take packetSize ::
        PacketCrypto.onRecvStream readBytes defaultSize
          (datagram.drop packetSize) (datagram.drop packetSize).length := by
  have limit : recvBufferSize < 2 ^ 16 := by decide
  have header : readBytes datagram headerSize = datagram.take headerSize :=
    reads _ _ (by omega)
  have payloadLength : PacketCrypto.getPayloadLength (datagram.take headerSize) =
      PacketCrypto.getPayloadLength datagram :=
    getPayloadLength_take datagram (by decide)
  have payload : readBytes (datagram.drop headerSize)
        (PacketCrypto.getPayloadLength datagram) =
      (datagram.drop headerSize).take
        (PacketCrypto.getPayloadLength datagram) :=
    reads _ _ (by rw [List.length_drop]; omega)
  rw [PacketCrypto.onRecvStream, if_pos (by omega)]
  simp only [header, payloadLength, payload, size]
  rw [if_neg (by omega), ← List.take_add, Nat.add_comm headerSize, size,
    Nat.mod_eq_of_lt (by omega), List.take_take, Nat.min_self, List.length_drop]

/-- Over a list of bytes the loop cuts the complete frames off when the datagram does
not overrun. -/
theorem onRecvStream_list_eq_cut
    {readBytes : List Byte → Nat → List Byte}
    (reads : PacketCrypto.ReadsInside readBytes)
    {defaultSize : Nat}
    {datagram : List Byte}
    (fits : datagram.length ≤ recvBufferSize)
    (inside : ¬ Overruns defaultSize datagram) :
    PacketCrypto.onRecvStream readBytes defaultSize datagram datagram.length =
      (packetAnnouncement defaultSize).cut datagram := by
  induction length : datagram.length using Nat.strong_induction_on
    generalizing datagram with
  | _ length inductionHypothesis =>
      subst length
      by_cases complete : 0 < PacketCrypto.getPayloadLength datagram ∧
          PacketCrypto.getPayloadLength datagram ≤ defaultSize ∧
          PacketCrypto.getPayloadLength datagram + headerSize ≤ datagram.length
      · obtain ⟨positive, valid, room⟩ := complete
        obtain ⟨packetSize, size⟩ : ∃ packetSize,
            PacketCrypto.getPayloadLength datagram + headerSize = packetSize :=
          ⟨_, rfl⟩
        rw [size] at room
        have found : (packetAnnouncement defaultSize).size datagram =
            some packetSize :=
          announcedSize_eq_some.mpr ⟨⟨by omega, positive, valid⟩, size⟩
        have isFrame : (packetAnnouncement defaultSize).IsFrame
            (datagram.take packetSize) := by
          rw [Announcement.IsFrame, List.length_take, Nat.min_eq_left room]
          exact (packetAnnouncement defaultSize).size_take found room
        have parts := List.take_append_drop packetSize datagram
        rw [← parts, overruns_append isFrame] at inside
        have shorter : (datagram.drop packetSize).length < datagram.length := by
          rw [List.length_drop]
          omega
        have cuts := Announcement.cut_append isFrame (datagram.drop packetSize)
        rw [parts] at cuts
        rw [onRecvStream_list_inside reads fits positive valid size room, cuts,
          inductionHypothesis _ shorter (shorter.le.trans fits) inside rfl]
      · have none_cut := cut_eq_nil_of_lt defaultSize datagram
          fun header positive valid => by omega
        rw [overruns_iff none_cut] at inside
        rw [none_cut, PacketCrypto.onRecvStream]
        split
        next long =>
          have rejected : PacketCrypto.getPayloadLength
                (readBytes datagram headerSize) =
              PacketCrypto.getPayloadLength datagram := by
            rw [reads _ _ long.le, getPayloadLength_take _ (by decide)]
          simp only [rejected]
          rw [if_pos (by omega)]
        next => rfl

/-- Where a datagram does not overrun it does not matter that the buffer is more
than a list of bytes. -/
theorem onRecvStream_eq_of_not_overruns
    {readBuffer : NetBuffer → (Nat → Byte) → Nat → Nat → NetBuffer × (Nat → Byte)}
    {alloc : Int → NetBuffer}
    (copies : CopiesWritten readBuffer)
    (behind : WritesBehindHeader alloc)
    {readBytes : List Byte → Nat → List Byte}
    (reads : PacketCrypto.ReadsInside readBytes)
    {defaultSize : Nat}
    (buffer : NetBuffer)
    (datagram : List Byte)
    (fits : datagram.length ≤ recvBufferSize)
    (inside : ¬ Overruns defaultSize datagram) :
    (onRecvStream readBuffer alloc defaultSize (received buffer datagram)
        datagram.length).map NetBuffer.bytes =
      PacketCrypto.onRecvStream readBytes defaultSize datagram
        datagram.length := by
  have stream := unread_received buffer datagram
  obtain ⟨extra, processed, overruns⟩ := onRecvStream_bytes defaultSize copies
    behind (received buffer datagram) (stream.symm ▸ fits)
  rw [stream] at processed overruns
  rw [processed, overruns.mpr inside, List.append_nil,
    onRecvStream_list_eq_cut reads fits inside]

/-! ## A datagram that overruns -/

/-- A `ReadBuffer` that copies whatever stands in the buffer. -/
def copyBytes
    (buffer : NetBuffer) (target : Nat → Byte) (offset size : Nat) :
    NetBuffer × (Nat → Byte) :=
  ({ buffer with iRead := buffer.iRead + size },
    write target offset (span buffer.serializeBuffer buffer.iRead size))

theorem copiesWritten_copyBytes : CopiesWritten copyBytes :=
  fun _ _ _ _ _ => rfl

/-- A buffer that has never been used. -/
def freshBuffer : NetBuffer where
  serializeBuffer _ := 0
  iRead := headerSize
  iWrite := headerSize

/-- A buffer into which a longer datagram was received. -/
def usedBuffer : NetBuffer where
  serializeBuffer _ := 0xFF
  iRead := 0
  iWrite := recvBufferSize

/-- A header that announces three bytes, and one byte. -/
def truncatedDatagram : List Byte := [0, 3, 0, 0, 0, 7]

theorem cut_truncatedDatagram :
    (packetAnnouncement 1024).cut truncatedDatagram = [] :=
  cut_eq_nil_of_lt 1024 truncatedDatagram fun _ _ _ => by decide

theorem overruns_truncatedDatagram : Overruns 1024 truncatedDatagram :=
  (overruns_iff cut_truncatedDatagram).mpr (by decide)

/-- A packet of a datagram that contains no complete frame is processed, whatever
`ReadBuffer` does with bytes that have not been written.  If it copies them, the
packet ends with bytes of an earlier datagram. -/
theorem processes_truncatedDatagram :
    (∀ readBuffer alloc buffer, CopiesWritten readBuffer →
      WritesBehindHeader alloc →
      ¬ SplitsExactly 1024 truncatedDatagram
        ((onRecvStream readBuffer alloc 1024 (received buffer truncatedDatagram)
          truncatedDatagram.length).map NetBuffer.bytes)) ∧
    BotTester.processReceivedStream truncatedDatagram 0 = [] ∧
    (onRecvStream copyBytes (fun _ => freshBuffer) 1024
        (received usedBuffer truncatedDatagram)
        truncatedDatagram.length).map NetBuffer.bytes =
      [[0, 3, 0, 0, 0, 7, 0xFF, 0xFF]] := by
  refine ⟨fun readBuffer alloc buffer copies behind => ?_, ?_, ?_⟩
  · have stream := unread_received buffer truncatedDatagram
    obtain ⟨extra, processed, overruns⟩ := onRecvStream_bytes 1024 copies behind
      (received buffer truncatedDatagram) (stream.symm ▸ by decide)
    rw [stream] at processed overruns
    rw [processed, splitsExactly_append_iff, overruns, not_not]
    exact overruns_truncatedDatagram
  · rw [BotTester.processReceivedStream_eq_cut]
    exact cut_eq_nil_of_lt _ truncatedDatagram fun _ _ _ => by decide
  · rw [onRecvStream, if_pos (by decide)]
    dsimp only
    rw [if_neg (by decide), onRecvStream_of_le _ _ (by decide)]
    decide

/-- Two complete frames. -/
def twoFrames : List Byte := [0, 1, 0, 0, 0, 8] ++ ([0, 2, 0, 0, 0, 8, 9] ++ [])

theorem not_overruns_twoFrames : ¬ Overruns 1024 twoFrames := by
  rw [twoFrames,
    overruns_append (announcedSize_eq_some.mpr (by decide)),
    overruns_append (announcedSize_eq_some.mpr (by decide)),
    overruns_iff (cut_eq_nil_of_lt 1024 [] fun header => absurd header (by decide))]
  decide

/-- A datagram of two frames is split into them. -/
theorem splitsExactly_twoFrames :
    SplitsExactly 1024 twoFrames
      ((onRecvStream copyBytes (fun _ => freshBuffer) 1024
        (received usedBuffer twoFrames) twoFrames.length).map NetBuffer.bytes) :=
  (splitsExactly_iff_not_overruns 1024 copiesWritten_copyBytes (fun _ => rfl)
    usedBuffer twoFrames (by decide)).mpr not_overruns_twoFrames

end RecvStream
end MultiSocketRudp
