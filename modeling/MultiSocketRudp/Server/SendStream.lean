import MultiSocketRudp.Protocol
import MultiSocketRudp.Lib.WriteBuffer

/-!
# Building the outgoing datagram

`MakeSendStream` fills the send buffer of a session with the reserved packet and
as many queued packets as fit.  The packets carry the values that the loads of
their erased flag return at their turn, so that a flag may turn true between two
packets of one call and between the two loads of one packet.

The datagram consists of the live frames exactly when no queued packet is erased
at its turn after its size has been found to fit: its size is counted, its bytes
are not written, and the bytes of an earlier datagram remain in the gap.
-/

namespace MultiSocketRudp
namespace SendStream

open WriteBuffer

/-- Values of the two loads of `isErasedPacketInfo` in
`RefreshRetransmissionSendPacketInfo`: before the scheduler lock and under it. -/
structure ErasedLoads where
  beforeLock : Bool := false
  underLock : Bool := false
  deriving DecidableEq, Repr

/-- `PacketSequenceSetKey`: a reply and a data packet may share a sequence. -/
structure PacketSequenceSetKey where
  isReplyType : Bool
  packetSequence : PacketSequence
  deriving DecidableEq, Repr

/-- `SendPacketInfo`, as far as the send path reads it. -/
structure SendPacketInfo where
  isReplyType : Bool
  sendPacketSequence : PacketSequence
  /-- The `GetAllUseSize()` bytes at `GetBufferPtr()`. -/
  buffer : List Byte
  /-- What the loads of the erased flag return at the packet's turn. -/
  isErasedPacketInfo : ErasedLoads := {}
  deriving DecidableEq, Repr

namespace SendPacketInfo

/-- Key of the packet in the set of one datagram. -/
def key (info : SendPacketInfo) : PacketSequenceSetKey :=
  ⟨info.isReplyType, info.sendPacketSequence⟩

/-- `GetAllUseSize`. -/
def useSize (info : SendPacketInfo) : Nat := info.buffer.length

/-- The packet is found erased at its turn.  A reply is not loaded again under
the lock. -/
def erased (info : SendPacketInfo) : Bool :=
  info.isErasedPacketInfo.beforeLock ||
    (!info.isReplyType && info.isErasedPacketInfo.underLock)

end SendPacketInfo

/-- `SEND_PACKET_INFO_TO_STREAM_RETURN`. -/
inductive StreamReturn
  | success
  | occuredError
  | isErasedPacket
  | streamIsFull
  | isSent
  deriving DecidableEq, Repr

/-- The send side of a session with the locals of one `MakeSendStream` call. -/
structure StreamState where
  /-- The reserved packet of the session. -/
  reservedSendPacketInfo : Option SendPacketInfo
  /-- The send queue of the session, front first. -/
  sendPacketInfoQueue : List SendPacketInfo
  /-- The RIO send buffer, with what earlier datagrams left in it. -/
  rioSendBuffer : Nat → Byte
  /-- Keys of the packets in the datagram. -/
  packetSequenceSet : List PacketSequenceSetKey := []
  /-- Size of the datagram so far. -/
  totalSendSize : Nat := 0
  /-- Packets that were given a retransmission schedule. -/
  scheduled : List SendPacketInfo := []
  /-- `DoDisconnect(BY_ERROR)` has been called. -/
  disconnectedByError : Bool := false

/-- `RefreshRetransmissionSendPacketInfo`: false for an erased packet, and a new
retransmission schedule for every other one that is not a reply. -/
def refreshRetransmissionSendPacketInfo
    (info : SendPacketInfo) (state : StreamState) : Bool × StreamState :=
  if info.isErasedPacketInfo.beforeLock then (false, state)
  else if info.isReplyType then (true, state)
  else if info.isErasedPacketInfo.underLock then (false, state)
  else (true, { state with scheduled := state.scheduled ++ [info] })

/-- `ReservedSendPacketInfoToStream`. -/
def reservedSendPacketInfoToStream
    (state : StreamState) : StreamReturn × StreamState :=
  match state.reservedSendPacketInfo with
  | none => (.success, state)
  | some info =>
      let taken := { state with reservedSendPacketInfo := none }
      if maxSendBufferSize ≤ info.useSize then
        (.occuredError, { taken with disconnectedByError := true })
      else
        match refreshRetransmissionSendPacketInfo info taken with
        | (false, refreshed) => (.isErasedPacket, refreshed)
        | (true, refreshed) =>
            (.success,
              { refreshed with
                rioSendBuffer := write refreshed.rioSendBuffer 0 info.buffer
                packetSequenceSet := info.key :: refreshed.packetSequenceSet
                totalSendSize := refreshed.totalSendSize + info.useSize })

/-- `StoredSendPacketInfoToStream`.  The size is added to the total before the
erased flag is loaded. -/
def storedSendPacketInfoToStream
    (state : StreamState) : StreamReturn × StreamState :=
  match state.sendPacketInfoQueue with
  | [] => (.success, state)
  | info :: rest =>
      let popped := { state with sendPacketInfoQueue := rest }
      if info.key ∈ state.packetSequenceSet then (.isSent, popped)
      else if maxSendBufferSize < info.useSize ∨ info.useSize = 0 then
        (.occuredError, { popped with disconnectedByError := true })
      else if maxSendBufferSize < state.totalSendSize + info.useSize then
        (.streamIsFull, { popped with reservedSendPacketInfo := some info })
      else
        let counted :=
          { popped with totalSendSize := state.totalSendSize + info.useSize }
        match refreshRetransmissionSendPacketInfo info counted with
        | (false, refreshed) => (.isErasedPacket, refreshed)
        | (true, refreshed) =>
            (.success,
              { refreshed with
                packetSequenceSet := info.key :: refreshed.packetSequenceSet
                rioSendBuffer :=
                  write refreshed.rioSendBuffer state.totalSendSize
                    info.buffer })

/-- The loop of `MakeSendStream` over the packets counted at its start. -/
def storeLoop : Nat → StreamState → (Bool × Nat) × StreamState
  | 0, state => ((true, state.totalSendSize), state)
  | count + 1, state =>
      match storedSendPacketInfoToStream state with
      | (.occuredError, stopped) => ((false, 0), stopped)
      | (.streamIsFull, full) => ((true, full.totalSendSize), full)
      | (_, next) => storeLoop count next

/-- `MakeSendStream`: whether it succeeded, and the length of the datagram. -/
def makeSendStream (session : StreamState) : (Bool × Nat) × StreamState :=
  let cleared := { session with packetSequenceSet := [], totalSendSize := 0 }
  let bufferCount := session.sendPacketInfoQueue.length
  match reservedSendPacketInfoToStream cleared with
  | (.occuredError, stopped) => ((false, 0), stopped)
  | (_, next) => storeLoop bufferCount next

/-! ## What the datagram should be -/

/-- The encoded buffers of the packets that are neither erased nor a repetition
of a key of the same datagram, one behind the other. -/
def liveFrames
    (seen : List PacketSequenceSetKey) : List SendPacketInfo → List Byte
  | [] => []
  | info :: rest =>
      if info.key ∈ seen ∨ info.erased then liveFrames seen rest
      else info.buffer ++ liveFrames (info.key :: seen) rest

/-- The datagram of a successful call is the live frames of the reserved packet
and the packets taken from the queue, and the queue loses what was taken and
what became the reserved packet. -/
def DatagramIsLiveFrames
    (session : StreamState) (length : Nat) (after : StreamState) : Prop :=
  ∃ taken,
    session.sendPacketInfoQueue =
      taken ++ after.reservedSendPacketInfo.toList ++
        after.sendPacketInfoQueue ∧
    front after.rioSendBuffer length =
      liveFrames [] (session.reservedSendPacketInfo.toList ++ taken)

/-- No packet of a queue is erased at its turn when its size has been found to
fit behind what the datagram already holds. -/
def noneErasedAfterCount
    (seen : List PacketSequenceSetKey) (total : Nat) :
    List SendPacketInfo → Bool
  | [] => true
  | info :: rest =>
      if info.key ∈ seen then noneErasedAfterCount seen total rest
      else if maxSendBufferSize < info.useSize ∨ info.useSize = 0 then true
      else if maxSendBufferSize < total + info.useSize then true
      else
        !info.erased &&
          noneErasedAfterCount (info.key :: seen) (total + info.useSize) rest

/-- The condition on a call: the reserved packet comes first, and is counted
only when it is not erased. -/
def NoQueuedPacketErasedAfterCount (session : StreamState) : Prop :=
  match session.reservedSendPacketInfo with
  | none => noneErasedAfterCount [] 0 session.sendPacketInfoQueue
  | some info =>
      if info.erased then
        noneErasedAfterCount [] 0 session.sendPacketInfoQueue
      else
        noneErasedAfterCount [info.key] info.useSize
          session.sendPacketInfoQueue

/-! ## One packet -/

@[simp] theorem refresh_fst (info : SendPacketInfo) (state : StreamState) :
    (refreshRetransmissionSendPacketInfo info state).1 = !info.erased := by
  unfold refreshRetransmissionSendPacketInfo SendPacketInfo.erased
  cases info.isErasedPacketInfo.beforeLock <;> cases info.isReplyType <;>
    cases info.isErasedPacketInfo.underLock <;> rfl

/-- Refreshing schedules at most, and leaves the rest of the state alone. -/
theorem refresh_snd (info : SendPacketInfo) (state : StreamState) :
    ∃ scheduled,
      (refreshRetransmissionSendPacketInfo info state).2 =
        { state with scheduled } := by
  unfold refreshRetransmissionSendPacketInfo
  split
  · exact ⟨state.scheduled, rfl⟩
  · split
    · exact ⟨state.scheduled, rfl⟩
    · split
      · exact ⟨state.scheduled, rfl⟩
      · exact ⟨state.scheduled ++ [info], rfl⟩

theorem refresh_eq (info : SendPacketInfo) (state : StreamState) :
    ∃ scheduled,
      refreshRetransmissionSendPacketInfo info state =
        (!info.erased, { state with scheduled }) := by
  obtain ⟨scheduled, same⟩ := refresh_snd info state
  exact ⟨scheduled, Prod.ext (refresh_fst info state) same⟩

section Stored

variable {state : StreamState} {info : SendPacketInfo}
variable {rest : List SendPacketInfo}

/-- A packet whose key is in the datagram is dropped. -/
theorem stored_of_seen
    (queued : state.sendPacketInfoQueue = info :: rest)
    (seen : info.key ∈ state.packetSequenceSet) :
    storedSendPacketInfoToStream state =
      (.isSent, { state with sendPacketInfoQueue := rest }) := by
  simp [storedSendPacketInfoToStream, queued, seen]

/-- A packet of an invalid size ends the call with an error. -/
theorem stored_of_invalid
    (queued : state.sendPacketInfoQueue = info :: rest)
    (fresh : info.key ∉ state.packetSequenceSet)
    (invalid : maxSendBufferSize < info.useSize ∨ info.useSize = 0) :
    (storedSendPacketInfoToStream state).1 = .occuredError := by
  simp [storedSendPacketInfoToStream, queued, fresh, invalid]

/-- A packet that does not fit becomes the reserved packet. -/
theorem stored_of_full
    (queued : state.sendPacketInfoQueue = info :: rest)
    (fresh : info.key ∉ state.packetSequenceSet)
    (valid : ¬ (maxSendBufferSize < info.useSize ∨ info.useSize = 0))
    (full : maxSendBufferSize < state.totalSendSize + info.useSize) :
    storedSendPacketInfoToStream state =
      (.streamIsFull,
        { state with
          sendPacketInfoQueue := rest
          reservedSendPacketInfo := some info }) := by
  simp [storedSendPacketInfoToStream, queued, fresh, valid, full]

/-- An erased packet that fits is counted and not written. -/
theorem stored_of_erased
    (queued : state.sendPacketInfoQueue = info :: rest)
    (fresh : info.key ∉ state.packetSequenceSet)
    (valid : ¬ (maxSendBufferSize < info.useSize ∨ info.useSize = 0))
    (fits : ¬ maxSendBufferSize < state.totalSendSize + info.useSize)
    (erased : info.erased = true) :
    ∃ scheduled,
      storedSendPacketInfoToStream state =
        (.isErasedPacket,
          { state with
            sendPacketInfoQueue := rest
            totalSendSize := state.totalSendSize + info.useSize
            scheduled }) := by
  obtain ⟨scheduled, refreshed⟩ := refresh_eq info
    { state with
      sendPacketInfoQueue := rest
      totalSendSize := state.totalSendSize + info.useSize }
  refine ⟨scheduled, ?_⟩
  simp [storedSendPacketInfoToStream, queued, fresh, valid, fits, refreshed,
    erased]

/-- A live packet that fits is counted and written behind the others. -/
theorem stored_of_live
    (queued : state.sendPacketInfoQueue = info :: rest)
    (fresh : info.key ∉ state.packetSequenceSet)
    (valid : ¬ (maxSendBufferSize < info.useSize ∨ info.useSize = 0))
    (fits : ¬ maxSendBufferSize < state.totalSendSize + info.useSize)
    (live : info.erased = false) :
    ∃ scheduled,
      storedSendPacketInfoToStream state =
        (.success,
          { state with
            sendPacketInfoQueue := rest
            totalSendSize := state.totalSendSize + info.useSize
            scheduled
            packetSequenceSet := info.key :: state.packetSequenceSet
            rioSendBuffer :=
              write state.rioSendBuffer state.totalSendSize info.buffer }) := by
  obtain ⟨scheduled, refreshed⟩ := refresh_eq info
    { state with
      sendPacketInfoQueue := rest
      totalSendSize := state.totalSendSize + info.useSize }
  refine ⟨scheduled, ?_⟩
  simp [storedSendPacketInfoToStream, queued, fresh, valid, fits, refreshed,
    live]

end Stored

/-! ## The loop -/

theorem liveFrames_of_seen
    {seen : List PacketSequenceSetKey} {info : SendPacketInfo}
    (rest : List SendPacketInfo)
    (present : info.key ∈ seen) :
    liveFrames seen (info :: rest) = liveFrames seen rest := by
  simp [liveFrames, present]

theorem liveFrames_of_erased
    (seen : List PacketSequenceSetKey) {info : SendPacketInfo}
    (rest : List SendPacketInfo)
    (erased : info.erased = true) :
    liveFrames seen (info :: rest) = liveFrames seen rest := by
  simp [liveFrames, erased]

theorem liveFrames_of_live
    {seen : List PacketSequenceSetKey} {info : SendPacketInfo}
    (rest : List SendPacketInfo)
    (fresh : info.key ∉ seen)
    (live : info.erased = false) :
    liveFrames seen (info :: rest) =
      info.buffer ++ liveFrames (info.key :: seen) rest := by
  simp [liveFrames, fresh, live]

/-- What a successful run of the loop over a queue has done, with `taken` the
packets that it consumed. -/
structure LoopOutcome
    (state : StreamState)
    (length : Nat)
    (after : StreamState)
    (taken : List SendPacketInfo) : Prop where
  /-- The queue loses the taken packets and the reserved one. -/
  queue_eq :
    state.sendPacketInfoQueue =
      taken ++ after.reservedSendPacketInfo.toList ++ after.sendPacketInfoQueue
  /-- Every live frame is counted. -/
  counted :
    state.totalSendSize +
      (liveFrames state.packetSequenceSet taken).length ≤ length
  /-- Without an erased packet that fits, the frames follow one another. -/
  frames_of_none :
    noneErasedAfterCount state.packetSequenceSet state.totalSendSize
        state.sendPacketInfoQueue = true →
      front after.rioSendBuffer length =
        front state.rioSendBuffer state.totalSendSize ++
          liveFrames state.packetSequenceSet taken
  /-- With one, more bytes are counted than the live frames have. -/
  gap_of_some :
    noneErasedAfterCount state.packetSequenceSet state.totalSendSize
        state.sendPacketInfoQueue = false →
      state.totalSendSize +
        (liveFrames state.packetSequenceSet taken).length < length

section Extended

variable {state after : StreamState} {info : SendPacketInfo}
variable {length : Nat} {rest taken : List SendPacketInfo}

/-- A repeated packet adds nothing. -/
theorem LoopOutcome.of_seen
    (queued : state.sendPacketInfoQueue = info :: rest)
    (seen : info.key ∈ state.packetSequenceSet)
    (outcome :
      LoopOutcome { state with sendPacketInfoQueue := rest } length after
        taken) :
    LoopOutcome state length after (info :: taken) where
  queue_eq := by
    have same := outcome.queue_eq
    simp only at same
    rw [queued, same]
    rfl
  counted := by
    rw [liveFrames_of_seen taken seen]
    exact outcome.counted
  frames_of_none := by
    rw [liveFrames_of_seen taken seen]
    simpa [queued, noneErasedAfterCount, seen] using outcome.frames_of_none
  gap_of_some := by
    rw [liveFrames_of_seen taken seen]
    simpa [queued, noneErasedAfterCount, seen] using outcome.gap_of_some

/-- A packet that does not fit ends the datagram and is reserved. -/
theorem LoopOutcome.of_full
    (queued : state.sendPacketInfoQueue = info :: rest)
    (fresh : info.key ∉ state.packetSequenceSet)
    (valid : ¬ (maxSendBufferSize < info.useSize ∨ info.useSize = 0))
    (full : maxSendBufferSize < state.totalSendSize + info.useSize) :
    LoopOutcome state state.totalSendSize
      { state with
        sendPacketInfoQueue := rest
        reservedSendPacketInfo := some info } [] where
  queue_eq := by simp [queued]
  counted := by simp [liveFrames]
  frames_of_none := by simp [liveFrames]
  gap_of_some := by simp [queued, noneErasedAfterCount, fresh, valid, full]

/-- An erased packet that fits leaves a gap of its size. -/
theorem LoopOutcome.of_erased
    (queued : state.sendPacketInfoQueue = info :: rest)
    (fresh : info.key ∉ state.packetSequenceSet)
    (valid : ¬ (maxSendBufferSize < info.useSize ∨ info.useSize = 0))
    (fits : ¬ maxSendBufferSize < state.totalSendSize + info.useSize)
    (erased : info.erased = true)
    {scheduled : List SendPacketInfo}
    (outcome :
      LoopOutcome
        { state with
          sendPacketInfoQueue := rest
          totalSendSize := state.totalSendSize + info.useSize
          scheduled } length after taken) :
    LoopOutcome state length after (info :: taken) where
  queue_eq := by
    have same := outcome.queue_eq
    simp only at same
    rw [queued, same]
    rfl
  counted := by
    have counted := outcome.counted
    simp only at counted
    rw [liveFrames_of_erased _ taken erased]
    omega
  frames_of_none := by
    intro clean
    simp [queued, noneErasedAfterCount, fresh, valid, fits, erased] at clean
  gap_of_some := by
    intro _
    have counted := outcome.counted
    simp only at counted
    rw [liveFrames_of_erased _ taken erased]
    have positive : 0 < info.useSize := by omega
    omega

/-- A live packet that fits is appended. -/
theorem LoopOutcome.of_live
    (queued : state.sendPacketInfoQueue = info :: rest)
    (fresh : info.key ∉ state.packetSequenceSet)
    (valid : ¬ (maxSendBufferSize < info.useSize ∨ info.useSize = 0))
    (fits : ¬ maxSendBufferSize < state.totalSendSize + info.useSize)
    (live : info.erased = false)
    {scheduled : List SendPacketInfo}
    (outcome :
      LoopOutcome
        { state with
          sendPacketInfoQueue := rest
          totalSendSize := state.totalSendSize + info.useSize
          scheduled
          packetSequenceSet := info.key :: state.packetSequenceSet
          rioSendBuffer :=
            write state.rioSendBuffer state.totalSendSize info.buffer }
        length after taken) :
    LoopOutcome state length after (info :: taken) where
  queue_eq := by
    have same := outcome.queue_eq
    simp only at same
    rw [queued, same]
    rfl
  counted := by
    have counted := outcome.counted
    simp only [SendPacketInfo.useSize] at counted
    rw [liveFrames_of_live taken fresh live, List.length_append]
    omega
  frames_of_none := by
    intro clean
    simp only [queued, noneErasedAfterCount, fresh, valid, fits, live,
      if_false, Bool.not_false, Bool.true_and] at clean
    rw [liveFrames_of_live taken fresh live, ← List.append_assoc,
      ← front_write]
    exact outcome.frames_of_none clean
  gap_of_some := by
    intro erasedLater
    simp only [queued, noneErasedAfterCount, fresh, valid, fits, live,
      if_false, Bool.not_false, Bool.true_and] at erasedLater
    have gap := outcome.gap_of_some erasedLater
    simp only [SendPacketInfo.useSize] at gap
    rw [liveFrames_of_live taken fresh live, List.length_append]
    omega

end Extended

/-- The loop over a whole queue, by induction on the queue. -/
theorem storeLoop_outcome
    (queue : List SendPacketInfo)
    {state after : StreamState}
    {length : Nat}
    (queued : state.sendPacketInfoQueue = queue)
    (unreserved : state.reservedSendPacketInfo = none)
    (succeeded : storeLoop queue.length state = ((true, length), after)) :
    ∃ taken, LoopOutcome state length after taken := by
  induction queue generalizing state with
  | nil =>
      simp only [List.length_nil, storeLoop, Prod.mk.injEq, true_and]
        at succeeded
      obtain ⟨rfl, rfl⟩ := succeeded
      refine ⟨[], ?_, ?_, ?_, ?_⟩ <;>
        simp [queued, unreserved, liveFrames, noneErasedAfterCount]
  | cons info rest inductionHypothesis =>
      rw [List.length_cons, storeLoop] at succeeded
      by_cases seen : info.key ∈ state.packetSequenceSet
      · rw [stored_of_seen queued seen] at succeeded
        obtain ⟨taken, outcome⟩ :=
          inductionHypothesis (by rfl) (by exact unreserved) succeeded
        exact ⟨info :: taken, outcome.of_seen queued seen⟩
      by_cases valid : ¬ (maxSendBufferSize < info.useSize ∨ info.useSize = 0)
      swap
      · have failed := stored_of_invalid queued seen (not_not.mp valid)
        cases stored : storedSendPacketInfoToStream state with
        | mk result stopped =>
            rw [stored] at failed succeeded
            subst failed
            simp at succeeded
      by_cases full : maxSendBufferSize < state.totalSendSize + info.useSize
      · rw [stored_of_full queued seen valid full] at succeeded
        simp only [Prod.mk.injEq, true_and] at succeeded
        obtain ⟨rfl, rfl⟩ := succeeded
        exact ⟨[], .of_full queued seen valid full⟩
      cases erased : info.erased with
      | true =>
          obtain ⟨scheduled, stored⟩ :=
            stored_of_erased queued seen valid full erased
          rw [stored] at succeeded
          obtain ⟨taken, outcome⟩ :=
            inductionHypothesis (by rfl) (by exact unreserved) succeeded
          exact ⟨info :: taken,
            outcome.of_erased queued seen valid full erased⟩
      | false =>
          obtain ⟨scheduled, stored⟩ :=
            stored_of_live queued seen valid full erased
          rw [stored] at succeeded
          obtain ⟨taken, outcome⟩ :=
            inductionHypothesis (by rfl) (by exact unreserved) succeeded
          exact ⟨info :: taken, outcome.of_live queued seen valid full erased⟩

/-! ## The whole call -/

/-- What a successful call has done: the outcome of the loop behind the reserved
packet. -/
theorem makeSendStream_outcome
    {session after : StreamState}
    {length : Nat}
    (succeeded : makeSendStream session = ((true, length), after)) :
    ∃ taken,
      session.sendPacketInfoQueue =
        taken ++ after.reservedSendPacketInfo.toList ++
          after.sendPacketInfoQueue ∧
      (NoQueuedPacketErasedAfterCount session →
        front after.rioSendBuffer length =
          liveFrames [] (session.reservedSendPacketInfo.toList ++ taken)) ∧
      (¬ NoQueuedPacketErasedAfterCount session →
        (liveFrames [] (session.reservedSendPacketInfo.toList ++ taken)).length
          < length) := by
  unfold makeSendStream reservedSendPacketInfoToStream at succeeded
  cases reserved : session.reservedSendPacketInfo with
  | none =>
      simp only [reserved] at succeeded
      obtain ⟨taken, outcome⟩ := storeLoop_outcome _ (by rfl) (by rfl) succeeded
      refine ⟨taken, outcome.queue_eq, ?_, ?_⟩
      · simpa [NoQueuedPacketErasedAfterCount, reserved] using
          outcome.frames_of_none
      · simpa [NoQueuedPacketErasedAfterCount, reserved] using
          outcome.gap_of_some
  | some info =>
      simp only [reserved] at succeeded
      by_cases oversized : maxSendBufferSize ≤ info.useSize
      · simp [oversized] at succeeded
      obtain ⟨scheduled, refreshed⟩ := refresh_eq info
        { session with
          reservedSendPacketInfo := none
          packetSequenceSet := []
          totalSendSize := 0 }
      simp only [oversized, if_false, refreshed] at succeeded
      cases erased : info.erased with
      | true =>
          simp only [erased, Bool.not_true] at succeeded
          obtain ⟨taken, outcome⟩ := storeLoop_outcome _ (by rfl) (by rfl) succeeded
          refine ⟨taken, outcome.queue_eq, ?_, ?_⟩
          · simpa [NoQueuedPacketErasedAfterCount, reserved, erased,
              liveFrames_of_erased] using outcome.frames_of_none
          · simpa [NoQueuedPacketErasedAfterCount, reserved, erased,
              liveFrames_of_erased] using outcome.gap_of_some
      | false =>
          simp only [erased, Bool.not_false, Nat.zero_add] at succeeded
          obtain ⟨taken, outcome⟩ := storeLoop_outcome _ (by rfl) (by rfl) succeeded
          have begins :
              front (write session.rioSendBuffer 0 info.buffer) info.useSize =
                info.buffer := by
            rw [SendPacketInfo.useSize]
            simpa using front_write session.rioSendBuffer 0 info.buffer
          refine ⟨taken, outcome.queue_eq, ?_, ?_⟩
          · simpa [NoQueuedPacketErasedAfterCount, reserved, erased,
              liveFrames_of_live, begins] using outcome.frames_of_none
          · simpa [NoQueuedPacketErasedAfterCount, reserved, erased,
              liveFrames_of_live, SendPacketInfo.useSize] using
              outcome.gap_of_some

/-- The datagram of a successful call consists of the live frames exactly when
no queued packet is erased at its turn after its size was found to fit. -/
theorem datagramIsLiveFrames_iff
    {session after : StreamState}
    {length : Nat}
    (succeeded : makeSendStream session = ((true, length), after)) :
    DatagramIsLiveFrames session length after ↔
      NoQueuedPacketErasedAfterCount session := by
  obtain ⟨taken, queue_eq, frames, gap⟩ := makeSendStream_outcome succeeded
  constructor
  · rintro ⟨other, other_eq, same⟩
    by_contra someErased
    obtain rfl : other = taken := by
      have both := other_eq.symm.trans queue_eq
      simpa [List.append_assoc] using both
    have lengths := congrArg List.length same
    rw [front_length] at lengths
    have short := gap someErased
    omega
  · intro noneErased
    exact ⟨taken, queue_eq, frames noneErased⟩

/-- A queue of two packets, the first of which is acknowledged before its turn,
over a buffer that an earlier datagram has filled. -/
def acknowledgedSession : StreamState where
  reservedSendPacketInfo := none
  sendPacketInfoQueue :=
    [{ isReplyType := false
       sendPacketSequence := 1
       buffer := [1, 1]
       isErasedPacketInfo := { beforeLock := true } },
      { isReplyType := false
        sendPacketSequence := 2
        buffer := [2, 2, 2] }]
  rioSendBuffer _ := 0x99

theorem datagramIsLiveFrames_iff_acknowledged :
    DatagramIsLiveFrames acknowledgedSession 5
        (makeSendStream acknowledgedSession).2 ↔
      NoQueuedPacketErasedAfterCount acknowledgedSession :=
  datagramIsLiveFrames_iff (by rfl)

/-- The two bytes counted for the acknowledged packet are stale. -/
theorem acknowledgedSession_stale :
    (makeSendStream acknowledgedSession).1 = (true, 5) ∧
    front (makeSendStream acknowledgedSession).2.rioSendBuffer 5 =
      [0x99, 0x99, 2, 2, 2] ∧
    ¬ DatagramIsLiveFrames acknowledgedSession 5
      (makeSendStream acknowledgedSession).2 := by
  refine ⟨by decide, by decide, ?_⟩
  rintro ⟨taken, queue_eq, same⟩
  have emptied :
      (makeSendStream acknowledgedSession).2.reservedSendPacketInfo.toList ++
        (makeSendStream acknowledgedSession).2.sendPacketInfoQueue = [] := by
    decide
  rw [List.append_assoc, emptied, List.append_nil] at queue_eq
  rw [← queue_eq] at same
  exact absurd same (by decide)

end SendStream
end MultiSocketRudp
