import MultiSocketRudp.Server.SendStream

/-!
# The size of a datagram

`MakeSendStream` batches packets against the size of the send buffer, and the
client reads a datagram with a buffer of half that size.  A datagram that is
larger is lost as a whole.  The batch ends with the queue or before the first
packet that does not fit the send buffer any more, and the datagram can be
received exactly when the packets up to there fit the receive buffer.
-/

namespace MultiSocketRudp
namespace SendStream

/-! ## What is counted -/

/-- The bytes that packets add to a datagram that holds some keys.  An erased
packet is counted, but its key is not remembered. -/
def countedSize
    (seen : List PacketSequenceSetKey) : List SendPacketInfo → Nat
  | [] => 0
  | info :: rest =>
      if info.key ∈ seen then countedSize seen rest
      else
        info.useSize +
          countedSize (if info.erased then seen else info.key :: seen) rest

/-- The keys of a datagram that has taken packets. -/
def countedKeys
    (seen : List PacketSequenceSetKey) :
    List SendPacketInfo → List PacketSequenceSetKey
  | [] => seen
  | info :: rest =>
      if info.key ∈ seen then countedKeys seen rest
      else countedKeys (if info.erased then seen else info.key :: seen) rest

/-- The bytes of the reserved packet, which is not counted when it is erased. -/
def reservedSize (session : StreamState) : Nat :=
  match session.reservedSendPacketInfo with
  | none => 0
  | some info => if info.erased then 0 else info.useSize

/-- The key of the reserved packet. -/
def reservedKeys (session : StreamState) : List PacketSequenceSetKey :=
  match session.reservedSendPacketInfo with
  | none => []
  | some info => if info.erased then [] else [info.key]

/-- Every packet has a size that the send path accepts. -/
structure Accepted (session : StreamState) : Prop where
  queued :
    ∀ info ∈ session.sendPacketInfoQueue,
      0 < info.useSize ∧ info.useSize ≤ maxSendBufferSize
  reserved :
    ∀ info ∈ session.reservedSendPacketInfo,
      0 < info.useSize ∧ info.useSize < maxSendBufferSize

/-- The next packet, if there is one, does not fit behind the batch. -/
def EndsBefore
    (seen : List PacketSequenceSetKey) (total : Nat)
    (batch rest : List SendPacketInfo) : Prop :=
  ∀ next ∈ rest.head?,
    next.key ∉ countedKeys seen batch ∧
      maxSendBufferSize < total + countedSize seen batch + next.useSize

/-- The reserved packet and the queued packets, up to the first that does not fit
the send buffer behind them, have together no more bytes than are received. -/
def FitsReceiveBuffer (session : StreamState) : Prop :=
  ∃ batch rest,
    session.sendPacketInfoQueue = batch ++ rest ∧
      reservedSize session + countedSize (reservedKeys session) batch ≤
        recvBufferSize ∧
      EndsBefore (reservedKeys session) (reservedSize session) batch rest

/-! ## Batches behind one another -/

theorem countedSize_append
    (seen : List PacketSequenceSetKey) (first second : List SendPacketInfo) :
    countedSize seen (first ++ second) =
      countedSize seen first + countedSize (countedKeys seen first) second := by
  induction first generalizing seen with
  | nil => simp [countedSize, countedKeys]
  | cons info rest inductionHypothesis =>
      simp only [List.cons_append, countedSize, countedKeys]
      split
      · exact inductionHypothesis seen
      · rw [inductionHypothesis, Nat.add_assoc]

/-- A batch that ends is no larger than one that goes on behind it. -/
theorem EndsBefore.lt_of_append
    {seen : List PacketSequenceSetKey} {total : Nat}
    {batch following rest : List SendPacketInfo}
    (ends : EndsBefore seen total batch (following ++ rest))
    (more : following ≠ []) :
    maxSendBufferSize <
      total + countedSize seen (batch ++ following) := by
  cases following with
  | nil => exact absurd rfl more
  | cons next following =>
      obtain ⟨fresh, full⟩ := ends next rfl
      rw [countedSize_append, countedSize, if_neg fresh]
      omega

/-- A queue has one batch that fits the send buffer and ends. -/
theorem EndsBefore.unique
    {seen : List PacketSequenceSetKey} {total : Nat}
    {batch rest other otherRest : List SendPacketInfo}
    (same : batch ++ rest = other ++ otherRest)
    (ends : EndsBefore seen total batch rest)
    (fits : total + countedSize seen batch ≤ maxSendBufferSize)
    (otherEnds : EndsBefore seen total other otherRest)
    (otherFits : total + countedSize seen other ≤ maxSendBufferSize) :
    batch = other := by
  rcases List.append_eq_append_iff.mp same with
    ⟨following, rfl, rfl⟩ | ⟨following, rfl, rfl⟩
  · by_contra different
    have full := ends.lt_of_append fun none => different (by simp [none])
    omega
  · by_contra different
    have full := otherEnds.lt_of_append fun none => different (by simp [none])
    omega

/-! ## The loop -/

/-- A packet that fits is counted, whether it is erased or not. -/
theorem storeLoop_of_fits
    {state : StreamState} {info : SendPacketInfo} {rest : List SendPacketInfo}
    (queued : state.sendPacketInfoQueue = info :: rest)
    (fresh : info.key ∉ state.packetSequenceSet)
    (valid : ¬ (maxSendBufferSize < info.useSize ∨ info.useSize = 0))
    (fits : ¬ maxSendBufferSize < state.totalSendSize + info.useSize)
    (count : Nat) :
    ∃ next,
      storeLoop (count + 1) state = storeLoop count next ∧
        next.sendPacketInfoQueue = rest ∧
        next.totalSendSize = state.totalSendSize + info.useSize ∧
        next.packetSequenceSet =
          if info.erased then state.packetSequenceSet
          else info.key :: state.packetSequenceSet := by
  cases erased : info.erased with
  | true =>
      obtain ⟨scheduled, stored⟩ :=
        stored_of_erased queued fresh valid fits erased
      rw [storeLoop, stored]
      exact ⟨_, rfl, rfl, rfl, rfl⟩
  | false =>
      obtain ⟨scheduled, stored⟩ :=
        stored_of_live queued fresh valid fits erased
      rw [storeLoop, stored]
      exact ⟨_, rfl, rfl, rfl, rfl⟩

/-- The loop takes a batch that ends. -/
theorem storeLoop_size
    (queue : List SendPacketInfo)
    (state : StreamState)
    (queued : state.sendPacketInfoQueue = queue)
    (accepted :
      ∀ info ∈ queue, 0 < info.useSize ∧ info.useSize ≤ maxSendBufferSize)
    (room : state.totalSendSize ≤ maxSendBufferSize) :
    ∃ batch rest,
      queue = batch ++ rest ∧
        (storeLoop queue.length state).1 =
          (true,
            state.totalSendSize +
              countedSize state.packetSequenceSet batch) ∧
        state.totalSendSize + countedSize state.packetSequenceSet batch ≤
          maxSendBufferSize ∧
        EndsBefore state.packetSequenceSet state.totalSendSize batch rest := by
  induction queue generalizing state with
  | nil =>
      exact ⟨[], [], rfl, rfl, by simpa [countedSize] using room, nofun⟩
  | cons info rest inductionHypothesis =>
      have restAccepted (other) (member : other ∈ rest) :=
        accepted other (List.mem_cons_of_mem _ member)
      have valid :
          ¬ (maxSendBufferSize < info.useSize ∨ info.useSize = 0) := by
        have bounds := accepted info List.mem_cons_self
        omega
      rw [List.length_cons]
      by_cases seen : info.key ∈ state.packetSequenceSet
      · obtain ⟨batch, remaining, split, size, fits, ends⟩ :=
          inductionHypothesis { state with sendPacketInfoQueue := rest } rfl
            restAccepted room
        rw [storeLoop, stored_of_seen queued seen]
        refine ⟨info :: batch, remaining, by rw [split]; rfl, ?_, ?_, ?_⟩
        · simpa only [countedSize, seen, if_true] using size
        · simpa only [countedSize, seen, if_true] using fits
        · simpa only [EndsBefore, countedSize, countedKeys, seen, if_true]
            using ends
      by_cases full : maxSendBufferSize < state.totalSendSize + info.useSize
      · rw [storeLoop, stored_of_full queued seen valid full]
        refine ⟨[], info :: rest, rfl, rfl, by simpa [countedSize] using room,
          ?_⟩
        intro next isNext
        obtain rfl : info = next := Option.some.inj isNext
        exact ⟨seen, by simpa [countedSize] using full⟩
      · obtain ⟨next, loop, nextQueue, nextTotal, nextSet⟩ :=
          storeLoop_of_fits queued seen valid full rest.length
        obtain ⟨batch, remaining, split, size, fits, ends⟩ :=
          inductionHypothesis next nextQueue restAccepted
            (nextTotal ▸ Nat.not_lt.mp full)
        rw [nextTotal, nextSet] at size fits ends
        rw [loop]
        refine ⟨info :: batch, remaining, by rw [split]; rfl, ?_, ?_, ?_⟩
        · simpa only [countedSize, seen, if_false, Nat.add_assoc] using size
        · simpa only [countedSize, seen, if_false, Nat.add_assoc] using fits
        · simpa only [EndsBefore, countedSize, countedKeys, seen, if_false,
            Nat.add_assoc] using ends

/-! ## The whole call -/

/-- The loop begins behind the reserved packet. -/
theorem makeSendStream_eq_storeLoop
    {session : StreamState}
    (accepted : Accepted session) :
    ∃ next,
      makeSendStream session =
          storeLoop session.sendPacketInfoQueue.length next ∧
        next.sendPacketInfoQueue = session.sendPacketInfoQueue ∧
        next.totalSendSize = reservedSize session ∧
        next.packetSequenceSet = reservedKeys session := by
  have reservedAccepted := accepted.reserved
  unfold makeSendStream reservedSendPacketInfoToStream reservedSize
    reservedKeys
  cases reserved : session.reservedSendPacketInfo with
  | none => exact ⟨_, rfl, rfl, rfl, rfl⟩
  | some info =>
      have bounds := reservedAccepted info reserved
      obtain ⟨scheduled, refreshed⟩ := refresh_eq info
        { session with
          reservedSendPacketInfo := none
          packetSequenceSet := []
          totalSendSize := 0 }
      simp only [Nat.not_le.mpr bounds.2, if_false, refreshed]
      cases info.erased with
      | true => exact ⟨_, rfl, rfl, rfl, rfl⟩
      | false => exact ⟨_, rfl, rfl, Nat.zero_add _, rfl⟩

/-- A call takes a batch that ends behind the reserved packet. -/
theorem makeSendStream_size
    {session : StreamState}
    (accepted : Accepted session) :
    ∃ batch rest,
      session.sendPacketInfoQueue = batch ++ rest ∧
        (makeSendStream session).1 =
          (true,
            reservedSize session +
              countedSize (reservedKeys session) batch) ∧
        reservedSize session + countedSize (reservedKeys session) batch ≤
          maxSendBufferSize ∧
        EndsBefore (reservedKeys session) (reservedSize session) batch
          rest := by
  obtain ⟨next, loop, queue, total, keys⟩ :=
    makeSendStream_eq_storeLoop accepted
  have room : reservedSize session ≤ maxSendBufferSize := by
    have reservedAccepted := accepted.reserved
    unfold reservedSize
    cases reserved : session.reservedSendPacketInfo with
    | none => exact Nat.zero_le _
    | some info =>
        have bounds := reservedAccepted info reserved
        simp only
        split
        · exact Nat.zero_le _
        · exact bounds.2.le
  rw [loop, ← total, ← keys]
  exact storeLoop_size session.sendPacketInfoQueue next queue accepted.queued
    (total ▸ room)

/-- The datagram can be received exactly when the packets that it takes fit the
receive buffer. -/
theorem datagram_fits_iff
    {session : StreamState}
    (accepted : Accepted session) :
    (makeSendStream session).1.2 ≤ recvBufferSize ↔
      FitsReceiveBuffer session := by
  obtain ⟨batch, rest, split, size, fits, ends⟩ := makeSendStream_size accepted
  rw [size]
  constructor
  · intro received
    exact ⟨batch, rest, split, received, ends⟩
  · rintro ⟨other, otherRest, otherSplit, received, otherEnds⟩
    have sendable : recvBufferSize ≤ maxSendBufferSize := by decide
    obtain rfl :=
      ends.unique (split.symm.trans otherSplit) fits otherEnds
        (received.trans sendable)
    exact received

/-- Packets that can each be received alone can be received together exactly when
all of them have no more bytes than are received. -/
theorem fitsReceiveBuffer_iff_of_receivable
    {session : StreamState}
    (receivable :
      ∀ info ∈ session.sendPacketInfoQueue, info.useSize ≤ recvBufferSize) :
    FitsReceiveBuffer session ↔
      reservedSize session +
          countedSize (reservedKeys session) session.sendPacketInfoQueue ≤
        recvBufferSize := by
  constructor
  · rintro ⟨batch, rest, split, received, ends⟩
    cases rest with
    | nil => simpa [split] using received
    | cons next rest =>
        have full := (ends next rfl).2
        have small := receivable next (by simp [split])
        have twice : recvBufferSize + recvBufferSize ≤ maxSendBufferSize := by
          decide
        omega
  · intro received
    exact ⟨session.sendPacketInfoQueue, [], by simp, received, nofun⟩

/-- A backlog of data packets of equal sizes. -/
def backlog (count size : Nat) : StreamState where
  reservedSendPacketInfo := none
  sendPacketInfoQueue :=
    (List.range count).map fun index =>
      { isReplyType := false
        sendPacketSequence := BitVec.ofNat 64 (index + 1)
        buffer := List.replicate size 0 }
  rioSendBuffer _ := 0

theorem useSize_backlog
    {count size : Nat} {info : SendPacketInfo}
    (queued : info ∈ (backlog count size).sendPacketInfoQueue) :
    info.useSize = size := by
  obtain ⟨index, -, rfl⟩ := List.mem_map.mp queued
  exact List.length_replicate

theorem accepted_backlog
    (count : Nat) {size : Nat}
    (positive : 0 < size) (small : size ≤ maxSendBufferSize) :
    Accepted (backlog count size) where
  queued info member := by
    rw [useSize_backlog member]
    exact ⟨positive, small⟩
  reserved _ none := nomatch none

theorem datagram_fits_iff_backlog :
    (makeSendStream (backlog 16 1000)).1.2 ≤ recvBufferSize ↔
      FitsReceiveBuffer (backlog 16 1000) :=
  datagram_fits_iff (accepted_backlog 16 (by decide) (by decide))

/-- Seventeen packets of a thousand bytes are batched into a datagram that is too
large to be received. -/
theorem backlog_lost :
    Accepted (backlog 17 1000) ∧
      (∀ info ∈ (backlog 17 1000).sendPacketInfoQueue,
        info.useSize ≤ recvBufferSize) ∧
      ¬ (makeSendStream (backlog 17 1000)).1.2 ≤ recvBufferSize := by
  refine ⟨accepted_backlog 17 (by decide) (by decide), ?_, by decide +kernel⟩
  intro info member
  rw [useSize_backlog member]
  decide

end SendStream
end MultiSocketRudp
