import MultiSocketRudp.Server.SendStream

/-!
# Deferring a packet

A packet that does not fit behind the others becomes the reserved packet, and
the next datagram begins with it.  Its size is checked twice: it may be as large
as the send buffer when it is taken from the queue, and has to be smaller when
it is taken back.  A packet of exactly that size is deferred behind any other
and then disconnects the session.
-/

namespace MultiSocketRudp
namespace SendStream

open WriteBuffer

namespace SendPacketInfo

/-- The packet as its erased flag is loaded at another time. -/
def reload (info : SendPacketInfo) (loads : ErasedLoads) : SendPacketInfo :=
  { info with isErasedPacketInfo := loads }

/-- `StoredSendPacketInfoToStream` reports the size as invalid. -/
def Invalid (info : SendPacketInfo) : Prop :=
  maxSendBufferSize < info.useSize ∨ info.useSize = 0

end SendPacketInfo

/-- The state in which `MakeSendStream` takes the reserved packet. -/
def cleared (session : StreamState) : StreamState :=
  { session with packetSequenceSet := [], totalSendSize := 0 }

/-- A call of `MakeSendStream` handles the reserved packet as a deferred one: it
fails neither with it nor because of it, and the packet is in front of the
datagram or skipped. -/
structure HandledFirst (info : SendPacketInfo) (session : StreamState) :
    Prop where
  /-- The packet itself is no error. -/
  accepted :
    (reservedSendPacketInfoToStream (cleared session)).1 ≠ .occuredError
  /-- The session is not disconnected because of it. -/
  connected :
    (reservedSendPacketInfoToStream (cleared session)).2.disconnectedByError =
      session.disconnectedByError
  /-- Only a queued packet of an invalid size makes the call fail or disconnects
  the session. -/
  blames :
    (makeSendStream session).1.1 = false ∨
        (makeSendStream session).2.disconnectedByError ≠
          session.disconnectedByError →
      ∃ other ∈ session.sendPacketInfoQueue, other.Invalid
  /-- A packet that is not erased is in front of the send buffer, and counted in
  the datagram of a call that succeeds. -/
  first :
    info.erased = false →
      front (makeSendStream session).2.rioSendBuffer info.useSize =
          info.buffer ∧
        ((makeSendStream session).1.1 = true →
          info.useSize ≤ (makeSendStream session).1.2)
  /-- An erased packet is skipped: the call does what it does without it. -/
  skipped :
    info.erased = true →
      makeSendStream session =
        makeSendStream { session with reservedSendPacketInfo := none }

/-- Whatever packet `StoredSendPacketInfoToStream` defers, the next call of
`MakeSendStream` handles it, whatever is queued by then and whether the packet
has been erased or not. -/
def DeferringIsHarmless (state : StreamState) : Prop :=
  ∀ after info,
    storedSendPacketInfoToStream state = (.streamIsFull, after) →
    after.reservedSendPacketInfo = some info →
    ∀ loads session,
      session.reservedSendPacketInfo = some (info.reload loads) →
        HandledFirst (info.reload loads) session

/-- The packet in front of the queue has the size of the send buffer, is not in
the datagram yet, and the datagram is not empty. -/
def DefersFullSize (state : StreamState) : Prop :=
  ∃ info rest,
    state.sendPacketInfoQueue = info :: rest ∧
      info.key ∉ state.packetSequenceSet ∧
      info.useSize = maxSendBufferSize ∧
      0 < state.totalSendSize

/-! ## What the loop leaves alone -/

/-- A datagram goes on: it keeps what it holds, takes from the queue, and
disconnects the session only because of a queued packet. -/
structure Extends (state next : StreamState) : Prop where
  grows : state.totalSendSize ≤ next.totalSendSize
  taken : next.sendPacketInfoQueue ⊆ state.sendPacketInfoQueue
  keeps :
    ∀ {length}, length ≤ state.totalSendSize →
      front next.rioSendBuffer length = front state.rioSendBuffer length
  blames :
    next.disconnectedByError = state.disconnectedByError ∨
      ∃ other ∈ state.sendPacketInfoQueue, other.Invalid

namespace Extends

theorem refl (state : StreamState) : Extends state state where
  grows := le_rfl
  taken := List.Subset.refl _
  keeps _ := rfl
  blames := .inl rfl

theorem trans
    {first middle last : StreamState}
    (begins : Extends first middle)
    (continues : Extends middle last) :
    Extends first last where
  grows := begins.grows.trans continues.grows
  taken := List.Subset.trans continues.taken begins.taken
  keeps within :=
    (continues.keeps (within.trans begins.grows)).trans (begins.keeps within)
  blames := by
    rcases continues.blames with same | ⟨other, queued, invalid⟩
    · rw [same]
      exact begins.blames
    · exact .inr ⟨other, begins.taken queued, invalid⟩

end Extends

/-- One packet of the queue. -/
theorem stored_extends (state : StreamState) :
    Extends state (storedSendPacketInfoToStream state).2 := by
  cases queued : state.sendPacketInfoQueue with
  | nil =>
      have same : (storedSendPacketInfoToStream state).2 = state := by
        simp [storedSendPacketInfoToStream, queued]
      exact same.symm ▸ .refl state
  | cons info rest =>
      have popped : rest ⊆ state.sendPacketInfoQueue :=
        queued ▸ List.subset_cons_self info rest
      have member : info ∈ state.sendPacketInfoQueue :=
        queued ▸ List.mem_cons_self
      by_cases seen : info.key ∈ state.packetSequenceSet
      · rw [stored_of_seen queued seen]
        exact { Extends.refl state with taken := popped }
      by_cases invalid : maxSendBufferSize < info.useSize ∨ info.useSize = 0
      · have stopped :
            (storedSendPacketInfoToStream state).2 =
              { state with
                sendPacketInfoQueue := rest
                disconnectedByError := true } := by
          simp [storedSendPacketInfoToStream, queued, seen, invalid]
        rw [stopped]
        exact
          { Extends.refl state with
            taken := popped
            blames := .inr ⟨info, member, invalid⟩ }
      by_cases full : maxSendBufferSize < state.totalSendSize + info.useSize
      · rw [stored_of_full queued seen invalid full]
        exact { Extends.refl state with taken := popped }
      cases erased : info.erased with
      | true =>
          obtain ⟨scheduled, stored⟩ :=
            stored_of_erased queued seen invalid full erased
          rw [stored]
          exact
            { Extends.refl state with
              grows := Nat.le_add_right _ _
              taken := popped }
      | false =>
          obtain ⟨scheduled, stored⟩ :=
            stored_of_live queued seen invalid full erased
          rw [stored]
          exact
            { grows := Nat.le_add_right _ _
              taken := popped
              keeps := fun within => front_write_of_le _ _ within
              blames := .inl rfl }

/-- A packet that is an error has an invalid size. -/
theorem invalid_of_occuredError
    (state : StreamState)
    (failed : (storedSendPacketInfoToStream state).1 = .occuredError) :
    ∃ other ∈ state.sendPacketInfoQueue, other.Invalid := by
  cases queued : state.sendPacketInfoQueue with
  | nil => simp [storedSendPacketInfoToStream, queued] at failed
  | cons info rest =>
      refine ⟨info, List.mem_cons_self, ?_⟩
      by_contra valid
      by_cases seen : info.key ∈ state.packetSequenceSet
      · rw [stored_of_seen queued seen] at failed
        cases failed
      by_cases full : maxSendBufferSize < state.totalSendSize + info.useSize
      · rw [stored_of_full queued seen valid full] at failed
        cases failed
      cases erased : info.erased with
      | true =>
          obtain ⟨_, stored⟩ := stored_of_erased queued seen valid full erased
          rw [stored] at failed
          cases failed
      | false =>
          obtain ⟨_, stored⟩ := stored_of_live queued seen valid full erased
          rw [stored] at failed
          cases failed

/-- What the loop does with a datagram that has been begun. -/
structure LoopExtends
    (state : StreamState)
    (result : (Bool × Nat) × StreamState) : Prop where
  extension : Extends state result.2
  counted : result.1.1 = true → state.totalSendSize ≤ result.1.2
  failed :
    result.1.1 = false → ∃ other ∈ state.sendPacketInfoQueue, other.Invalid

/-- The whole loop, by induction on the number of packets. -/
theorem storeLoop_extends (count : Nat) (state : StreamState) :
    LoopExtends state (storeLoop count state) := by
  induction count generalizing state with
  | zero => exact ⟨.refl state, fun _ => le_rfl, by rintro ⟨⟩⟩
  | succ count inductionHypothesis =>
      have one := stored_extends state
      have failure := invalid_of_occuredError state
      cases stored : storedSendPacketInfoToStream state with
      | mk result next =>
          rw [stored] at one failure
          have later := inductionHypothesis next
          have continues : LoopExtends state (storeLoop count next) :=
            { extension := one.trans later.extension
              counted := fun succeeded =>
                one.grows.trans (later.counted succeeded)
              failed := fun fails => by
                obtain ⟨other, queued, invalid⟩ := later.failed fails
                exact ⟨other, one.taken queued, invalid⟩ }
          rw [storeLoop, stored]
          cases result with
          | occuredError => exact ⟨one, by simp, fun _ => failure rfl⟩
          | streamIsFull => exact ⟨one, fun _ => one.grows, by simp⟩
          | success => exact continues
          | isErasedPacket => exact continues
          | isSent => exact continues

/-! ## The call behind a deferral -/

/-- Nothing is scheduled for an erased packet. -/
theorem refresh_of_erased
    {info : SendPacketInfo}
    (state : StreamState)
    (erased : info.erased = true) :
    refreshRetransmissionSendPacketInfo info state = (false, state) := by
  unfold refreshRetransmissionSendPacketInfo
  unfold SendPacketInfo.erased at erased
  cases beforeLock : info.isErasedPacketInfo.beforeLock with
  | true => rfl
  | false =>
      simp only [beforeLock, Bool.false_or, Bool.and_eq_true,
        Bool.not_eq_true'] at erased
      simp [erased.1, erased.2]

section Reserved

variable {info : SendPacketInfo} {session : StreamState}

/-- A reserved packet of the size of the send buffer ends the call. -/
theorem reserved_of_full
    (session : StreamState)
    (reserved : session.reservedSendPacketInfo = some info)
    (full : maxSendBufferSize ≤ info.useSize) :
    (reservedSendPacketInfoToStream (cleared session)).1 = .occuredError := by
  simp [reservedSendPacketInfoToStream, cleared, reserved, full]

/-- An erased one is dropped. -/
theorem reserved_of_erased
    (reserved : session.reservedSendPacketInfo = some info)
    (small : info.useSize < maxSendBufferSize)
    (erased : info.erased = true) :
    reservedSendPacketInfoToStream (cleared session) =
      (.isErasedPacket,
        cleared { session with reservedSendPacketInfo := none }) := by
  simp [reservedSendPacketInfoToStream, cleared, reserved,
    Nat.not_le.mpr small, refresh_of_erased _ erased]

/-- Any other is in front of the datagram. -/
theorem reserved_of_live
    (reserved : session.reservedSendPacketInfo = some info)
    (small : info.useSize < maxSendBufferSize)
    (live : info.erased = false) :
    ∃ scheduled,
      reservedSendPacketInfoToStream (cleared session) =
        (.success,
          { session with
            reservedSendPacketInfo := none
            rioSendBuffer := write session.rioSendBuffer 0 info.buffer
            packetSequenceSet := [info.key]
            totalSendSize := info.useSize
            scheduled }) := by
  obtain ⟨scheduled, refreshed⟩ := refresh_eq info
    { cleared session with reservedSendPacketInfo := none }
  refine ⟨scheduled, ?_⟩
  rw [live] at refreshed
  simp only [cleared] at refreshed
  simp [reservedSendPacketInfoToStream, cleared, reserved,
    Nat.not_le.mpr small, refreshed]

/-- The loop behind a reserved packet that is no error. -/
theorem makeSendStream_eq
    {result : StreamReturn} {next : StreamState}
    (begins :
      reservedSendPacketInfoToStream (cleared session) = (result, next))
    (accepted : result ≠ .occuredError) :
    makeSendStream session =
      storeLoop session.sendPacketInfoQueue.length next := by
  rw [cleared] at begins
  cases result with
  | occuredError => exact absurd rfl accepted
  | success | isErasedPacket | streamIsFull | isSent =>
      simp only [makeSendStream, begins]

/-- A call without a reserved packet is its loop. -/
theorem makeSendStream_of_none (session : StreamState) :
    makeSendStream { session with reservedSendPacketInfo := none } =
      storeLoop session.sendPacketInfoQueue.length
        (cleared { session with reservedSendPacketInfo := none }) :=
  rfl

/-- An error of the loop is due to a queued packet. -/
theorem LoopExtends.blames
    {state : StreamState} {result : (Bool × Nat) × StreamState}
    (loop : LoopExtends state result)
    (fails :
      result.1.1 = false ∨
        result.2.disconnectedByError ≠ state.disconnectedByError) :
    ∃ other ∈ state.sendPacketInfoQueue, other.Invalid := by
  rcases fails with failed | changed
  · exact loop.failed failed
  · exact loop.extension.blames.resolve_left changed

/-- A reserved packet that is smaller than the send buffer is handled. -/
theorem handledFirst_of_lt
    (reserved : session.reservedSendPacketInfo = some info)
    (small : info.useSize < maxSendBufferSize) :
    HandledFirst info session := by
  cases erased : info.erased with
  | true =>
      have begins := reserved_of_erased reserved small erased
      have call := makeSendStream_eq begins nofun
      have loop := storeLoop_extends session.sendPacketInfoQueue.length
        (cleared { session with reservedSendPacketInfo := none })
      rw [← call] at loop
      exact
        { accepted := by rw [begins]; nofun
          connected := by rw [begins]; rfl
          blames := loop.blames
          first := fun live => by rw [erased] at live; nomatch live
          skipped := fun _ => call.trans (makeSendStream_of_none session).symm }
  | false =>
      obtain ⟨scheduled, begins⟩ := reserved_of_live reserved small erased
      have call := makeSendStream_eq begins nofun
      have loop := storeLoop_extends session.sendPacketInfoQueue.length
        { session with
          reservedSendPacketInfo := none
          rioSendBuffer := write session.rioSendBuffer 0 info.buffer
          packetSequenceSet := [info.key]
          totalSendSize := info.useSize
          scheduled }
      rw [← call] at loop
      have written := front_write session.rioSendBuffer 0 info.buffer
      rw [front_zero, List.nil_append, Nat.zero_add] at written
      exact
        { accepted := by rw [begins]; nofun
          connected := by rw [begins]
          blames := loop.blames
          first := fun _ =>
            ⟨(loop.extension.keeps le_rfl).trans written, loop.counted⟩
          skipped := fun gone => by rw [erased] at gone; nomatch gone }

end Reserved

/-- What is deferred is the packet in front of the queue. -/
theorem deferred_eq
    {state after : StreamState} {info : SendPacketInfo}
    (stored : storedSendPacketInfoToStream state = (.streamIsFull, after))
    (deferred : after.reservedSendPacketInfo = some info) :
    ∃ rest,
      state.sendPacketInfoQueue = info :: rest ∧
        info.key ∉ state.packetSequenceSet ∧
        info.useSize ≤ maxSendBufferSize ∧
        maxSendBufferSize < state.totalSendSize + info.useSize := by
  cases queued : state.sendPacketInfoQueue with
  | nil => simp [storedSendPacketInfoToStream, queued] at stored
  | cons front rest =>
      simp only [storedSendPacketInfoToStream, queued] at stored
      split at stored
      · cases (Prod.mk.inj stored).1
      next fresh =>
      split at stored
      · cases (Prod.mk.inj stored).1
      next valid =>
      split at stored
      · next full =>
        obtain rfl := (Prod.mk.inj stored).2
        obtain rfl := Option.some.inj deferred
        exact ⟨rest, rfl, fresh, by omega, full⟩
      · split at stored <;> cases (Prod.mk.inj stored).1

/-- A packet of the size of the send buffer is deferred, and is an error then. -/
theorem DefersFullSize.not_harmless
    {state : StreamState}
    (defers : DefersFullSize state) :
    ¬ DeferringIsHarmless state := by
  obtain ⟨info, rest, queued, fresh, size, begun⟩ := defers
  have valid : ¬ (maxSendBufferSize < info.useSize ∨ info.useSize = 0) := by
    rw [size]
    decide
  have full : maxSendBufferSize < state.totalSendSize + info.useSize := by
    omega
  intro harmless
  let session : StreamState := { state with reservedSendPacketInfo := info }
  have handled :=
    harmless _ info (stored_of_full queued fresh valid full) rfl
      info.isErasedPacketInfo session rfl
  exact handled.accepted (reserved_of_full session rfl size.ge)

/-- A reserved packet of the size of the send buffer disconnects the session. -/
theorem makeSendStream_of_full
    {session : StreamState} {info : SendPacketInfo}
    (reserved : session.reservedSendPacketInfo = some info)
    (full : maxSendBufferSize ≤ info.useSize) :
    (makeSendStream session).1 = (false, 0) ∧
      (makeSendStream session).2.disconnectedByError = true := by
  simp [makeSendStream, reservedSendPacketInfoToStream, reserved, full]

/-- A session that sends a packet of two bytes and then another packet. -/
def crowdedSession (info : SendPacketInfo) : StreamState where
  reservedSendPacketInfo := none
  sendPacketInfoQueue :=
    [{ isReplyType := false, sendPacketSequence := 1, buffer := [1, 1] }, info]
  rioSendBuffer _ := 0

/-- The session when the small packet is in the datagram. -/
def crowdedState (info : SendPacketInfo) : StreamState :=
  (storedSendPacketInfoToStream (crowdedSession info)).2

/-- The other packet is deferred when it has the size of the send buffer. -/
theorem makeSendStream_crowdedSession
    {info : SendPacketInfo}
    (fresh : info.key ≠ ⟨false, 1⟩)
    (size : info.useSize = maxSendBufferSize) :
    makeSendStream (crowdedSession info) =
      ((true, 2),
        { crowdedState info with
          sendPacketInfoQueue := []
          reservedSendPacketInfo := some info }) := by
  have missing : info.key ∉ (crowdedState info).packetSequenceSet := fun seen =>
    fresh (List.mem_singleton.mp seen)
  have valid : ¬ (maxSendBufferSize < info.useSize ∨ info.useSize = 0) := by
    rw [size]
    decide
  have full :
      maxSendBufferSize < (crowdedState info).totalSendSize + info.useSize := by
    have begun : 0 < (crowdedState info).totalSendSize := Nat.zero_lt_two
    omega
  have queued : (crowdedState info).sendPacketInfoQueue = [info] := rfl
  have loop :
      makeSendStream (crowdedSession info) = storeLoop 1 (crowdedState info) :=
    rfl
  rw [loop, storeLoop, stored_of_full queued missing valid full]
  rfl

/-- A packet of the size of the send buffer. -/
def fullSizePacket : SendPacketInfo where
  isReplyType := false
  sendPacketSequence := 2
  buffer := List.replicate maxSendBufferSize 0

end SendStream
end MultiSocketRudp
