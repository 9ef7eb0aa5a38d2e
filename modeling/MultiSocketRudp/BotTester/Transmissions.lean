import MultiSocketRudp.BotTester.RudpSession
import MultiSocketRudp.Lib.TransitionSystem

/-!
# How often a bot sends a packet

A packet that has been stored leaves the store by a reply only, or with the whole
session.  Meanwhile it is sent once by its call and at most sixteen times by the
retransmission task, which gives the session up at the seventeenth.

The invariant counts transmissions: each was made by the call or is one of the
counted retransmissions, and what is missing is about to be sent.
-/

namespace MultiSocketRudp
namespace BotTester
namespace RudpSession

open TransitionSystems

variable {Payload : Type}

/-- The runs of a bot session, whatever the network does. -/
def system (sessionId : SessionIdType) :
    TransitionSystem (Session Payload) (SessionLabel Payload) where
  Initial session := session = .created sessionId
  step session label := (sessionStep session label).map Prod.fst

/-- The step takes a new sequence. -/
def SessionLabel.takesSequence : SessionLabel Payload → Bool
  | .allocate _ _ | .disconnectAsync _ => true
  | _ => false

/-- The sequences do not wrap around. -/
def SequencesDistinct
    (session : Session Payload) (label : SessionLabel Payload) : Prop :=
  label.takesSequence = true → session.sent.length < 2 ^ 64 - 1

instance (session : Session Payload) (label : SessionLabel Payload) :
    Decidable (SequencesDistinct session label) :=
  inferInstanceAs
    (Decidable (label.takesSequence = true →
      session.sent.length < 2 ^ 64 - 1))

/-! ## What a session promises -/

/-- Packets are kept until they are acknowledged, and sent at most so often. -/
structure Persistent (session : Session Payload) : Prop where
  /-- A stored packet is in the store until a reply removes it. -/
  kept : session.isDisposed = false → ∀ packetSequence,
    (session.infos packetSequence).isSome →
      packetSequence ∈ session.bufferStore ∨
        packetSequence ∈ session.dropped
  /-- A reply removes a packet once. -/
  removed_once : session.dropped.Nodup
  /-- A packet is sent once and retransmitted at most sixteen times. -/
  limited : ∀ packetSequence,
    session.transmissions.count packetSequence ≤ retransmissionMaxCount + 1
  /-- The session is given up for a packet that has been retransmitted sixteen
  times. -/
  gives_up : ∀ packetSequence,
    session.retransmission = .givingUp packetSequence →
      retransmissionMaxCount ≤ session.transmissions.count packetSequence

/-! ## The invariant -/

/-- The packet that a call has numbered. -/
def Call.numbers : Call Payload → Option PacketSequence
  | .idle => none
  | .encoded frame | .stored frame => some frame.packetSequence

/-- The packet that a call is about to send. -/
def Call.sends : Call Payload → Option PacketSequence
  | .stored frame => some frame.packetSequence
  | _ => none

theorem Call.numbers_of_sends
    {call : Call Payload} {packetSequence : PacketSequence}
    (sends : call.sends = some packetSequence) :
    call.numbers = some packetSequence := by
  cases call with
  | stored frame => exact sends
  | idle | encoded frame => cases sends

/-- The packet that the retransmission task is about to send. -/
def Retransmission.sends : Retransmission → Option PacketSequence
  | .refreshed _ packetSequence _ => some packetSequence
  | _ => none

/-- The packets that the retransmission task has references to. -/
def Retransmission.references : Retransmission → List PacketSequence
  | .scanning _ remaining => remaining
  | .due _ packetSequence remaining | .exceeded _ packetSequence remaining
  | .refreshed _ packetSequence remaining => packetSequence :: remaining
  | .givingUp packetSequence => [packetSequence]
  | .waiting | .clockRead _ | .ended => []

/-- The packet that the retransmission task has found sent too often. -/
def Retransmission.exceeds : Retransmission → Option PacketSequence
  | .exceeded _ packetSequence _ | .givingUp packetSequence =>
      some packetSequence
  | _ => none

/-- Calls and objects are named by the sequences that have been taken, each call
by its own. -/
structure Numbered (session : Session Payload) : Prop where
  length_eq : session.isDisposed = false →
    session.lastSendSequence.toNat = session.sent.length
  calls : ∀ call packetSequence,
    (session.calls call).numbers = some packetSequence →
      packetSequence.toNat ≤ session.sent.length
  apart : ∀ call other packetSequence,
    (session.calls call).numbers = some packetSequence →
    (session.calls other).numbers = some packetSequence → call = other
  infos : ∀ packetSequence, (session.infos packetSequence).isSome →
    packetSequence.toNat ≤ session.sent.length
  /-- What is only encoded is not stored. -/
  encoded : ∀ call packetSequence,
    (session.calls call).numbers = some packetSequence →
    (session.calls call).sends = none →
      session.infos packetSequence = none
  stored : ∀ call packetSequence,
    (session.calls call).sends = some packetSequence →
      (session.infos packetSequence).isSome

/-- Transmissions that are about to be made by the retransmission task. -/
def pending (session : Session Payload) (packetSequence : PacketSequence) : Nat :=
  if session.retransmission.sends = some packetSequence then 1 else 0

/-- Every transmission is accounted for. -/
structure Counted (session : Session Payload) : Prop where
  untouched : ∀ packetSequence, session.infos packetSequence = none →
    session.transmissions.count packetSequence = 0
  /-- A call is about to send the packet for the first time. -/
  first : ∀ call packetSequence info,
    (session.calls call).sends = some packetSequence →
    session.infos packetSequence = some info →
      session.transmissions.count packetSequence +
        pending session packetSequence = info.retransmissionCount
  /-- The packet has been sent by its call. -/
  later : ∀ packetSequence info,
    session.infos packetSequence = some info →
    (∀ call, (session.calls call).sends ≠ some packetSequence) →
      session.transmissions.count packetSequence +
        pending session packetSequence = info.retransmissionCount + 1
  limit : ∀ packetSequence info, session.infos packetSequence = some info →
    info.retransmissionCount ≤ retransmissionMaxCount
  references : ∀ packetSequence ∈ session.retransmission.references,
    (session.infos packetSequence).isSome
  exceeds : ∀ packetSequence info,
    session.retransmission.exceeds = some packetSequence →
    session.infos packetSequence = some info →
      info.retransmissionCount = retransmissionMaxCount

/-- A stored packet is in the store or has been removed by a reply. -/
structure Stored (session : Session Payload) : Prop where
  inside : ∀ packetSequence ∈ session.bufferStore,
    (session.infos packetSequence).isSome ∧
      packetSequence ∉ session.dropped
  kept : session.isDisposed = false → ∀ packetSequence,
    (session.infos packetSequence).isSome →
      packetSequence ∈ session.bufferStore ∨
        packetSequence ∈ session.dropped
  unique : session.bufferStore.Nodup
  dropped : ∀ packetSequence ∈ session.dropped,
    (session.infos packetSequence).isSome
  dropped_unique : session.dropped.Nodup

/-- The invariant of a session. -/
structure Invariant (session : Session Payload) : Prop where
  numbered : Numbered session
  counted : Counted session
  stored : Stored session

/-! ## Numbers -/

namespace Numbered

variable {session next : Session Payload}

/-- Nothing but the content of objects has changed. -/
theorem congr
    (holds : Numbered session)
    (disposed : next.isDisposed = false → session.isDisposed = false)
    (last : next.isDisposed = false →
      next.lastSendSequence = session.lastSendSequence)
    (sent : next.sent = session.sent)
    (calls : next.calls = session.calls)
    (infos : ∀ packetSequence, (next.infos packetSequence).isSome =
      (session.infos packetSequence).isSome) :
    Numbered next where
  length_eq running := by
    rw [last running, sent]
    exact holds.length_eq (disposed running)
  calls call packetSequence numbers := by
    rw [sent]
    exact holds.calls call packetSequence (calls ▸ numbers)
  apart call other packetSequence numbers otherNumbers :=
    holds.apart call other packetSequence (calls ▸ numbers)
      (calls ▸ otherNumbers)
  infos packetSequence found := by
    rw [sent]
    exact holds.infos packetSequence (infos packetSequence ▸ found)
  encoded call packetSequence numbers sends := by
    have absent := holds.encoded call packetSequence (calls ▸ numbers)
      (calls ▸ sends)
    rw [← Option.isNone_iff_eq_none, ← Option.not_isSome, infos, absent]
    rfl
  stored call packetSequence sends := by
    rw [infos]
    exact holds.stored call packetSequence (calls ▸ sends)

theorem created (sessionId : SessionIdType) :
    Numbered (Session.created sessionId : Session Payload) := by
  have only {call : Nat} {packetSequence : PacketSequence}
      (numbers :
        ((Session.created sessionId : Session Payload).calls call).numbers =
          some packetSequence) :
      call = 0 ∧ packetSequence = 0 := by
    simp only [Session.created, Function.update_apply] at numbers
    split at numbers
    next first => exact ⟨first, (Option.some.inj numbers).symm⟩
    next => cases numbers
  exact
    { length_eq := fun _ => rfl
      calls := by
        intro call packetSequence numbers
        rw [(only numbers).2]
        exact Nat.zero_le _
      apart := by
        intro call other packetSequence numbers otherNumbers
        rw [(only numbers).1, (only otherNumbers).1]
      infos := by simp [Session.created]
      encoded := fun _ _ _ _ => rfl
      stored := by
        intro call packetSequence sends
        have first := (only (Call.numbers_of_sends sends)).1
        subst first
        cases sends }

/-- The next sequence is above all that have been taken. -/
theorem next_toNat
    (holds : Numbered session)
    (running : session.isDisposed = false)
    (below : session.sent.length < 2 ^ 64 - 1) :
    (session.lastSendSequence + 1).toNat = session.sent.length + 1 := by
  rw [BitVec.toNat_add, holds.length_eq running]
  exact Nat.mod_eq_of_lt (by
    change session.sent.length + 1 < 2 ^ 64
    omega)

/-- `SendPacket` takes a sequence. -/
theorem allocate
    {call : Nat} {payload : Payload}
    (holds : Numbered session)
    (running : session.isDisposed = false)
    (below : session.sent.length < 2 ^ 64 - 1) :
    Numbered
      { session with
        lastSendSequence := session.lastSendSequence + 1
        sent := session.sent ++ [some payload]
        calls :=
          Function.update session.calls call
            (.encoded
              (.send ⟨session.lastSendSequence + 1, some payload⟩)) } := by
  have next_eq := holds.next_toNat running below
  have length : (session.sent ++ [some payload]).length =
      session.sent.length + 1 := List.length_append
  have above {other : Nat} {packetSequence : PacketSequence}
      (numbers : (session.calls other).numbers = some packetSequence) :
      packetSequence ≠ session.lastSendSequence + 1 := by
    rintro rfl
    have bound := holds.calls other _ numbers
    omega
  refine
    { length_eq := fun _ => next_eq.trans length.symm
      calls := fun other packetSequence numbers => ?_
      apart := fun first second packetSequence numbers otherNumbers => ?_
      infos := fun packetSequence found => ?_
      encoded := fun other packetSequence numbers sends => ?_
      stored := fun other packetSequence sends => ?_ }
  · dsimp only at numbers ⊢
    rw [length]
    rw [Function.update_apply] at numbers
    split at numbers
    · cases numbers
      exact next_eq.le
    · exact (holds.calls other packetSequence numbers).trans (Nat.le_succ _)
  · dsimp only at numbers otherNumbers
    rw [Function.update_apply] at numbers otherNumbers
    split at numbers
    next isCall =>
      split at otherNumbers
      next isOther => rw [isCall, isOther]
      next =>
        cases numbers
        exact absurd rfl (above otherNumbers)
    next =>
      split at otherNumbers
      next =>
        cases otherNumbers
        exact absurd rfl (above numbers)
      next => exact holds.apart first second packetSequence numbers otherNumbers
  · dsimp only
    rw [length]
    exact (holds.infos packetSequence found).trans (Nat.le_succ _)
  · dsimp only at numbers sends ⊢
    rw [Function.update_apply] at numbers sends
    split at numbers
    · cases numbers
      by_contra known
      have bound := holds.infos _ (Option.ne_none_iff_isSome.mp known)
      change (session.lastSendSequence + 1).toNat ≤ _ at bound
      omega
    · rw [if_neg ‹_›] at sends
      exact holds.encoded other packetSequence numbers sends
  · dsimp only at sends ⊢
    rw [Function.update_apply] at sends
    split at sends
    · cases sends
    · exact holds.stored other packetSequence sends

/-- `SendPacketInternal` stores a packet. -/
theorem enqueueSendBuffer
    {call : Nat} {frame : ReceivePath.ClientFrame (Option Payload)}
    {now : Timestamp} {bufferStore : List PacketSequence}
    (holds : Numbered session)
    (stands : session.calls call = .encoded frame) :
    Numbered
      { session with
        infos :=
          Function.update session.infos frame.packetSequence
            (some { sentBuffer := frame, sendTimeStampMs := now })
        bufferStore
        calls := Function.update session.calls call (.stored frame) } := by
  have mine : (session.calls call).numbers = some frame.packetSequence := by
    rw [stands]
    rfl
  have same (other : Nat) :
      (Function.update session.calls call (.stored frame) other).numbers =
        (session.calls other).numbers := by
    rw [Function.update_apply]
    split
    next isCall =>
      rw [isCall, mine]
      rfl
    next => rfl
  refine
    { length_eq := holds.length_eq
      calls := fun other packetSequence numbers =>
        holds.calls other packetSequence ((same other).symm.trans numbers)
      apart := fun first second packetSequence numbers otherNumbers =>
        holds.apart first second packetSequence
          ((same first).symm.trans numbers)
          ((same second).symm.trans otherNumbers)
      infos := fun packetSequence found => ?_
      encoded := fun other packetSequence numbers sends => ?_
      stored := fun other packetSequence sends => ?_ }
  · dsimp only at found
    rw [Function.update_apply] at found
    split at found
    next isNew =>
      rw [isNew]
      exact holds.calls call _ mine
    next => exact holds.infos packetSequence found
  · dsimp only at sends ⊢
    have numbersOld := (same other).symm.trans numbers
    rw [Function.update_apply] at sends
    split at sends
    next => cases sends
    next isOther =>
      have distinct : packetSequence ≠ frame.packetSequence := by
        rintro rfl
        exact isOther (holds.apart other call _ numbersOld mine)
      rw [Function.update_of_ne distinct]
      exact holds.encoded other packetSequence numbersOld sends
  · dsimp only at sends ⊢
    rw [Function.update_apply] at sends ⊢
    split
    · rfl
    · split at sends
      next => cases sends; contradiction
      next => exact holds.stored other packetSequence sends

/-- A call has sent its packet. -/
theorem sendDatagram
    {call : Nat} {transmissions : List PacketSequence}
    (holds : Numbered session) :
    Numbered
      { session with
        calls := Function.update session.calls call .idle
        transmissions } := by
  have before {other : Nat} {packetSequence : PacketSequence}
      (numbers :
        (Function.update session.calls call .idle other).numbers =
          some packetSequence) :
      session.calls other =
        Function.update session.calls call .idle other := by
    rw [Function.update_apply] at numbers ⊢
    split at numbers
    · cases numbers
    · rw [if_neg ‹_›]
  refine
    { length_eq := holds.length_eq
      calls := fun other packetSequence numbers =>
        holds.calls other packetSequence (before numbers ▸ numbers)
      apart := fun first second packetSequence numbers otherNumbers =>
        holds.apart first second packetSequence (before numbers ▸ numbers)
          (before otherNumbers ▸ otherNumbers)
      infos := holds.infos
      encoded := fun other packetSequence numbers sends =>
        holds.encoded other packetSequence (before numbers ▸ numbers)
          (before numbers ▸ sends)
      stored := fun other packetSequence sends =>
        holds.stored other packetSequence
          (before (Call.numbers_of_sends sends) ▸ sends) }

/-- `DisconnectAsync` takes a sequence for the DISCONNECT packet. -/
theorem disconnectAsync
    {retransmission : Retransmission}
    (holds : Numbered session)
    (running : session.isDisposed = false)
    (below : session.sent.length < 2 ^ 64 - 1) :
    Numbered
      { session with
        lastSendSequence := session.lastSendSequence + 1
        sent := session.sent ++ [none]
        disconnectSent := true
        retransmission } where
  length_eq _ := by
    change _ = (session.sent ++ [none]).length
    rw [List.length_append]
    exact holds.next_toNat running below
  calls call packetSequence numbers := by
    change _ ≤ (session.sent ++ [none]).length
    rw [List.length_append]
    exact (holds.calls call packetSequence numbers).trans (Nat.le_succ _)
  apart := holds.apart
  infos packetSequence found := by
    change _ ≤ (session.sent ++ [none]).length
    rw [List.length_append]
    exact (holds.infos packetSequence found).trans (Nat.le_succ _)
  encoded := holds.encoded
  stored := holds.stored

end Numbered

/-! ## Counts -/

namespace Counted

variable {session next : Session Payload}

/-- Only the retransmission task has moved on, with the same packet to send. -/
theorem moves
    (holds : Counted session)
    (infos : next.infos = session.infos)
    (calls : next.calls = session.calls)
    (transmissions : next.transmissions = session.transmissions)
    (sends : next.retransmission.sends = session.retransmission.sends)
    (references : ∀ packetSequence ∈ next.retransmission.references,
      (session.infos packetSequence).isSome)
    (exceeds : ∀ packetSequence info,
      next.retransmission.exceeds = some packetSequence →
      session.infos packetSequence = some info →
        info.retransmissionCount = retransmissionMaxCount) :
    Counted next := by
  have same (packetSequence : PacketSequence) :
      pending next packetSequence = pending session packetSequence := by
    rw [pending, sends]
    rfl
  exact
    { untouched := by
        rw [infos, transmissions]
        exact holds.untouched
      first := by
        intro call packetSequence info callSends found
        rw [transmissions, same]
        exact holds.first call packetSequence info (calls ▸ callSends)
          (infos ▸ found)
      later := by
        intro packetSequence info found others
        rw [transmissions, same]
        exact holds.later packetSequence info (infos ▸ found) (calls ▸ others)
      limit := by
        rw [infos]
        exact holds.limit
      references := by
        rw [infos]
        exact references
      exceeds := by
        rw [infos]
        exact exceeds }

theorem created (sessionId : SessionIdType) :
    Counted (Session.created sessionId : Session Payload) where
  untouched _ _ := rfl
  first _ _ _ _ found := by cases found
  later _ _ found := by cases found
  limit _ _ found := by cases found
  references _ member := by cases member
  exceeds _ _ exceeds := by cases exceeds

/-- An unknown packet is not about to be sent again. -/
theorem pending_eq_zero
    (holds : Counted session)
    {packetSequence : PacketSequence}
    (absent : session.infos packetSequence = none) :
    pending session packetSequence = 0 := by
  refine if_neg fun sends => ?_
  have referenced :
      packetSequence ∈ session.retransmission.references := by
    cases stands : session.retransmission with
    | refreshed now other remaining =>
        rw [stands] at sends
        obtain rfl := Option.some.inj sends
        exact List.mem_cons_self
    | _ =>
        rw [stands] at sends
        cases sends
  have known := holds.references packetSequence referenced
  rw [absent] at known
  cases known

/-- `SendPacket` takes a sequence. -/
theorem allocate
    {call : Nat} {frame : ReceivePath.ClientFrame (Option Payload)}
    {last : PacketSequence} {sent : List (Option Payload)}
    (holds : Counted session)
    (idle : session.calls call = .idle) :
    Counted
      { session with
        lastSendSequence := last
        sent
        calls := Function.update session.calls call (.encoded frame) } := by
  have same (other : Nat) :
      (Function.update session.calls call (.encoded frame) other).sends =
        (session.calls other).sends := by
    rw [Function.update_apply]
    split
    next isCall =>
      rw [isCall, idle]
      rfl
    next => rfl
  exact
    { holds with
      first := fun other packetSequence info sends =>
        holds.first other packetSequence info ((same other).symm.trans sends)
      later := fun packetSequence info found others =>
        holds.later packetSequence info found fun other =>
          (same other) ▸ others other }

/-- `SendPacketInternal` stores a packet. -/
theorem enqueueSendBuffer
    {call : Nat} {frame : ReceivePath.ClientFrame (Option Payload)}
    {now : Timestamp} {bufferStore : List PacketSequence}
    (holds : Counted session)
    (numbered : Numbered session)
    (stands : session.calls call = .encoded frame) :
    Counted
      { session with
        infos :=
          Function.update session.infos frame.packetSequence
            (some { sentBuffer := frame, sendTimeStampMs := now })
        bufferStore
        calls := Function.update session.calls call (.stored frame) } := by
  have mine : (session.calls call).numbers = some frame.packetSequence := by
    rw [stands]
    rfl
  have absent := numbered.encoded call frame.packetSequence mine (by
    rw [stands]
    rfl)
  have none := holds.pending_eq_zero absent
  have unsent := holds.untouched frame.packetSequence absent
  have distinct {packetSequence : PacketSequence}
      (known : (session.infos packetSequence).isSome) :
      packetSequence ≠ frame.packetSequence := by
    rintro rfl
    rw [absent] at known
    cases known
  refine
    { untouched := fun packetSequence missing => ?_
      first := fun other packetSequence info sends found => ?_
      later := fun packetSequence info found others => ?_
      limit := fun packetSequence info found => ?_
      references := fun packetSequence member => ?_
      exceeds := fun packetSequence info exceeds found => ?_ }
  · dsimp only at missing
    rw [Function.update_apply] at missing
    split at missing
    · cases missing
    · exact holds.untouched packetSequence missing
  · dsimp only at sends found
    rw [Function.update_apply] at sends
    split at sends
    next =>
      cases sends
      rw [Function.update_self] at found
      cases found
      change session.transmissions.count _ + pending session _ = 0
      rw [none, unsent]
    next =>
      have known := numbered.stored other packetSequence sends
      rw [Function.update_of_ne (distinct known)] at found
      exact holds.first other packetSequence info sends found
  · dsimp only at found others
    have isOther : packetSequence ≠ frame.packetSequence := by
      rintro rfl
      refine others call ?_
      rw [Function.update_self]
      rfl
    rw [Function.update_of_ne isOther] at found
    refine holds.later packetSequence info found fun other sends => ?_
    refine others other ?_
    rw [Function.update_of_ne]
    · exact sends
    · rintro rfl
      rw [stands] at sends
      cases sends
  · dsimp only at found
    rw [Function.update_apply] at found
    split at found
    · cases found
      exact Nat.zero_le _
    · exact holds.limit packetSequence info found
  · have known := holds.references packetSequence member
    change (Function.update session.infos _ _ packetSequence).isSome = true
    rw [Function.update_of_ne (distinct known)]
    exact known
  · have member : packetSequence ∈ session.retransmission.references := by
      change session.retransmission.exceeds = some packetSequence at exceeds
      cases phase : session.retransmission with
      | exceeded now other remaining =>
          rw [phase] at exceeds
          obtain rfl := Option.some.inj exceeds
          exact List.mem_cons_self
      | givingUp other =>
          rw [phase] at exceeds
          obtain rfl := Option.some.inj exceeds
          exact List.mem_cons_self
      | _ =>
          rw [phase] at exceeds
          cases exceeds
    dsimp only at found
    rw [Function.update_of_ne
      (distinct (holds.references packetSequence member))] at found
    exact holds.exceeds packetSequence info exceeds found

/-- A call has sent its packet. -/
theorem sendDatagram
    {call : Nat} {frame : ReceivePath.ClientFrame (Option Payload)}
    (holds : Counted session)
    (numbered : Numbered session)
    (stands : session.calls call = .stored frame) :
    Counted
      { session with
        calls := Function.update session.calls call .idle
        transmissions := frame.packetSequence :: session.transmissions } := by
  have mine : (session.calls call).sends = some frame.packetSequence := by
    rw [stands]
    rfl
  refine
    { holds with
      untouched := fun packetSequence absent => ?_
      first := fun other packetSequence info sends found => ?_
      later := fun packetSequence info found others => ?_ }
  · have distinct : frame.packetSequence ≠ packetSequence := by
      rintro rfl
      have known := numbered.stored call _ mine
      rw [absent] at known
      cases known
    change (frame.packetSequence :: session.transmissions).count _ = 0
    rw [List.count_cons_of_ne distinct]
    exact holds.untouched packetSequence absent
  · dsimp only at sends
    rw [Function.update_apply] at sends
    split at sends
    · cases sends
    next isOther =>
      have distinct : frame.packetSequence ≠ packetSequence := by
        rintro rfl
        exact isOther (numbered.apart other call _
          (Call.numbers_of_sends sends) (Call.numbers_of_sends mine))
      change (frame.packetSequence :: session.transmissions).count _ +
        pending session _ = _
      rw [List.count_cons_of_ne distinct]
      exact holds.first other packetSequence info sends found
  · change (frame.packetSequence :: session.transmissions).count _ +
      pending session _ = _
    by_cases isMine : frame.packetSequence = packetSequence
    · obtain rfl := isMine
      rw [List.count_cons_self]
      have before := holds.first call _ info mine found
      omega
    · rw [List.count_cons_of_ne isMine]
      refine holds.later packetSequence info found fun other sends => ?_
      refine others other ?_
      dsimp only
      rw [Function.update_of_ne]
      · exact sends
      · rintro rfl
        rw [mine] at sends
        exact isMine (Option.some.inj sends)

/-- A packet is marked as acknowledged. -/
theorem markAckReceived
    {receiver : Receiver} {now : Timestamp} {packetSequence : PacketSequence}
    (holds : Counted session) :
    Counted
      { session with
        infos :=
          Function.update session.infos packetSequence
            ((session.infos packetSequence).map
              fun info => info.markAckReceived now)
        receiver } := by
  have count (info : SendPacketInfo Payload) :
      (info.markAckReceived now).retransmissionCount =
        info.retransmissionCount := by
    unfold SendPacketInfo.markAckReceived
    split <;> rfl
  have before {other : PacketSequence} {info : SendPacketInfo Payload}
      (found :
        Function.update session.infos packetSequence
            ((session.infos packetSequence).map
              fun info => info.markAckReceived now) other = some info) :
      ∃ old, session.infos other = some old ∧
        info.retransmissionCount = old.retransmissionCount := by
    rw [Function.update_apply] at found
    split at found
    next same =>
      obtain ⟨old, known, rfl⟩ := Option.map_eq_some_iff.mp found
      exact ⟨old, same ▸ known, count old⟩
    next => exact ⟨info, found, rfl⟩
  refine
    { untouched := fun other absent => ?_
      first := fun call other info sends found => ?_
      later := fun other info found others => ?_
      limit := fun other info found => ?_
      references := fun other member => ?_
      exceeds := fun other info exceeds found => ?_ }
  · dsimp only at absent
    rw [Function.update_apply] at absent
    split at absent
    next same =>
      rw [Option.map_eq_none_iff, ← same] at absent
      exact holds.untouched other absent
    next => exact holds.untouched other absent
  · obtain ⟨old, known, same⟩ := before found
    rw [same]
    exact holds.first call other old sends known
  · obtain ⟨old, known, same⟩ := before found
    rw [same]
    exact holds.later other old known others
  · obtain ⟨old, known, same⟩ := before found
    rw [same]
    exact holds.limit other old known
  · have known := holds.references other member
    change (Function.update session.infos _ _ other).isSome = true
    rw [Function.update_apply]
    split
    next same =>
      rw [Option.isSome_map, ← same]
      exact known
    next => exact known
  · obtain ⟨old, known, same⟩ := before found
    rw [same]
    exact holds.exceeds other old exceeds known

/-- A due packet is refreshed. -/
theorem refresh
    {now : Timestamp} {packetSequence : PacketSequence}
    {remaining : List PacketSequence} {info : SendPacketInfo Payload}
    (holds : Counted session)
    (stands : session.retransmission = .due now packetSequence remaining)
    (found : session.infos packetSequence = some info)
    (below : info.isExceedMaxRetransmissionCount = false) :
    Counted
      { session with
        infos :=
          Function.update session.infos packetSequence
            (some (info.refreshSendPacketInfo now))
        retransmission := .refreshed now packetSequence remaining } := by
  have none (other : PacketSequence) : pending session other = 0 := by
    rw [pending, stands]
    rfl
  have one (infos : PacketSequence → Option (SendPacketInfo Payload))
      (other : PacketSequence) :
      pending
          { session with
            infos
            retransmission := .refreshed now packetSequence remaining }
          other =
        if packetSequence = other then 1 else 0 := by
    simp only [pending, Retransmission.sends, Option.some.injEq]
  have small : info.retransmissionCount < retransmissionMaxCount := by
    simpa [SendPacketInfo.isExceedMaxRetransmissionCount] using below
  refine
    { untouched := fun other absent => ?_
      first := fun call other changed sends known => ?_
      later := fun other changed known others => ?_
      limit := fun other changed known => ?_
      references := fun other member => ?_
      exceeds := fun other changed exceeds _ => by cases exceeds }
  · dsimp only at absent
    rw [Function.update_apply] at absent
    split at absent
    · cases absent
    · exact holds.untouched other absent
  · rw [one]
    dsimp only at known
    rw [Function.update_apply] at known
    split at known
    next same =>
      cases known
      have before := holds.first call other info sends (same ▸ found)
      rw [none] at before
      rw [if_pos same.symm]
      exact congrArg Nat.succ before
    next isOther =>
      have before := holds.first call other changed sends known
      rw [none] at before
      rw [if_neg (Ne.symm isOther)]
      exact before
  · rw [one]
    dsimp only at known
    rw [Function.update_apply] at known
    split at known
    next same =>
      cases known
      have before := holds.later other info (same ▸ found) others
      rw [none] at before
      rw [if_pos same.symm]
      exact congrArg Nat.succ before
    next isOther =>
      have before := holds.later other changed known others
      rw [none] at before
      rw [if_neg (Ne.symm isOther)]
      exact before
  · dsimp only at known
    rw [Function.update_apply] at known
    split at known
    · cases known
      exact small
    · exact holds.limit other changed known
  · change (Function.update session.infos _ _ other).isSome = true
    rw [Function.update_apply]
    split
    · rfl
    · refine holds.references other ?_
      rw [stands]
      exact member

/-- A refreshed packet has been sent again. -/
theorem resend
    {now : Timestamp} {packetSequence : PacketSequence}
    {remaining : List PacketSequence} {retransmission : Retransmission}
    (holds : Counted session)
    (stands :
      session.retransmission = .refreshed now packetSequence remaining)
    (sends : retransmission.sends = none)
    (exceeds : retransmission.exceeds = none)
    (references : ∀ other ∈ retransmission.references, other ∈ remaining) :
    Counted
      { session with
        retransmission
        transmissions := packetSequence :: session.transmissions } := by
  have refreshes : session.retransmission.sends = some packetSequence := by
    rw [stands]
    rfl
  have balance (other : PacketSequence) :
      (packetSequence :: session.transmissions).count other +
          pending
            { session with
              retransmission
              transmissions := packetSequence :: session.transmissions }
            other =
        session.transmissions.count other + pending session other := by
    simp only [pending, sends, refreshes, List.count_cons, beq_iff_eq,
      reduceCtorEq, if_false, Option.some.injEq, Nat.add_zero]
  have referenced : packetSequence ∈ session.retransmission.references := by
    rw [stands]
    exact List.mem_cons_self
  refine
    { untouched := fun other absent => ?_
      first := fun call other info callSends found =>
        (balance other).trans (holds.first call other info callSends found)
      later := fun other info found others =>
        (balance other).trans (holds.later other info found others)
      limit := holds.limit
      references := fun other member => ?_
      exceeds := fun other info otherExceeds => ?_ }
  · have distinct : packetSequence ≠ other := by
      rintro rfl
      have known := holds.references _ referenced
      rw [absent] at known
      cases known
    change (packetSequence :: session.transmissions).count other = 0
    rw [List.count_cons_of_ne distinct]
    exact holds.untouched other absent
  · refine holds.references other ?_
    rw [stands]
    exact List.mem_cons_of_mem _ (references other member)
  · rw [exceeds] at otherExceeds
    cases otherExceeds

end Counted

/-! ## The store -/

namespace Stored

variable {session next : Session Payload}

/-- The store and what has been removed from it are the same. -/
theorem congr
    (holds : Stored session)
    (disposed : next.isDisposed = false → session.isDisposed = false)
    (bufferStore : next.bufferStore = session.bufferStore)
    (dropped : next.dropped = session.dropped)
    (infos : ∀ packetSequence, (next.infos packetSequence).isSome =
      (session.infos packetSequence).isSome) :
    Stored next where
  inside packetSequence member := by
    rw [infos, dropped]
    exact holds.inside packetSequence (bufferStore ▸ member)
  kept running packetSequence known := by
    rw [bufferStore, dropped]
    exact holds.kept (disposed running) packetSequence
      (infos packetSequence ▸ known)
  unique := bufferStore ▸ holds.unique
  dropped packetSequence member := by
    rw [infos]
    exact holds.dropped packetSequence (dropped ▸ member)
  dropped_unique := dropped ▸ holds.dropped_unique

theorem created (sessionId : SessionIdType) :
    Stored (Session.created sessionId : Session Payload) where
  inside _ member := by cases member
  kept _ _ known := by cases known
  unique := List.nodup_nil
  dropped _ member := by cases member
  dropped_unique := List.nodup_nil

/-- A stored sequence is in the store, like those before it. -/
theorem mem_enqueueSendBuffer
    {bufferStore : List PacketSequence} {packetSequence other : PacketSequence} :
    other ∈ RudpSession.enqueueSendBuffer bufferStore packetSequence ↔
      other = packetSequence ∨ other ∈ bufferStore := by
  unfold RudpSession.enqueueSendBuffer
  split
  next known =>
    refine ⟨.inr, ?_⟩
    rintro (rfl | member)
    · exact known
    · exact member
  next => exact List.mem_orderedInsert _

/-- A packet is stored. -/
theorem enqueueSendBuffer
    {packetSequence : PacketSequence} {info : SendPacketInfo Payload}
    {calls : Nat → Call Payload}
    (holds : Stored session)
    (absent : session.infos packetSequence = none) :
    Stored
      { session with
        infos := Function.update session.infos packetSequence (some info)
        bufferStore :=
          RudpSession.enqueueSendBuffer session.bufferStore packetSequence
        calls } := by
  have grows {other : PacketSequence}
      (known : (session.infos other).isSome) :
      (Function.update session.infos packetSequence (some info)
        other).isSome := by
    rw [Function.update_apply]
    split
    · rfl
    · exact known
  have outside : packetSequence ∉ session.bufferStore := by
    intro member
    have known := (holds.inside packetSequence member).1
    rw [absent] at known
    cases known
  refine
    { inside := fun other member => ?_
      kept := fun running other known => ?_
      unique := ?_
      dropped := fun other member => grows (holds.dropped other member)
      dropped_unique := holds.dropped_unique }
  · rcases mem_enqueueSendBuffer.mp member with rfl | old
    · refine ⟨by simp, fun removed => ?_⟩
      have known := holds.dropped _ removed
      rw [absent] at known
      cases known
    · exact ⟨grows (holds.inside other old).1, (holds.inside other old).2⟩
  · dsimp only at known
    rw [Function.update_apply] at known
    split at known
    next same => exact .inl (mem_enqueueSendBuffer.mpr (.inl same))
    next =>
      exact (holds.kept running other known).imp_left fun member =>
        mem_enqueueSendBuffer.mpr (.inr member)
  · change (RudpSession.enqueueSendBuffer session.bufferStore
      packetSequence).Nodup
    unfold RudpSession.enqueueSendBuffer
    rw [if_neg outside]
    exact (List.perm_orderedInsert _ _ _).nodup_iff.mpr
      (List.nodup_cons.mpr ⟨outside, holds.unique⟩)

/-- A reply removes a packet. -/
theorem removeAndGetSendBuffer
    (holds : Stored session) (packetSequence : PacketSequence) :
    Stored
      { session with
        bufferStore := session.bufferStore.erase packetSequence
        dropped :=
          if packetSequence ∈ session.bufferStore then
            packetSequence :: session.dropped
          else session.dropped
        receiver := .idle } := by
  by_cases member : packetSequence ∈ session.bufferStore
  · simp only [if_pos member]
    refine
      { inside := fun other inside => ?_
        kept := fun running other known => ?_
        unique := holds.unique.erase _
        dropped := fun other removed => ?_
        dropped_unique :=
          List.nodup_cons.mpr
            ⟨(holds.inside packetSequence member).2,
              holds.dropped_unique⟩ }
    · have old := List.mem_of_mem_erase inside
      refine ⟨(holds.inside other old).1, fun removed => ?_⟩
      rcases List.mem_cons.mp removed with rfl | before
      · exact holds.unique.not_mem_erase inside
      · exact (holds.inside other old).2 before
    · rcases holds.kept running other known with inside | removed
      · by_cases same : other = packetSequence
        · exact .inr (same ▸ List.mem_cons_self)
        · exact .inl ((List.mem_erase_of_ne same).mpr inside)
      · exact .inr (List.mem_cons_of_mem _ removed)
    · rcases List.mem_cons.mp removed with rfl | before
      · exact (holds.inside _ member).1
      · exact holds.dropped other before
  · simp only [if_neg member, List.erase_of_not_mem member]
    exact holds.congr id rfl rfl fun _ => rfl

end Stored

/-! ## Runs -/

namespace Invariant

variable {session next : Session Payload}

theorem created (sessionId : SessionIdType) :
    Invariant (Session.created sessionId : Session Payload) :=
  ⟨.created sessionId, .created sessionId, .created sessionId⟩

/-- The retransmission task has moved on and has nothing to send. -/
theorem moves
    {retransmission : Retransmission}
    (holds : Invariant session)
    (sends : retransmission.sends = session.retransmission.sends)
    (references : ∀ packetSequence ∈ retransmission.references,
      (session.infos packetSequence).isSome)
    (exceeds : ∀ packetSequence info,
      retransmission.exceeds = some packetSequence →
      session.infos packetSequence = some info →
        info.retransmissionCount = retransmissionMaxCount) :
    Invariant { session with retransmission } where
  numbered := holds.numbered.congr id (fun _ => rfl) rfl rfl fun _ => rfl
  counted := holds.counted.moves rfl rfl rfl sends references exceeds
  stored := holds.stored.congr id rfl rfl fun _ => rfl

/-- Every step keeps the invariant. -/
theorem step
    {label : SessionLabel Payload}
    {enqueued : List (ReceivePath.ClientFrame (Option Payload))}
    (holds : Invariant session)
    (distinct : SequencesDistinct session label)
    (steps : sessionStep session label = some (next, enqueued)) :
    Invariant next := by
  simp only [sessionStep, Option.ite_none_left_eq_some,
    Bool.not_eq_true] at steps
  obtain ⟨running, steps⟩ := steps
  have references := holds.counted.references
  cases label with
  | allocate call payload =>
      dsimp only at steps
      split at steps
      next idle =>
        cases steps
        exact
          { numbered := holds.numbered.allocate running (distinct rfl)
            counted := holds.counted.allocate idle
            stored := holds.stored.congr id rfl rfl fun _ => rfl }
      next => cases steps
  | enqueueSendBuffer call now =>
      dsimp only at steps
      split at steps
      next frame stands =>
        cases steps
        have absent := holds.numbered.encoded call frame.packetSequence
          (by rw [stands]; rfl) (by rw [stands]; rfl)
        exact
          { numbered := holds.numbered.enqueueSendBuffer stands
            counted := holds.counted.enqueueSendBuffer holds.numbered stands
            stored := holds.stored.enqueueSendBuffer absent }
      next => cases steps
  | sendDatagram call outcome =>
      dsimp only at steps
      split at steps
      next frame stands =>
        cases steps
        exact
          { numbered := holds.numbered.sendDatagram
            counted := holds.counted.sendDatagram holds.numbered stands
            stored := holds.stored.congr id rfl rfl fun _ => rfl }
      next => cases steps
  | onSendReply packetSequence =>
      simp only [Option.ite_none_right_eq_some, Option.some.injEq,
        Prod.mk.injEq] at steps
      obtain ⟨-, rfl, -⟩ := steps
      split
      · exact holds
      · exact
          { numbered :=
              holds.numbered.congr id (fun _ => rfl) rfl rfl fun _ => rfl
            counted :=
              holds.counted.moves rfl rfl rfl rfl references
                holds.counted.exceeds
            stored := holds.stored.congr id rfl rfl fun _ => rfl }
  | markAckReceived now =>
      dsimp only at steps
      split at steps
      next packetSequence stands =>
        cases steps
        split
        · have infos (other : PacketSequence) :
              (Function.update session.infos packetSequence
                ((session.infos packetSequence).map
                  fun info => info.markAckReceived now) other).isSome =
                (session.infos other).isSome := by
            rw [Function.update_apply]
            split
            next same => rw [Option.isSome_map, same]
            next => rfl
          exact
            { numbered :=
                holds.numbered.congr id (fun _ => rfl) rfl rfl infos
              counted := holds.counted.markAckReceived
              stored := holds.stored.congr id rfl rfl infos }
        · exact
            { numbered :=
                holds.numbered.congr id (fun _ => rfl) rfl rfl fun _ => rfl
              counted :=
                holds.counted.moves rfl rfl rfl rfl references
                  holds.counted.exceeds
              stored := holds.stored.congr id rfl rfl fun _ => rfl }
      next => cases steps
  | removeAndGetSendBuffer =>
      dsimp only at steps
      split at steps
      next packetSequence stands =>
        cases steps
        exact
          { numbered :=
              holds.numbered.congr id (fun _ => rfl) rfl rfl fun _ => rfl
            counted :=
              holds.counted.moves rfl rfl rfl rfl references
                holds.counted.exceeds
            stored := holds.stored.removeAndGetSendBuffer packetSequence }
      next => cases steps
  | tick now =>
      simp only [Option.ite_none_right_eq_some, Option.some.injEq,
        Prod.mk.injEq] at steps
      obtain ⟨⟨waits, -⟩, rfl, -⟩ := steps
      refine holds.moves (by rw [waits]; rfl) ?_ ?_
      · intro packetSequence member
        cases member
      · intro packetSequence info exceeds
        cases exceeds
  | getAllSendPacketInfos =>
      dsimp only at steps
      split at steps
      next now stands =>
        cases steps
        refine holds.moves (by rw [stands]; rfl) ?_ ?_
        · exact fun packetSequence member =>
            (holds.stored.inside packetSequence member).1
        · intro packetSequence info exceeds
          cases exceeds
      next => cases steps
  | isRetransmissionTime =>
      dsimp only at steps
      split at steps
      next now packetSequence remaining stands =>
        rw [stands] at references
        obtain ⟨info, -, same⟩ := Option.map_eq_some_iff.mp steps
        cases same
        split
        · refine holds.moves (by rw [stands]; rfl) references ?_
          intro other changed exceeds
          cases exceeds
        · refine holds.moves (by rw [stands]; rfl) ?_ ?_
          · exact fun other member =>
              references other (List.mem_cons_of_mem _ member)
          · intro other changed exceeds
            cases exceeds
      next => cases steps
  | examine =>
      dsimp only at steps
      split at steps
      next now packetSequence remaining stands =>
        rw [stands] at references
        obtain ⟨info, found, same⟩ := Option.map_eq_some_iff.mp steps
        split at same
        · cases same
          refine holds.moves (by rw [stands]; rfl) ?_ ?_
          · exact fun other member =>
              references other (List.mem_cons_of_mem _ member)
          · intro other changed exceeds
            cases exceeds
        split at same
        next exceeded =>
          cases same
          refine holds.moves (by rw [stands]; rfl) references ?_
          intro other changed exceeds known
          obtain rfl : packetSequence = other := Option.some.inj exceeds
          obtain rfl := Option.some.inj (found.symm.trans known)
          exact Nat.le_antisymm (holds.counted.limit packetSequence info found)
            (by simpa [SendPacketInfo.isExceedMaxRetransmissionCount]
              using exceeded)
        next below =>
          cases same
          have infos (other : PacketSequence) :
              (Function.update session.infos packetSequence
                (some (info.refreshSendPacketInfo now)) other).isSome =
                (session.infos other).isSome := by
            rw [Function.update_apply]
            split
            next same => rw [same, found]; rfl
            next => rfl
          exact
            { numbered :=
                holds.numbered.congr id (fun _ => rfl) rfl rfl infos
              counted :=
                holds.counted.refresh stands found (by simpa using below)
              stored := holds.stored.congr id rfl rfl infos }
      next => cases steps
  | containsPacket =>
      dsimp only at steps
      split at steps
      next now packetSequence remaining stands =>
        have exceeds := holds.counted.exceeds
        rw [stands] at references exceeds
        cases steps
        split
        · refine holds.moves (by rw [stands]; rfl) ?_ exceeds
          intro other member
          obtain rfl := List.mem_singleton.mp member
          exact references other List.mem_cons_self
        · refine holds.moves (by rw [stands]; rfl) ?_ ?_
          · exact fun other member =>
              references other (List.mem_cons_of_mem _ member)
          · intro other changed impossible
            cases impossible
      next => cases steps
  | resend outcome =>
      dsimp only at steps
      split at steps
      next now packetSequence remaining stands =>
        obtain ⟨info, found, same⟩ := Option.map_eq_some_iff.mp steps
        cases same
        refine
          { numbered :=
              holds.numbered.congr id (fun _ => rfl) rfl rfl fun _ => rfl
            counted := ?_
            stored := holds.stored.congr id rfl rfl fun _ => rfl }
        refine holds.counted.resend stands ?_ ?_ ?_
        · split <;> rfl
        · split <;> rfl
        · split
          · intro other member
            cases member
          · exact fun other member => member
      next => cases steps
  | finish =>
      dsimp only at steps
      split at steps
      next now stands =>
        cases steps
        refine holds.moves (by rw [stands]; rfl) ?_ ?_
        · intro packetSequence member
          cases member
        · intro packetSequence info exceeds
          cases exceeds
      next => cases steps
  | disconnectAsync byRetransmission =>
      have below := distinct rfl
      dsimp only at steps
      split at steps
      · cases steps
        exact
          { numbered := holds.numbered.disconnectAsync running below
            counted :=
              holds.counted.moves rfl rfl rfl rfl references
                holds.counted.exceeds
            stored := holds.stored.congr id rfl rfl fun _ => rfl }
      next packetSequence stands =>
        cases steps
        refine
          { numbered := holds.numbered.disconnectAsync running below
            counted :=
              holds.counted.moves rfl rfl rfl (by rw [stands]; rfl) ?_ ?_
            stored := holds.stored.congr id rfl rfl fun _ => rfl }
        · intro other member
          cases member
        · intro other info exceeds
          cases exceeds
      · cases steps
  | cleanup =>
      cases steps
      exact
        { numbered :=
            holds.numbered.congr (fun impossible => by cases impossible)
              (fun impossible => by cases impossible) rfl rfl fun _ => rfl
          counted :=
            holds.counted.moves rfl rfl rfl rfl references
              holds.counted.exceeds
          stored :=
            { inside := fun _ member => by cases member
              kept := fun impossible => by cases impossible
              unique := List.nodup_nil
              dropped := holds.stored.dropped
              dropped_unique := holds.stored.dropped_unique } }

/-- The invariant gives the promise. -/
theorem persistent
    (holds : Invariant session) :
    Persistent session where
  kept := holds.stored.kept
  removed_once := holds.stored.dropped_unique
  limited packetSequence := by
    cases found : session.infos packetSequence with
    | none =>
        rw [holds.counted.untouched packetSequence found]
        exact Nat.zero_le _
    | some info =>
        have limit := holds.counted.limit packetSequence info found
        by_cases waits :
            ∃ call, (session.calls call).sends = some packetSequence
        · obtain ⟨call, sends⟩ := waits
          have count := holds.counted.first call packetSequence info sends found
          omega
        · have count := holds.counted.later packetSequence info found
            (not_exists.mp waits)
          omega
  gives_up packetSequence stands := by
    have references := holds.counted.references
    have exceeds := holds.counted.exceeds
    rw [stands] at references exceeds
    obtain ⟨info, found⟩ := Option.isSome_iff_exists.mp
      (references packetSequence List.mem_cons_self)
    have maximum := exceeds packetSequence info rfl found
    have none : pending session packetSequence = 0 := by
      rw [pending, stands]
      rfl
    by_cases waits :
        ∃ call, (session.calls call).sends = some packetSequence
    · obtain ⟨call, sends⟩ := waits
      have count := holds.counted.first call packetSequence info sends found
      omega
    · have count := holds.counted.later packetSequence info found
        (not_exists.mp waits)
      omega

end Invariant

/-- In every run whose sequences do not wrap around, a stored packet stays in the
store until one reply removes it, is sent at most seventeen times, and ends the
session only after sixteen retransmissions. -/
theorem persistent_of_distinct
    {sessionId : SessionIdType} {session : Session Payload}
    (reached :
      (system sessionId).GuardedReachable SequencesDistinct session) :
    Persistent session := by
  refine Invariant.persistent (reached.invariant ?_ ?_)
  · rintro _ rfl
    exact Invariant.created sessionId
  · intro before label after _ holds distinct moves
    obtain ⟨⟨next, enqueued⟩, steps, rfl⟩ := Option.map_eq_some_iff.mp moves
    exact holds.step distinct steps

/-! ## A packet without a reply -/

/-- The only packet is sent again, 20 milliseconds after the last time. -/
def unanswered : Nat → List (SessionLabel Nat)
  | 0 => []
  | count + 1 =>
      unanswered count ++
        [.tick (BitVec.ofNat 64 (100 + 20 * (count + 1))),
          .getAllSendPacketInfos, .isRetransmissionTime, .examine,
          .resend .sent, .finish]

/-- The CONNECT packet is sent seventeen times and never answered. -/
def neverConnected : List (SessionLabel Nat) :=
  [.enqueueSendBuffer 0 100, .sendDatagram 0 .sent] ++ unanswered 16 ++
    [.tick 440, .getAllSendPacketInfos, .isRetransmissionTime, .examine,
      .containsPacket]

/-- The state after it. -/
def givenUp : Session Nat :=
  ((system 7).run (.created 7) neverConnected).getD (.created 7)

set_option maxRecDepth 16000 in
theorem guardedRun_neverConnected :
    (system 7).guardedRun SequencesDistinct (.created 7) neverConnected =
      some givenUp := rfl

set_option maxRecDepth 16000 in
example :
    givenUp.retransmission = .givingUp 0 ∧
      givenUp.transmissions.count 0 = 17 :=
  ⟨rfl, rfl⟩

theorem persistent_of_distinct_givenUp : Persistent givenUp :=
  persistent_of_distinct
    (TransitionSystem.GuardedReachable.guardedRun (.initial rfl)
      guardedRun_neverConnected)

end RudpSession
end BotTester
end MultiSocketRudp
