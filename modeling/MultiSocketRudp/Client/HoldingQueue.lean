import Mathlib.Data.List.Sort
import MultiSocketRudp.Lib.InOrderDelivery
import MultiSocketRudp.Lib.SerialNumber
import MultiSocketRudp.Protocol

/-!
# The client's receive queue

The receive thread puts every data and heartbeat packet into a priority queue,
and `GetReceivedPacket` takes them out by their sequence.  Duplicates stay in
the queue until their sequence has been passed.
-/

namespace MultiSocketRudp
namespace HoldingQueue

open InOrderDelivery

/-- `RecvPacketInfo`, with the content of its buffer. -/
structure RecvPacketInfo (Payload : Type) where
  buffer : Payload
  packetSequence : PacketSequence
  packetType : PacketType
  deriving DecidableEq, Repr

variable {Payload : Type}

namespace RecvPacketInfo

/-- The sequence as a number. -/
def position (info : RecvPacketInfo Payload) : Nat :=
  info.packetSequence.toNat

/-- `GetReceivedPacket` returns the packet. -/
def isData (info : RecvPacketInfo Payload) : Bool :=
  info.packetType ≠ .heartbeatType

end RecvPacketInfo

/-- `recvPacketHoldingQueue.emplace`: the queue is listed from its top, the
least sequence. -/
def emplace
    (info : RecvPacketInfo Payload)
    (queue : List (RecvPacketInfo Payload)) :
    List (RecvPacketInfo Payload) :=
  queue.orderedInsert
    (fun first second => first.packetSequence ≤ second.packetSequence) info

/-- `GetReceivedPacket`, whose whole body holds the lock: the entry whose buffer
it returns, the queue and the next sequence. -/
def getReceivedPacket :
    List (RecvPacketInfo Payload) → PacketSequence →
      Option (RecvPacketInfo Payload) × List (RecvPacketInfo Payload) ×
        PacketSequence
  | [], nextRecvPacketSequence => (none, [], nextRecvPacketSequence)
  | top :: rest, nextRecvPacketSequence =>
      if top.packetSequence < nextRecvPacketSequence then
        getReceivedPacket rest nextRecvPacketSequence
      else if top.packetSequence ≠ nextRecvPacketSequence then
        (none, top :: rest, nextRecvPacketSequence)
      else if top.packetType = .heartbeatType then
        getReceivedPacket rest (nextRecvPacketSequence + 1)
      else (some top, rest, nextRecvPacketSequence + 1)

/-! ## What the queue holds -/

/-- The state of the queue after some arrivals, of which the passed ones have
been taken out in order. -/
structure Holds
    (arrived passed queue : List (RecvPacketInfo Payload))
    (nextRecvPacketSequence : PacketSequence) : Prop where
  inOrder : InOrder RecvPacketInfo.position arrived passed
  next : nextRecvPacketSequence.toNat = passed.length + 1
  sorted : queue.Pairwise fun first second =>
    first.packetSequence ≤ second.packetSequence
  queued : ∀ info ∈ queue, info ∈ arrived
  /-- Nothing that is still needed has been dropped. -/
  kept : ∀ info ∈ arrived,
    nextRecvPacketSequence ≤ info.packetSequence → info ∈ queue

namespace Holds

variable {arrived passed queue : List (RecvPacketInfo Payload)}
variable {nextRecvPacketSequence : PacketSequence}

theorem initial : Holds ([] : List (RecvPacketInfo Payload)) [] [] 1 where
  inOrder := .empty
  next := rfl
  sorted := .nil
  queued _ member := nomatch member
  kept _ member := nomatch member

/-- The order of the arrivals does not matter. -/
theorem perm
    (holds : Holds arrived passed queue nextRecvPacketSequence)
    {other : List (RecvPacketInfo Payload)}
    (permutes : arrived.Perm other) :
    Holds other passed queue nextRecvPacketSequence where
  inOrder := holds.inOrder.mono fun _ => permutes.mem_iff.mp
  next := holds.next
  sorted := holds.sorted
  queued info member := permutes.mem_iff.mp (holds.queued info member)
  kept info member := holds.kept info (permutes.mem_iff.mpr member)

/-- A packet arrives. -/
theorem emplace
    (holds : Holds arrived passed queue nextRecvPacketSequence)
    (info : RecvPacketInfo Payload) :
    Holds (info :: arrived) passed (HoldingQueue.emplace info queue)
      nextRecvPacketSequence where
  inOrder := holds.inOrder.mono fun _ => List.mem_cons_of_mem info
  next := holds.next
  sorted := holds.sorted.orderedInsert info queue
  queued other member := by
    rcases (List.mem_orderedInsert _).mp member with rfl | old
    · exact List.mem_cons_self
    · exact List.mem_cons_of_mem _ (holds.queued other old)
  kept other member needed := by
    refine (List.mem_orderedInsert _).mpr ?_
    rcases List.mem_cons.mp member with rfl | old
    · exact .inl rfl
    · exact .inr (holds.kept other old needed)

/-- An outdated packet is dropped. -/
theorem drop
    {top : RecvPacketInfo Payload} {rest : List (RecvPacketInfo Payload)}
    (holds : Holds arrived passed (top :: rest) nextRecvPacketSequence)
    (outdated : top.packetSequence < nextRecvPacketSequence) :
    Holds arrived passed rest nextRecvPacketSequence where
  inOrder := holds.inOrder
  next := holds.next
  sorted := holds.sorted.of_cons
  queued info member := holds.queued info (List.mem_cons_of_mem _ member)
  kept info member needed := by
    refine List.mem_of_ne_of_mem ?_ (holds.kept info member needed)
    rintro rfl
    exact absurd outdated (BitVec.not_lt.mpr needed)

/-- The packet with the next sequence is taken out. -/
theorem take
    {top : RecvPacketInfo Payload} {rest : List (RecvPacketInfo Payload)}
    (holds : Holds arrived passed (top :: rest) nextRecvPacketSequence)
    (isNext : top.packetSequence = nextRecvPacketSequence)
    (small : top.packetSequence.toNat < 2 ^ 64 - 1) :
    Holds arrived (passed ++ [top]) rest (nextRecvPacketSequence + 1) where
  inOrder :=
    holds.inOrder.pass (holds.queued top List.mem_cons_self)
      ((congrArg BitVec.toNat isNext).trans holds.next)
  next := by
    rw [isNext] at small
    rw [SerialNumber.toNat_add_one (by omega), holds.next, List.length_append,
      List.length_singleton]
  sorted := holds.sorted.of_cons
  queued info member := holds.queued info (List.mem_cons_of_mem _ member)
  kept info member needed := by
    have later : nextRecvPacketSequence < info.packetSequence := by
      rw [isNext] at small
      rw [BitVec.le_def, SerialNumber.toNat_add_one (by omega)] at needed
      exact BitVec.lt_def.mpr needed
    refine List.mem_of_ne_of_mem ?_
      (holds.kept info member (BitVec.le_of_lt later))
    rintro rfl
    rw [isNext] at later
    exact absurd later (BitVec.lt_irrefl _)

/-- `GetReceivedPacket` passes packets on in order and returns the data packet
among them; it returns none only if the next sequence has not arrived. -/
theorem getReceivedPacket
    (holds : Holds arrived passed queue nextRecvPacketSequence)
    (small : ∀ info ∈ arrived, info.packetSequence.toNat < 2 ^ 64 - 1) :
    ∃ more,
      Holds arrived (passed ++ more)
        (HoldingQueue.getReceivedPacket queue nextRecvPacketSequence).2.1
        (HoldingQueue.getReceivedPacket queue nextRecvPacketSequence).2.2 ∧
      more.filter RecvPacketInfo.isData =
        (HoldingQueue.getReceivedPacket queue
          nextRecvPacketSequence).1.toList ∧
      ((HoldingQueue.getReceivedPacket queue nextRecvPacketSequence).1 = none →
        Blocked RecvPacketInfo.position arrived (passed ++ more)) := by
  fun_induction HoldingQueue.getReceivedPacket queue nextRecvPacketSequence
    generalizing passed with
  | case1 nextRecvPacketSequence =>
      refine ⟨[], by simpa using holds, rfl, fun _ info member isNext => ?_⟩
      rw [List.append_nil, ← holds.next] at isNext
      exact nomatch holds.kept info member (BitVec.le_def.mpr isNext.ge)
  | case2 top rest nextRecvPacketSequence outdated inductionHypothesis =>
      exact inductionHypothesis (holds.drop outdated)
  | case3 top rest nextRecvPacketSequence recent gap =>
      refine ⟨[], by simpa using holds, rfl, fun _ info member isNext => ?_⟩
      rw [List.append_nil, ← holds.next] at isNext
      have same : info.packetSequence = nextRecvPacketSequence :=
        BitVec.eq_of_toNat_eq isNext
      have above : nextRecvPacketSequence ≤ top.packetSequence :=
        BitVec.not_lt.mp recent
      rcases List.mem_cons.mp
        (holds.kept info member (BitVec.le_def.mpr isNext.ge)) with
        rfl | behind
      · exact gap same
      · have below : top.packetSequence ≤ info.packetSequence :=
          List.rel_of_pairwise_cons holds.sorted behind
        rw [same] at below
        exact gap (BitVec.le_antisymm below above)
  | case4 top rest nextRecvPacketSequence recent isNext heartbeat
      inductionHypothesis =>
      have topSmall := small top (holds.queued top List.mem_cons_self)
      obtain ⟨more, later, returned, blocked⟩ :=
        inductionHypothesis (holds.take (not_not.mp isNext) topSmall)
      refine ⟨top :: more, by simpa using later, ?_, by simpa using blocked⟩
      rw [List.filter_cons_of_neg (by simp [RecvPacketInfo.isData, heartbeat]),
        returned]
  | case5 top rest nextRecvPacketSequence recent isNext data =>
      have topSmall := small top (holds.queued top List.mem_cons_self)
      refine ⟨[top], holds.take (not_not.mp isNext) topSmall, ?_, nofun⟩
      simp [RecvPacketInfo.isData, data]

end Holds

/-- A call that returns a packet leaves fewer in the queue. -/
theorem length_getReceivedPacket_lt
    {queue : List (RecvPacketInfo Payload)}
    {nextRecvPacketSequence : PacketSequence}
    {info : RecvPacketInfo Payload}
    (returned :
      (getReceivedPacket queue nextRecvPacketSequence).1 = some info) :
    (getReceivedPacket queue nextRecvPacketSequence).2.1.length <
      queue.length := by
  fun_induction getReceivedPacket queue nextRecvPacketSequence with
  | case1 => cases returned
  | case2 top rest _ _ inductionHypothesis =>
      exact Nat.lt_succ_of_lt (inductionHypothesis returned)
  | case3 => cases returned
  | case4 top rest _ _ _ _ inductionHypothesis =>
      exact Nat.lt_succ_of_lt (inductionHypothesis returned)
  | case5 => exact Nat.lt_succ_self _

/-! ## Repeated calls -/

/-- `GetReceivedPacket` is called until it returns none: the entries whose
buffers it has returned, the queue and the next sequence. -/
def receiveAll
    (queue : List (RecvPacketInfo Payload))
    (nextRecvPacketSequence : PacketSequence) :
    List (RecvPacketInfo Payload) × List (RecvPacketInfo Payload) ×
      PacketSequence :=
  match equation : getReceivedPacket queue nextRecvPacketSequence with
  | (none, rest, next) => ([], rest, next)
  | (some info, rest, next) =>
      have _ : rest.length < queue.length := by
        have shorter := length_getReceivedPacket_lt
          (congrArg Prod.fst equation)
        rwa [equation] at shorter
      (receiveAll rest next).map (info :: ·) id
  termination_by queue.length

/-- Repeated calls pass packets on until the next sequence has not arrived. -/
theorem Holds.receiveAll
    {arrived passed queue : List (RecvPacketInfo Payload)}
    {nextRecvPacketSequence : PacketSequence}
    (holds : Holds arrived passed queue nextRecvPacketSequence)
    (small : ∀ info ∈ arrived, info.packetSequence.toNat < 2 ^ 64 - 1) :
    ∃ more,
      Holds arrived (passed ++ more)
        (HoldingQueue.receiveAll queue nextRecvPacketSequence).2.1
        (HoldingQueue.receiveAll queue nextRecvPacketSequence).2.2 ∧
      more.filter RecvPacketInfo.isData =
        (HoldingQueue.receiveAll queue nextRecvPacketSequence).1 ∧
      Blocked RecvPacketInfo.position arrived (passed ++ more) := by
  obtain ⟨more, later, returned, blocked⟩ := holds.getReceivedPacket small
  fun_induction HoldingQueue.receiveAll queue nextRecvPacketSequence
    generalizing passed more with
  | case1 queue nextRecvPacketSequence rest next equation =>
      rw [equation] at later returned blocked
      exact ⟨more, later, returned, blocked rfl⟩
  | case2 queue nextRecvPacketSequence info rest next equation _
      inductionHypothesis =>
      rw [equation] at later returned
      obtain ⟨further, latest, furtherReturned, furtherBlocked⟩ :=
        later.getReceivedPacket small
      obtain ⟨remaining, last, allReturned, allBlocked⟩ :=
        inductionHypothesis later further latest furtherReturned furtherBlocked
      refine ⟨more ++ remaining, by simpa using last, ?_,
        by simpa using allBlocked⟩
      rw [List.filter_append, returned, allReturned]
      rfl

end HoldingQueue
end MultiSocketRudp
