import MultiSocketRudp.Lib.Dictionary
import MultiSocketRudp.Lib.InOrderDelivery
import MultiSocketRudp.Server.ReceivePath

/-!
# The packet orderer of a server session

`SessionPacketOrderer::OnReceive` as a whole call.  It calls the handler for the
packet with the expected sequence and then for the held packets that follow it,
and it holds a packet that is ahead of the expected sequence.
-/

namespace MultiSocketRudp

/-- The sequence of a packet as a number. -/
def ReceivePath.DataFrame.position {Payload : Type}
    (frame : ReceivePath.DataFrame Payload) : Nat :=
  frame.packetSequence.toNat

namespace SessionPacketOrderer

open Dictionary InOrderDelivery ReceivePath SerialNumber

/-- `ON_RECV_RESULT`. -/
inductive OnRecvResult
  | processed
  | duplicatedRecv
  | packetHeld
  | errorOccured
  deriving DecidableEq, Repr

/-- `SessionPacketOrderer`. -/
structure Orderer (Payload : Type) where
  nextRecvPacketSequence : PacketSequence
  recvHoldingPackets : List (DataFrame Payload)
  maxHoldingQueueSize : Byte
  deriving DecidableEq, Repr

variable {Payload : Type}

namespace Orderer

/-- `Reset`. -/
def reset
    (orderer : Orderer Payload)
    (startSequence : PacketSequence) : Orderer Payload :=
  { orderer with
    nextRecvPacketSequence := startSequence
    recvHoldingPackets := [] }

/-- `recvHoldingPackets.find` of a sequence. -/
def find
    (orderer : Orderer Payload)
    (packetSequence : PacketSequence) : Option (DataFrame Payload) :=
  lookup DataFrame.packetSequence orderer.recvHoldingPackets packetSequence

/-- `recvHoldingPackets.erase` of a sequence. -/
def erase
    (orderer : Orderer Payload)
    (packetSequence : PacketSequence) : Orderer Payload :=
  { orderer with
    recvHoldingPackets :=
      remove DataFrame.packetSequence orderer.recvHoldingPackets
        packetSequence }

variable (callback : Payload → PacketSequence → Bool)

/-- `ProcessAndAdvance`: whether the handler succeeds, and the orderer. -/
def processAndAdvance
    (orderer : Orderer Payload)
    (frame : DataFrame Payload) : Bool × Orderer Payload :=
  let advanced :=
    { orderer with
      nextRecvPacketSequence := orderer.nextRecvPacketSequence + 1 }
  if callback frame.payload frame.packetSequence then
    (true, advanced.erase frame.packetSequence)
  else (false, advanced)

/-- No call of `ProcessAndAdvance` adds a held packet. -/
theorem processAndAdvance_length_le
    (orderer : Orderer Payload) (frame : DataFrame Payload) :
    (processAndAdvance callback orderer frame).2.recvHoldingPackets.length ≤
      orderer.recvHoldingPackets.length := by
  unfold processAndAdvance
  split
  · exact remove_length_le _ _
  · exact le_rfl

/-- `ProcessHoldingPacket`: whether no handler has failed, the packets that the
handler was called for, and the orderer. -/
def processHoldingPacket
    (orderer : Orderer Payload) :
    Bool × List (DataFrame Payload) × Orderer Payload :=
  match found : orderer.find orderer.nextRecvPacketSequence with
  | none => (true, [], orderer)
  | some storedBuffer =>
      have _ :=
        lt_of_le_of_lt
          (processAndAdvance_length_le callback
            (orderer.erase orderer.nextRecvPacketSequence) storedBuffer)
          (remove_length_lt found)
      if (processAndAdvance callback
          (orderer.erase orderer.nextRecvPacketSequence) storedBuffer).1 then
        (processHoldingPacket
          (processAndAdvance callback
            (orderer.erase orderer.nextRecvPacketSequence) storedBuffer).2).map
          id (Prod.map (storedBuffer :: ·) id)
      else
        (false, [storedBuffer],
          (processAndAdvance callback
            (orderer.erase orderer.nextRecvPacketSequence) storedBuffer).2)
termination_by orderer.recvHoldingPackets.length

/-- `OnReceive`: its result, the packets that the handler was called for, and
the orderer. -/
def onReceive
    (orderer : Orderer Payload)
    (frame : DataFrame Payload) :
    OnRecvResult × List (DataFrame Payload) × Orderer Payload :=
  let expected := orderer.nextRecvPacketSequence
  let sequenceDiff := signedDiff frame.packetSequence expected
  if sequenceDiff < 0 then (.duplicatedRecv, [], orderer)
  else if sequenceDiff = 0 then
    let first := processAndAdvance callback orderer frame
    if first.1 then
      let rest := processHoldingPacket callback first.2
      (if rest.1 then .processed else .errorOccured,
        frame :: rest.2.1, rest.2.2)
    else (.errorOccured, [frame], first.2)
  else if (orderer.find frame.packetSequence).isSome then
    (.packetHeld, [], orderer)
  else if orderer.maxHoldingQueueSize.toNat ≤
      orderer.recvHoldingPackets.length then
    (.errorOccured, [], orderer)
  else
    (.packetHeld, [],
      { orderer with
        recvHoldingPackets := frame :: orderer.recvHoldingPackets })

/-! ## What the orderer passes on -/

/-- The orderer after some arrivals, of which it has passed some on. -/
structure Follows
    (maxHoldingQueueSize : Byte)
    (arrived passed : List (DataFrame Payload))
    (orderer : Orderer Payload) : Prop where
  holding :
    Holding DataFrame.position arrived passed orderer.recvHoldingPackets
  next : orderer.nextRecvPacketSequence.toNat = passed.length + 1
  size : orderer.maxHoldingQueueSize = maxHoldingQueueSize

/-- A sequence that is not found is not held. -/
theorem find_eq_none
    {orderer : Orderer Payload} {packetSequence : PacketSequence}
    (missing : orderer.find packetSequence = none) :
    packetSequence.toNat ∉
      orderer.recvHoldingPackets.map DataFrame.position := by
  intro member
  obtain ⟨held, keeps, same⟩ := List.mem_map.mp member
  exact not_mem_of_lookup missing
    (List.mem_map.mpr ⟨held, keeps, BitVec.eq_of_toNat_eq same⟩)

/-- A handler that succeeds is followed by an erasure, so an earlier one makes no
difference. -/
theorem processAndAdvance_erase
    {callback : Payload → PacketSequence → Bool}
    (succeeds : ∀ payload sequence, callback payload sequence = true)
    (orderer : Orderer Payload) (frame : DataFrame Payload) :
    processAndAdvance callback (orderer.erase frame.packetSequence) frame =
      processAndAdvance callback orderer frame := by
  simp [processAndAdvance, succeeds, erase]

section Runs

variable {callback : Payload → PacketSequence → Bool}
variable {maxHoldingQueueSize : Byte}
variable {arrived passed : List (DataFrame Payload)}
variable {orderer : Orderer Payload} {frame : DataFrame Payload}

/-- The handler is called for the packet with the expected sequence. -/
theorem follows_processAndAdvance
    (succeeds : ∀ payload sequence, callback payload sequence = true)
    (holding :
      Holding DataFrame.position arrived (passed ++ [frame])
        (orderer.recvHoldingPackets.filter
          fun held => held.position ≠ frame.position))
    (next : orderer.nextRecvPacketSequence.toNat = passed.length + 1)
    (size : orderer.maxHoldingQueueSize = maxHoldingQueueSize)
    (small : passed.length + 2 < 2 ^ 64) :
    (processAndAdvance callback orderer frame).1 = true ∧
      Follows maxHoldingQueueSize arrived (passed ++ [frame])
        (processAndAdvance callback orderer frame).2 := by
  have advanced :
      (orderer.nextRecvPacketSequence + 1).toNat =
        (passed ++ [frame]).length + 1 := by
    rw [toNat_add_one (by omega), next, List.length_append,
      List.length_singleton]
  simp only [processAndAdvance, succeeds, if_true, true_and]
  refine ⟨?_, advanced, size⟩
  rw [erase, remove_eq_filter BitVec.toNat_injective]
  exact holding

/-- The held packets that follow are passed on. -/
theorem Follows.processHoldingPacket
    (follows : Follows maxHoldingQueueSize arrived passed orderer)
    (succeeds : ∀ payload sequence, callback payload sequence = true)
    (bounded : ∀ frame ∈ arrived, frame.position ≤ 2 ^ 63 - 1) :
    (Orderer.processHoldingPacket callback orderer).1 = true ∧
      Follows maxHoldingQueueSize arrived
        (passed ++ (Orderer.processHoldingPacket callback orderer).2.1)
        (Orderer.processHoldingPacket callback orderer).2.2 ∧
      Blocked DataFrame.position arrived
        (passed ++ (Orderer.processHoldingPacket callback orderer).2.1) := by
  fun_induction Orderer.processHoldingPacket callback orderer
    generalizing passed with
  | case1 orderer missing =>
      refine ⟨rfl, by simpa using follows, ?_⟩
      have absent := find_eq_none missing
      rw [follows.next] at absent
      simpa using follows.holding.blocked absent
  | case2 orderer storedBuffer found _ succeeded inductionHypothesis =>
      obtain ⟨keeps, expected⟩ := mem_of_lookup found
      have erased :
          processAndAdvance callback
              (orderer.erase orderer.nextRecvPacketSequence) storedBuffer =
            processAndAdvance callback orderer storedBuffer := by
        rw [← expected, processAndAdvance_erase succeeds]
      have position : storedBuffer.position = passed.length + 1 := by
        rw [← follows.next, ← expected]
        rfl
      have member := follows.holding.received storedBuffer keeps
      have bound := bounded storedBuffer member
      have later :=
        (follows_processAndAdvance succeeds
          (follows.holding.pass member position) follows.next follows.size
          (by omega)).2
      rw [← erased] at later
      simpa using inductionHypothesis later
  | case3 orderer storedBuffer found _ failed =>
      simp [processAndAdvance, succeeds] at failed

/-- One arrival, as long as no more is outstanding than can be held. -/
theorem Follows.onReceive
    (follows : Follows maxHoldingQueueSize arrived passed orderer)
    (blocked : Blocked DataFrame.position arrived passed)
    (succeeds : ∀ payload sequence, callback payload sequence = true)
    (bounded : ∀ other ∈ arrived ++ [frame], other.position ≤ 2 ^ 63 - 1)
    (capacity :
      outstanding DataFrame.position (arrived ++ [frame]) ≤
        maxHoldingQueueSize.toNat) :
    Follows maxHoldingQueueSize (arrived ++ [frame])
        (passed ++ (Orderer.onReceive callback orderer frame).2.1)
        (Orderer.onReceive callback orderer frame).2.2 ∧
      Blocked DataFrame.position (arrived ++ [frame])
        (passed ++ (Orderer.onReceive callback orderer frame).2.1) := by
  have frameBound := bounded frame (by simp)
  have passedBound : passed.length ≤ 2 ^ 63 - 1 :=
    follows.holding.inOrder.length_le_of_bound fun other member =>
      bounded other (List.mem_append_left _ member)
  have difference :
      signedDiff frame.packetSequence orderer.nextRecvPacketSequence =
        (frame.position : Int) - (passed.length + 1) := by
    rw [signedDiff_eq_sub_of_lt
      (by change 2 * frame.position < _; omega)
      (by rw [follows.next]; omega), follows.next]
    rfl
  unfold Orderer.onReceive
  simp only [difference]
  by_cases old : (frame.position : Int) - (passed.length + 1) < 0
  · simp only [if_pos old, List.append_nil]
    exact
      ⟨⟨follows.holding.ignore fun isAhead => by omega, follows.next,
        follows.size⟩, blocked.append (by omega)⟩
  · by_cases isNext : (frame.position : Int) - (passed.length + 1) = 0
    · have position : frame.position = passed.length + 1 := by omega
      obtain ⟨succeeded, first⟩ :=
        follows_processAndAdvance succeeds
          (follows.holding.passArrival blocked position) follows.next
          follows.size (by omega)
      have rest := first.processHoldingPacket succeeds bounded
      simp only [if_neg old, if_pos isNext, succeeded, if_true]
      simpa using rest.2
    · have isAhead : passed.length < frame.position := by omega
      have notNext : frame.position ≠ passed.length + 1 := by omega
      have elsewhere := blocked.append notNext
      simp only [if_neg old, if_neg isNext]
      cases found : orderer.find frame.packetSequence with
      | some held =>
          obtain ⟨keeps, same⟩ := mem_of_lookup found
          simp only [Option.isSome_some, if_true, List.append_nil]
          have known :
              frame.position ∈
                orderer.recvHoldingPackets.map DataFrame.position :=
            List.mem_map.mpr ⟨held, keeps, congrArg BitVec.toNat same⟩
          exact
            ⟨⟨follows.holding.ignore fun _ => known, follows.next,
              follows.size⟩, elsewhere⟩
      | none =>
          have holding := follows.holding.hold isAhead (find_eq_none found)
          have size := holding.length_le_outstanding elsewhere
          have room :
              ¬ orderer.maxHoldingQueueSize.toNat ≤
                orderer.recvHoldingPackets.length := by
            rw [follows.size]
            rw [List.length_cons] at size
            omega
          simp only [Option.isSome_none, Bool.false_eq_true, if_false,
            if_neg room, List.append_nil]
          exact ⟨⟨holding, follows.next, follows.size⟩, elsewhere⟩

end Runs

end Orderer

end SessionPacketOrderer
end MultiSocketRudp
