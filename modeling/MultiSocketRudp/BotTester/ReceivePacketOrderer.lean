import MultiSocketRudp.Lib.Dictionary
import MultiSocketRudp.Lib.InOrderDelivery
import MultiSocketRudp.Lib.SerialNumber
import MultiSocketRudp.Protocol

/-!
# The packet orderer of the bot tester

`ReceivePacketOrderer.Collect` returns the packets that an arrival completes.
Its `expectedSequence` is the last sequence that it has passed on, and it ignores
every sequence that is not newer, which is decided within half of the number
space.
-/

namespace MultiSocketRudp
namespace BotTester

open Dictionary InOrderDelivery

/-- `HeldPacket`, with the content of its buffer. -/
structure HeldPacket (Payload : Type) where
  sequence : PacketSequence
  packetId : BitVec 32
  buffer : Payload
  packetType : PacketType
  deriving DecidableEq, Repr

variable {Payload : Type}

/-- The sequence of a packet as a number. -/
def HeldPacket.position (packet : HeldPacket Payload) : Nat :=
  packet.sequence.toNat

/-- `ReceivePacketOrderer`. -/
structure ReceivePacketOrderer (Payload : Type) where
  heldPackets : List (HeldPacket Payload)
  expectedSequence : PacketSequence
  deriving DecidableEq, Repr

namespace ReceivePacketOrderer

/-- A new orderer. -/
def create : ReceivePacketOrderer Payload := ⟨[], 0⟩

/-- `HalfSequenceRange`. -/
def halfSequenceRange : PacketSequence := 1 <<< 63

/-- `IsNewer`. -/
def isNewer (candidate reference : PacketSequence) : Bool :=
  candidate - reference ≠ 0 ∧ candidate - reference < halfSequenceRange

/-- `Next`. -/
def nextSequence (sequence : PacketSequence) : PacketSequence := sequence + 1

/-- The loop of `Collect`: the held packets that follow, and the orderer. -/
def collectHeld
    (orderer : ReceivePacketOrderer Payload) :
    List (HeldPacket Payload) × ReceivePacketOrderer Payload :=
  match found :
      lookup HeldPacket.sequence orderer.heldPackets
        (nextSequence orderer.expectedSequence) with
  | none => ([], orderer)
  | some held =>
      have _ := remove_length_lt found
      (collectHeld
        ⟨remove HeldPacket.sequence orderer.heldPackets
            (nextSequence orderer.expectedSequence),
          held.sequence⟩).map (held :: ·) id
termination_by orderer.heldPackets.length

/-- `Collect`: the packets to be processed, and the orderer. -/
def collect
    (orderer : ReceivePacketOrderer Payload)
    (packet : HeldPacket Payload) :
    List (HeldPacket Payload) × ReceivePacketOrderer Payload :=
  if isNewer packet.sequence orderer.expectedSequence = false then
    ([], orderer)
  else if packet.sequence ≠ nextSequence orderer.expectedSequence then
    if (lookup HeldPacket.sequence orderer.heldPackets
        packet.sequence).isSome then ([], orderer)
    else
      ([], { orderer with heldPackets := packet :: orderer.heldPackets })
  else
    (collectHeld
      { orderer with expectedSequence := packet.sequence }).map
      (packet :: ·) id

/-! ## What the orderer passes on -/

/-- Newer sequences are the greater ones within half of the number space. -/
theorem isNewer_iff
    {candidate reference : PacketSequence}
    (candidateSmall : candidate.toNat ≤ 2 ^ 63 - 1)
    (referenceSmall : reference.toNat ≤ 2 ^ 63 - 1) :
    isNewer candidate reference = true ↔
      reference.toNat < candidate.toNat := by
  have half : halfSequenceRange.toNat = 2 ^ 63 := rfl
  have zero : (0 : PacketSequence).toNat = 0 := rfl
  rw [isNewer, decide_eq_true_eq, Ne, ← BitVec.toNat_inj, BitVec.lt_def, half,
    zero, BitVec.toNat_sub]
  omega

/-- The orderer after some arrivals, of which it has passed some on. -/
structure Follows
    (arrived passed : List (HeldPacket Payload))
    (orderer : ReceivePacketOrderer Payload) : Prop where
  holding : Holding HeldPacket.position arrived passed orderer.heldPackets
  expected : orderer.expectedSequence.toNat = passed.length

/-- A sequence that is not found is not held. -/
theorem not_mem_of_lookup
    {held : List (HeldPacket Payload)} {sequence : PacketSequence}
    (missing : lookup HeldPacket.sequence held sequence = none) :
    sequence.toNat ∉ held.map HeldPacket.position := by
  intro member
  obtain ⟨packet, keeps, same⟩ := List.mem_map.mp member
  exact Dictionary.not_mem_of_lookup missing
    (List.mem_map.mpr ⟨packet, keeps, BitVec.eq_of_toNat_eq same⟩)

namespace Follows

variable {arrived passed : List (HeldPacket Payload)}
variable {orderer : ReceivePacketOrderer Payload}
variable {packet : HeldPacket Payload}

/-- The orderer waits for the next position. -/
theorem next
    (follows : Follows arrived passed orderer)
    (bounded : ∀ packet ∈ arrived, packet.position ≤ 2 ^ 63 - 1) :
    (nextSequence orderer.expectedSequence).toNat = passed.length + 1 := by
  have passedBound := follows.holding.inOrder.length_le_of_bound bounded
  have expected := follows.expected
  rw [nextSequence, SerialNumber.toNat_add_one (by omega), expected]

/-- The loop passes on the held packets that follow. -/
theorem collectHeld
    (follows : Follows arrived passed orderer)
    (bounded : ∀ packet ∈ arrived, packet.position ≤ 2 ^ 63 - 1) :
    Follows arrived (passed ++ orderer.collectHeld.1) orderer.collectHeld.2 ∧
      Blocked HeldPacket.position arrived
        (passed ++ orderer.collectHeld.1) := by
  fun_induction ReceivePacketOrderer.collectHeld orderer
    generalizing passed with
  | case1 orderer missing =>
      have absent := not_mem_of_lookup missing
      rw [follows.next bounded] at absent
      exact ⟨by simpa using follows,
        by simpa using follows.holding.blocked absent⟩
  | case2 orderer held found _ inductionHypothesis =>
      obtain ⟨keeps, same⟩ := mem_of_lookup found
      have position : held.position = passed.length + 1 := by
        rw [← follows.next bounded, ← same]
        rfl
      have holding :=
        follows.holding.pass (follows.holding.received held keeps) position
      have later :
          Follows arrived (passed ++ [held])
            ⟨remove HeldPacket.sequence orderer.heldPackets
                (nextSequence orderer.expectedSequence),
              held.sequence⟩ := by
        constructor
        · rw [← same, remove_eq_filter BitVec.toNat_injective]
          exact holding
        · rw [List.length_append, List.length_singleton]
          exact position
      simpa using inductionHypothesis later

/-- One arrival. -/
theorem collect
    (follows : Follows arrived passed orderer)
    (blocked : Blocked HeldPacket.position arrived passed)
    (bounded :
      ∀ other ∈ arrived ++ [packet], other.position ≤ 2 ^ 63 - 1) :
    Follows (arrived ++ [packet]) (passed ++ (orderer.collect packet).1)
        (orderer.collect packet).2 ∧
      Blocked HeldPacket.position (arrived ++ [packet])
        (passed ++ (orderer.collect packet).1) := by
  have before (other) (member : other ∈ arrived) :
      other.position ≤ 2 ^ 63 - 1 :=
    bounded other (List.mem_append_left _ member)
  have passedBound := follows.holding.inOrder.length_le_of_bound before
  have next := follows.next before
  have expected := follows.expected
  have newer :
      isNewer packet.sequence orderer.expectedSequence = true ↔
        passed.length < packet.position := by
    rw [isNewer_iff (bounded packet (by simp)) (by omega), expected]
    rfl
  unfold ReceivePacketOrderer.collect
  by_cases isNew : isNewer packet.sequence orderer.expectedSequence = true
  · have isAhead := newer.mp isNew
    rw [if_neg (by simp [isNew])]
    by_cases ahead :
        packet.sequence ≠ nextSequence orderer.expectedSequence
    · have notNext : packet.position ≠ passed.length + 1 := fun same =>
        ahead (BitVec.eq_of_toNat_eq (same.trans next.symm))
      have elsewhere := blocked.append notNext
      rw [if_pos ahead]
      cases found :
          lookup HeldPacket.sequence orderer.heldPackets packet.sequence with
      | some held =>
          obtain ⟨keeps, same⟩ := mem_of_lookup found
          have known :
              packet.position ∈ orderer.heldPackets.map HeldPacket.position :=
            List.mem_map.mpr ⟨held, keeps, congrArg BitVec.toNat same⟩
          simp only [Option.isSome_some, if_true, List.append_nil]
          exact ⟨⟨follows.holding.ignore fun _ => known, expected⟩, elsewhere⟩
      | none =>
          simp only [Option.isSome_none, Bool.false_eq_true, if_false,
            List.append_nil]
          exact
            ⟨⟨follows.holding.hold isAhead (not_mem_of_lookup found),
              expected⟩, elsewhere⟩
    · have position : packet.position = passed.length + 1 := by
        rw [← next, ← not_not.mp ahead]
        rfl
      have holding := follows.holding.passArrival blocked position
      rw [follows.holding.filter_eq_self blocked position] at holding
      have first :
          Follows (arrived ++ [packet]) (passed ++ [packet])
            { orderer with expectedSequence := packet.sequence } := by
        refine ⟨holding, ?_⟩
        rw [List.length_append, List.length_singleton]
        exact position
      rw [if_neg ahead]
      simpa using first.collectHeld bounded
  · have old : ¬ passed.length < packet.position := fun isAhead =>
      isNew (newer.mpr isAhead)
    rw [if_pos (by simpa using isNew)]
    simp only [List.append_nil]
    exact
      ⟨⟨follows.holding.ignore fun isAhead => absurd isAhead old, expected⟩,
        blocked.append (by omega)⟩

end Follows

end ReceivePacketOrderer

end BotTester
end MultiSocketRudp
