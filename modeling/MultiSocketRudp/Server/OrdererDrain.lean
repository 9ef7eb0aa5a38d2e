import Mathlib.Data.Finset.Card
import MultiSocketRudp.Server.SessionPacketOrderer

/-!
# Draining the queue of the packet orderer

`ProcessHoldingPacket` with any callback.  It takes the held packets from the
expected sequence on out of the queue, up to the first sequence that is not held
or the first callback that fails.
-/

namespace MultiSocketRudp
namespace SessionPacketOrderer

open Dictionary ReceivePath SerialNumber

namespace Orderer

variable {Payload : Type}
variable {callback : Payload → PacketSequence → Bool}
variable {orderer : Orderer Payload} {frame : DataFrame Payload}

/-! ## The held packets -/

/-- The sequences of the held packets. -/
def heldSequences (orderer : Orderer Payload) : List PacketSequence :=
  orderer.recvHoldingPackets.map DataFrame.packetSequence

/-- The buffers of the held packets. -/
def heldBuffers (orderer : Orderer Payload) : List Payload :=
  orderer.recvHoldingPackets.map DataFrame.payload

/-- The held sequences that are ahead of the expected one. -/
def futureSequences (orderer : Orderer Payload) : Finset PacketSequence :=
  orderer.heldSequences.toFinset.filter fun packetSequence =>
    0 < signedDiff packetSequence orderer.nextRecvPacketSequence

/-- No held sequence is at or before the expected one. -/
def AllAhead (orderer : Orderer Payload) : Prop :=
  ∀ packetSequence ∈ orderer.heldSequences,
    0 < signedDiff packetSequence orderer.nextRecvPacketSequence

instance (orderer : Orderer Payload) : Decidable orderer.AllAhead :=
  List.decidableBAll _ _

/-- The expected sequence of an orderer moves on. -/
def advance (orderer : Orderer Payload) : Orderer Payload :=
  { orderer with
    nextRecvPacketSequence := orderer.nextRecvPacketSequence + 1 }

/-- If no held sequence is at or before the expected one, the expected one is not
held. -/
theorem AllAhead.find_eq_none
    (ahead : orderer.AllAhead) :
    orderer.find orderer.nextRecvPacketSequence = none := by
  by_contra found
  obtain ⟨held, keeps⟩ := Option.ne_none_iff_exists'.mp found
  obtain ⟨member, same⟩ := mem_of_lookup keeps
  have positive := ahead _ (List.mem_map_of_mem member)
  rw [same, signedDiff_self] at positive
  exact absurd positive (lt_irrefl 0)

/-- An expected sequence that is not held is erased without effect. -/
theorem erase_eq_self
    {packetSequence : PacketSequence}
    (missing : orderer.find packetSequence = none) :
    orderer.erase packetSequence = orderer := by
  rw [erase, remove_eq_self missing]

/-- `ProcessAndAdvance` of a packet whose sequence is not held. -/
theorem processAndAdvance_of_find_eq_none
    (missing : orderer.find frame.packetSequence = none) :
    processAndAdvance callback orderer frame =
      (callback frame.payload frame.packetSequence, orderer.advance) := by
  have erased : orderer.advance.erase frame.packetSequence = orderer.advance :=
    erase_eq_self missing
  unfold processAndAdvance
  split
  · next succeeds => exact Prod.ext succeeds.symm erased
  · next fails => exact Prod.ext ((Bool.not_eq_true _).mp fails).symm rfl

/-- The expected sequence is one that is held no more than a callback before. -/
theorem AllAhead.weaken
    (ahead : orderer.AllAhead)
    {packetSequence : PacketSequence}
    (member : packetSequence ∈ orderer.advance.heldSequences) :
    0 ≤ signedDiff packetSequence orderer.advance.nextRecvPacketSequence := by
  have positive := ahead packetSequence member
  have closer := signedDiff_add_one positive
  change 0 ≤ signedDiff packetSequence (orderer.nextRecvPacketSequence + 1)
  omega

/-! ## Draining the queue -/

/-- What draining the queue does: it takes the held packets from the expected
sequence on out of the queue. -/
structure Drains
    (orderer : Orderer Payload)
    (drained : List (DataFrame Payload))
    (after : Orderer Payload) : Prop where
  sequences :
    drained.map DataFrame.packetSequence =
      serialsFrom orderer.nextRecvPacketSequence drained.length
  next :
    after.nextRecvPacketSequence =
      orderer.nextRecvPacketSequence + BitVec.ofNat 64 drained.length
  held :
    orderer.recvHoldingPackets.Perm (drained ++ after.recvHoldingPackets)
  size : after.maxHoldingQueueSize = orderer.maxHoldingQueueSize

/-- Draining nothing. -/
theorem Drains.nothing (orderer : Orderer Payload) :
    Drains orderer [] orderer where
  sequences := rfl
  next := by simp
  held := .rfl
  size := rfl

/-- The packet with the expected sequence is taken out of the queue before the
rest. -/
theorem Drains.cons
    {storedBuffer : DataFrame Payload}
    {drained : List (DataFrame Payload)}
    {after : Orderer Payload}
    (unique : orderer.heldSequences.Nodup)
    (found :
      orderer.find orderer.nextRecvPacketSequence = some storedBuffer)
    (rest :
      Drains (orderer.erase orderer.nextRecvPacketSequence).advance drained
        after) :
    Drains orderer (storedBuffer :: drained) after where
  sequences := by
    have first := (mem_of_lookup found).2
    rw [List.map_cons, first, rest.sequences, List.length_cons,
      serialsFrom_succ]
    rfl
  next := by
    rw [rest.next, List.length_cons, ← add_one_add_ofNat]
    rfl
  held := (perm_cons_remove unique found).trans (rest.held.cons storedBuffer)
  size := rest.size

/-- Taking a packet out of the queue leaves no sequence held twice. -/
theorem nodup_erase
    (unique : orderer.heldSequences.Nodup)
    (packetSequence : PacketSequence) :
    (orderer.erase packetSequence).heldSequences.Nodup :=
  unique.sublist (List.filter_sublist.map _)

/-- `ProcessAndAdvance` of a packet that has been taken out of the queue. -/
theorem processAndAdvance_stored
    {storedBuffer : DataFrame Payload}
    (found :
      orderer.find orderer.nextRecvPacketSequence = some storedBuffer) :
    processAndAdvance callback
        (orderer.erase orderer.nextRecvPacketSequence) storedBuffer =
      (callback storedBuffer.payload storedBuffer.packetSequence,
        (orderer.erase orderer.nextRecvPacketSequence).advance) := by
  refine processAndAdvance_of_find_eq_none ?_
  rw [(mem_of_lookup found).2]
  exact lookup_remove_self _ _

/-- `ProcessHoldingPacket` drains the queue, whether a callback fails or not. -/
theorem processHoldingPacket_drains
    (unique : orderer.heldSequences.Nodup) :
    Drains orderer (processHoldingPacket callback orderer).2.1
      (processHoldingPacket callback orderer).2.2 := by
  fun_induction processHoldingPacket callback orderer with
  | case1 orderer missing => exact .nothing orderer
  | case2 orderer storedBuffer found _ succeeded inductionHypothesis =>
      simp only [processAndAdvance_stored found] at inductionHypothesis ⊢
      exact .cons unique found
        (inductionHypothesis (nodup_erase unique _))
  | case3 orderer storedBuffer found _ failed =>
      simp only [processAndAdvance_stored found]
      exact .cons unique found (.nothing _)

/-- After a drain in which no callback fails nothing is held that is at or before
the expected sequence. -/
theorem processHoldingPacket_allAhead
    (notBehind : ∀ packetSequence ∈ orderer.heldSequences,
      0 ≤ signedDiff packetSequence orderer.nextRecvPacketSequence)
    (succeeded : (processHoldingPacket callback orderer).1 = true) :
    (processHoldingPacket callback orderer).2.2.AllAhead := by
  fun_induction processHoldingPacket callback orderer with
  | case1 orderer missing =>
      intro packetSequence member
      refine (notBehind packetSequence member).lt_of_ne fun same => ?_
      have expected := eq_of_signedDiff_eq_zero same.symm
      exact not_mem_of_lookup missing (expected ▸ member)
  | case2 orderer storedBuffer found _ _ inductionHypothesis =>
      simp only [processAndAdvance_stored found] at inductionHypothesis ⊢
      refine inductionHypothesis (fun packetSequence member => ?_)
        (by simpa [processAndAdvance_stored found] using succeeded)
      refine AllAhead.weaken (fun other remains => ?_) member
      obtain ⟨held, kept, rfl⟩ := List.mem_map.mp remains
      obtain ⟨before, different⟩ := List.mem_filter.mp kept
      refine (notBehind _ (List.mem_map_of_mem before)).lt_of_ne fun same => ?_
      have expected := eq_of_signedDiff_eq_zero same.symm
      simp [expected] at different
  | case3 orderer storedBuffer found _ failed =>
      exact absurd succeeded Bool.false_ne_true

/-- Sequences from the expected one on are held, and the callback fails for one
of them. -/
def DrainFails
    (callback : Payload → PacketSequence → Bool)
    (orderer : Orderer Payload) : Prop :=
  ∃ steps : Nat, steps < 2 ^ 64 ∧
    (∀ earlier < steps,
      (orderer.find
        (orderer.nextRecvPacketSequence + BitVec.ofNat 64 earlier)).isSome) ∧
    ∃ stored ∈ orderer.find
        (orderer.nextRecvPacketSequence + BitVec.ofNat 64 steps),
      callback stored.payload stored.packetSequence = false

/-- The sequences after the expected one are found as before. -/
theorem find_after_erase
    (step : Nat) (bound : step + 1 < 2 ^ 64) :
    (orderer.erase orderer.nextRecvPacketSequence).advance.find
        ((orderer.erase
          orderer.nextRecvPacketSequence).advance.nextRecvPacketSequence +
            BitVec.ofNat 64 step) =
      orderer.find
        (orderer.nextRecvPacketSequence + BitVec.ofNat 64 (step + 1)) := by
  have same :=
    add_one_add_ofNat orderer.nextRecvPacketSequence step
  refine (congrArg _ same).trans (lookup_remove_of_ne (fun equal => ?_) _)
  have offset : BitVec.ofNat 64 (step + 1) = 0 := by
    simpa using equal
  have zero := congrArg BitVec.toNat offset
  rw [BitVec.toNat_ofNat, Nat.mod_eq_of_lt bound] at zero
  exact absurd zero (Nat.succ_ne_zero step)

/-- The drain stops at the callback that fails, if not before. -/
theorem processHoldingPacket_of_drainFails
    (fails : DrainFails callback orderer) :
    (processHoldingPacket callback orderer).1 = false := by
  obtain ⟨steps, small, held, stored, found, failed⟩ := fails
  fun_induction processHoldingPacket callback orderer
    generalizing steps with
  | case1 orderer missing =>
      cases steps with
      | zero => simp [missing] at found
      | succ steps =>
          have first := held 0 steps.succ_pos
          simp [missing] at first
  | case2 orderer storedBuffer foundNow _ succeeded inductionHypothesis =>
      simp only [processAndAdvance_stored foundNow] at inductionHypothesis ⊢
      cases steps with
      | zero =>
          rw [BitVec.add_zero, foundNow] at found
          obtain rfl := Option.some.inj found
          simp [processAndAdvance_stored foundNow, failed] at succeeded
      | succ steps =>
          refine inductionHypothesis steps (by omega) (fun earlier before => ?_)
            ?_
          · rw [find_after_erase earlier (by omega)]
            exact held (earlier + 1) (by omega)
          · rw [find_after_erase steps small]
            exact found
  | case3 orderer storedBuffer foundNow _ _ => rfl

end Orderer
end SessionPacketOrderer
end MultiSocketRudp
