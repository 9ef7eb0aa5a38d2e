import MultiSocketRudp.Server.ReceiveLockstep

/-!
# The advertised window and the held packets

A session advertises its whole window in every reply, because a packet is marked
in the window when its handler has returned and not when it is held.  So the
window byte is the room that is left exactly when nothing is held, and a run
tells the truth in all its replies exactly when none is due once a packet is
held.
-/

namespace MultiSocketRudp
namespace ReceivePath

open SerialNumber

variable {Payload : Type}

/-- Every reply advertises the window less what the orderer held when the reply
was built. -/
def Truthful (size : Byte) (replies : List SentReply) : Prop :=
  ∀ sent ∈ replies,
    sent.reply.advertiseWindow.toNat + sent.held = size.toNat

/-- Once a packet has come that must be held, which is inside the window and
ahead of the expected sequence, every later one is ahead of that sequence too. -/
def NoReplyWhileHolding (size : Byte) :
    PacketSequence → List (DataFrame Payload) → Prop
  | _, [] => True
  | expected, frame :: frames =>
      let sequenceDiff := signedDiff frame.packetSequence expected
      if sequenceDiff < 0 then NoReplyWhileHolding size expected frames
      else if sequenceDiff = 0 then
        NoReplyWhileHolding size (expected + 1) frames
      else if sequenceDiff < size.toNat then
        ∀ later ∈ frames, 0 < signedDiff later.packetSequence expected
      else NoReplyWhileHolding size expected frames

theorem truthful_append
    {size : Byte} {first second : List SentReply} :
    Truthful size (first ++ second) ↔
      Truthful size first ∧ Truthful size second :=
  List.forall_mem_append

namespace Lockstep

variable {size : Byte} {session : ServerSession Payload}

/-- A reply tells the truth exactly when nothing is held. -/
theorem truthful_sends_iff
    (lockstep : Lockstep size session)
    (replying : session.sends ≠ []) :
    Truthful size session.sends ↔ session.recvHoldingPackets = [] := by
  unfold ServerSession.sends at replying ⊢
  cases processing : session.processing with
  | replying packetSequence thenDrain =>
      rw [Truthful, List.forall_mem_singleton, lockstep.inStep.reply,
        ← List.length_eq_zero_iff]
      dsimp only
      omega
  | idle | handling | draining | failing =>
      rw [processing] at replying
      exact absurd rfl replying

/-- While nothing is held the rest of a packet holds nothing, expects what was
expected before, and tells the truth. -/
theorem settle_of_nothingHeld
    (lockstep : Lockstep size session)
    (empty : session.recvHoldingPackets = []) :
    session.settle.1.recvHoldingPackets = [] ∧
      session.settle.1.nextRecvPacketSequence =
        session.nextRecvPacketSequence ∧
      Truthful size session.settle.2 := by
  have preserved : ∀ before : ServerSession Payload,
      (Lockstep size before ∧ before.recvHoldingPackets = [] ∧
        before.nextRecvPacketSequence = session.nextRecvPacketSequence) →
      before.processing.isIdle = false →
      Lockstep size before.advance ∧
        before.advance.recvHoldingPackets = [] ∧
        before.advance.nextRecvPacketSequence =
          session.nextRecvPacketSequence := by
    rintro before ⟨kept, nothing, expected⟩ busy
    refine ⟨kept.advance busy, ?_⟩
    unfold ServerSession.advance
    cases processing : before.processing with
    | idle => rw [processing] at busy; cases busy
    | handling frame => exact ⟨nothing, expected⟩
    | replying packetSequence thenDrain =>
        cases thenDrain with
        | false => exact ⟨nothing, expected⟩
        | true => exact ⟨by simp [ServerSession.afterReply, nothing], expected⟩
    | draining => simp [ServerSession.drain, nothing, expected]
    | failing => exact absurd processing kept.works
  obtain ⟨⟨-, nothing, expected⟩, -, visits⟩ :=
    ServerSession.settle_invariant preserved ⟨lockstep, empty, rfl⟩
  refine ⟨nothing, expected, fun sent member => ?_⟩
  obtain ⟨visited, ⟨kept, nothing, -⟩, sends⟩ := visits sent member
  have replying : visited.sends ≠ [] := List.ne_nil_of_mem sends
  exact (kept.truthful_sends_iff replying).mpr nothing sent sends

/-- A reply that is due while packets are held does not tell the truth. -/
theorem not_truthful_of_holding
    (lockstep : Lockstep size session)
    (positive : 0 < size.toNat)
    (idle : session.processing = .idle)
    (holding : session.recvHoldingPackets ≠ [])
    {frame : DataFrame Payload}
    (due : signedDiff frame.packetSequence
      session.nextRecvPacketSequence ≤ 0) :
    ¬ Truthful size (session.receive frame).2 := by
  have entered := lockstep.onRecvPacket positive idle frame
  obtain ⟨next, moves, received⟩ := lockstep.received positive idle frame
  rw [moves] at entered
  rw [ServerSession.receive, moves]
  cases received with
  | older =>
      rw [ServerSession.settle_of_busy rfl, truthful_append,
        entered.truthful_sends_iff (List.cons_ne_nil _ _)]
      exact fun both => holding both.1
  | expected =>
      rw [ServerSession.settle_of_busy rfl, truthful_append,
        ServerSession.settle_of_busy rfl, truthful_append,
        (entered.advance rfl).truthful_sends_iff (List.cons_ne_nil _ _)]
      exact fun both => holding both.2.1
  | known | holds | outside => omega

/-- While packets are held the replies tell the truth exactly when none is
due. -/
theorem truthful_receiveAll_of_holding
    (lockstep : Lockstep size session)
    (positive : 0 < size.toNat)
    (idle : session.processing = .idle)
    (holding : session.recvHoldingPackets ≠ [])
    (frames : List (DataFrame Payload)) :
    Truthful size (session.receiveAll frames).2 ↔
      ∀ later ∈ frames,
        0 < signedDiff later.packetSequence
          session.nextRecvPacketSequence := by
  induction frames generalizing session with
  | nil => exact ⟨fun _ => by simp, fun _ => by rintro _ ⟨⟩⟩
  | cons frame frames inductionHypothesis =>
      rw [ServerSession.receiveAll, truthful_append, List.forall_mem_cons]
      by_cases due : signedDiff frame.packetSequence
          session.nextRecvPacketSequence ≤ 0
      · have lies := lockstep.not_truthful_of_holding positive idle holding due
        exact iff_of_false (fun both => lies both.1)
          fun both => absurd both.1 (by omega)
      · obtain ⟨after, waits⟩ := lockstep.receive positive idle frame
        obtain ⟨next, moves, received⟩ := lockstep.received positive idle frame
        have settled : session.receive frame = (next, []) ∧
            next.recvHoldingPackets ≠ [] ∧
            next.nextRecvPacketSequence = session.nextRecvPacketSequence := by
          rw [ServerSession.receive, moves]
          cases received with
          | older => omega
          | expected same => rw [same, signedDiff_self] at due; omega
          | known | outside =>
              exact ⟨ServerSession.settle_of_idle idle, holding, rfl⟩
          | holds =>
              exact ⟨ServerSession.settle_of_idle idle,
                List.cons_ne_nil _ _, rfl⟩
        obtain ⟨call, still, expected⟩ := settled
        rw [call] at after waits ⊢
        rw [inductionHypothesis after waits still, expected]
        exact and_congr_left' (iff_of_true (by rintro _ ⟨⟩) (by omega))

/-- While nothing is held the replies tell the truth exactly when none is due
from the first held packet on. -/
theorem truthful_receiveAll_of_nothingHeld
    (lockstep : Lockstep size session)
    (positive : 0 < size.toNat)
    (idle : session.processing = .idle)
    (empty : session.recvHoldingPackets = [])
    (frames : List (DataFrame Payload)) :
    Truthful size (session.receiveAll frames).2 ↔
      NoReplyWhileHolding size session.nextRecvPacketSequence frames := by
  induction frames generalizing session with
  | nil => exact iff_of_true (by rintro _ ⟨⟩) trivial
  | cons frame frames inductionHypothesis =>
      have entered := lockstep.onRecvPacket positive idle frame
      obtain ⟨after, waits⟩ := lockstep.receive positive idle frame
      obtain ⟨next, moves, received⟩ := lockstep.received positive idle frame
      rw [ServerSession.receiveAll, truthful_append, NoReplyWhileHolding]
      rw [ServerSession.receive, moves] at after waits ⊢
      rw [moves] at entered
      cases received with
      | older older =>
          obtain ⟨nothing, expected, truthful⟩ :=
            entered.settle_of_nothingHeld empty
          rw [if_pos older, inductionHypothesis after waits nothing, expected]
          exact and_iff_right truthful
      | expected same =>
          obtain ⟨nothing, expected, truthful⟩ :=
            entered.settle_of_nothingHeld empty
          rw [if_neg (by simp [same]), if_pos (by simp [same]),
            inductionHypothesis after waits nothing, expected]
          exact and_iff_right truthful
      | known ahead stored =>
          rw [empty] at stored
          cases stored
      | holds ahead inside =>
          rw [if_neg (by omega), if_neg (by omega), if_pos inside]
          have waiting : { session with
              recvHoldingPackets :=
                frame :: session.recvHoldingPackets }.processing = .idle := idle
          rw [ServerSession.settle_of_idle waiting] at after waits ⊢
          rw [after.truthful_receiveAll_of_holding positive waits
            (List.cons_ne_nil _ _)]
          exact and_iff_right (by rintro _ ⟨⟩)
      | outside beyond =>
          rw [ServerSession.settle_of_idle idle] at after waits ⊢
          rw [if_neg (by omega), if_neg (by omega), if_neg (by omega),
            inductionHypothesis after waits empty]
          exact and_iff_right (by rintro _ ⟨⟩)

end Lockstep

/-- Every SEND_REPLY of a run from a successful `TryConnect` on advertises the
window less what is held, exactly when no packet at or before the expected
sequence comes after one that is held. -/
theorem truthful_iff_noReplyWhileHolding
    (size : Byte)
    (positive : 1 ≤ size.toNat)
    (session : ServerSession Payload)
    (reserved : Reserved size session)
    (inClientAddr : SockaddrIn)
    (frames : List (DataFrame Payload)) :
    Truthful size
        ((session.connect inClientAddr).2 ++
          ((session.connect inClientAddr).1.receiveAll frames).2) ↔
      NoReplyWhileHolding size (loginPacketSequence + 1) frames := by
  have connects := reserved.tryConnect inClientAddr
  have reset : (session.tryConnect loginPacketSequence session.sessionId
      inClientAddr).recvHoldingPackets = [] ∧
      (session.tryConnect loginPacketSequence session.sessionId
        inClientAddr).nextRecvPacketSequence = loginPacketSequence + 1 := by
    simp [ServerSession.tryConnect, reserved.reserved,
      SessionState.tryTransitionToConnected]
  obtain ⟨connected, waits⟩ := reserved.connect inClientAddr
  obtain ⟨empty, expected, truthful⟩ :=
    connects.settle_of_nothingHeld reset.1
  rw [truthful_append, ← reset.2, ← expected]
  exact (and_iff_right truthful).trans
    (connected.truthful_receiveAll_of_nothingHeld positive waits empty frames)

/-- A session with a window of four packets. -/
def windowOfFour : ServerSession Nat :=
  .reserved 7 4

/-- Packets in order are acknowledged with the truth. -/
theorem truthful_of_inOrder :
    Truthful 4
        ((windowOfFour.connect ⟨1, 1⟩).2 ++
          ((windowOfFour.connect ⟨1, 1⟩).1.receiveAll
            [⟨1, 10⟩, ⟨2, 20⟩, ⟨1, 10⟩]).2) ↔
      NoReplyWhileHolding 4 (loginPacketSequence + 1)
        [(⟨1, 10⟩ : DataFrame Nat), ⟨2, 20⟩, ⟨1, 10⟩] :=
  truthful_iff_noReplyWhileHolding 4 (by decide) windowOfFour
    ⟨rfl, rfl, rfl, rfl, rfl⟩ ⟨1, 1⟩ [⟨1, 10⟩, ⟨2, 20⟩, ⟨1, 10⟩]

/-- Packet 2 comes before packet 1: the reply to packet 1 advertises the whole
window while packet 2 is held. -/
theorem truthful_fails_of_reordering :
    ((windowOfFour.connect ⟨1, 1⟩).1.receiveAll [⟨2, 20⟩, ⟨1, 10⟩]).2 =
        [⟨⟨1, 4⟩, 1⟩, ⟨⟨2, 4⟩, 0⟩] ∧
      ¬ Truthful 4
        ((windowOfFour.connect ⟨1, 1⟩).2 ++
          ((windowOfFour.connect ⟨1, 1⟩).1.receiveAll
            [⟨2, 20⟩, ⟨1, 10⟩]).2) := by
  have replies :
      (windowOfFour.connect ⟨1, 1⟩).2 ++
        ((windowOfFour.connect ⟨1, 1⟩).1.receiveAll
          [⟨2, 20⟩, ⟨1, 10⟩]).2 =
        [⟨⟨0, 4⟩, 0⟩, ⟨⟨1, 4⟩, 1⟩, ⟨⟨2, 4⟩, 0⟩] := rfl
  refine ⟨rfl, fun truthful => ?_⟩
  rw [replies] at truthful
  exact absurd (truthful ⟨⟨1, 4⟩, 1⟩ (by simp)) (by decide)

end ReceivePath
end MultiSocketRudp
