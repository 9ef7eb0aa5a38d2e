import MultiSocketRudp.Server.AdvertisedWindow
import Mathlib.Data.Int.Interval

/-!
# The orderer and the receive window of a session

The orderer counts the expected sequence up before it calls the handler, and the
receive window moves when the handler has returned.  Between two calls of
`OnRecvPacket` the two agree, and what the orderer holds lies inside the window
and after its start, so the window is full before the holding queue is.

The calls are put together from the steps of the receive path, with handlers
that succeed.
-/

namespace MultiSocketRudp
namespace ReceivePath

open SerialNumber

variable {Payload : Type}

/-- A reply, with the number of packets that the orderer held when it was
built. -/
structure SentReply where
  reply : SendReply
  held : Nat
  deriving DecidableEq, Repr

/-! ## Whole calls -/

/-- The receive-logic thread waits for the next packet. -/
def Processing.isIdle : Processing Payload → Bool
  | .idle => true
  | .handling _ | .replying _ _ | .draining | .failing => false

namespace ServerSession

/-- One step of the receive-logic thread, with a handler that succeeds. -/
def advance (session : ServerSession Payload) : ServerSession Payload :=
  match session.processing with
  | .idle => session
  | .handling frame => session.processPacket frame .succeeded
  | .replying packetSequence thenDrain =>
      session.afterReply packetSequence thenDrain
  | .draining => session.drain
  | .failing => session.disconnectByError

/-- The reply that a step builds. -/
def sends (session : ServerSession Payload) : List SentReply :=
  match session.processing with
  | .replying packetSequence _ =>
      [⟨session.reply packetSequence, session.recvHoldingPackets.length⟩]
  | .idle | .handling _ | .draining | .failing => []

/-- The steps to the end of the packet, with a bound on their number, and the
replies. -/
def settleWithin :
    Nat → ServerSession Payload → ServerSession Payload × List SentReply
  | 0, session => (session, [])
  | bound + 1, session =>
      if session.processing.isIdle then (session, [])
      else
        let rest := settleWithin bound session.advance
        (rest.1, session.sends ++ rest.2)

/-- The steps that a packet still takes, at most. -/
def remaining (session : ServerSession Payload) : Nat :=
  4 * session.recvHoldingPackets.length +
    match session.processing with
    | .idle => 0
    | .draining | .failing => 1
    | .replying _ _ => 2
    | .handling _ => 3

/-- All steps to the end of the packet. -/
def settle (session : ServerSession Payload) :
    ServerSession Payload × List SentReply :=
  settleWithin session.remaining session

/-- A call of `OnRecvPacket`, with the replies that it sends. -/
def receive
    (session : ServerSession Payload) (frame : DataFrame Payload) :
    ServerSession Payload × List SentReply :=
  (session.onRecvPacket frame).settle

/-- Calls of `OnRecvPacket` one after the other, with their replies. -/
def receiveAll :
    ServerSession Payload → List (DataFrame Payload) →
    ServerSession Payload × List SentReply
  | session, [] => (session, [])
  | session, frame :: frames =>
      let first := session.receive frame
      let rest := receiveAll first.1 frames
      (rest.1, first.2 ++ rest.2)

/-- The session after a successful `TryConnect`, with its reply. -/
def connect
    (session : ServerSession Payload)
    (inClientAddr : SockaddrIn) :
    ServerSession Payload × List SentReply :=
  (session.tryConnect loginPacketSequence session.sessionId
    inClientAddr).settle

/-! ## The steps of a packet come to an end -/

/-- A disconnect with an error ends the packet and touches the lifecycle only. -/
theorem disconnectByError_eq (session : ServerSession Payload) :
    ∃ state nowInReleaseThread, session.disconnectByError =
      { session with processing := .idle, state, nowInReleaseThread } := by
  unfold disconnectByError doDisconnect
  split
  · exact ⟨_, _, rfl⟩
  · exact ⟨_, _, rfl⟩

/-- Every step takes the thread closer to the end of the packet. -/
theorem remaining_advance
    {session : ServerSession Payload}
    (busy : session.processing.isIdle = false) :
    session.advance.remaining < session.remaining := by
  unfold advance
  cases processing : session.processing with
  | idle => rw [processing] at busy; cases busy
  | handling frame => simp [remaining, processPacket, processing]
  | replying packetSequence thenDrain =>
      have shrinks := List.length_filter_le
        (fun held : DataFrame Payload =>
          decide (held.packetSequence ≠ packetSequence))
        session.recvHoldingPackets
      cases thenDrain with
      | true => simp only [remaining, afterReply, processing, if_true]; omega
      | false => simp [remaining, afterReply, processing]
  | draining =>
      simp only [drain]
      split
      case h_1 => simp [remaining, processing]
      case h_2 frame found =>
      have shrinks : (session.recvHoldingPackets.filter fun held =>
          decide (held.packetSequence ≠
            session.nextRecvPacketSequence)).length <
          session.recvHoldingPackets.length := by
        rw [List.length_filter_lt_length_iff_exists]
        exact ⟨frame, List.mem_of_find?_eq_some found, by
          simpa using List.find?_some found⟩
      simp only [remaining, processing]
      omega
  | failing =>
      obtain ⟨state, released, same⟩ := session.disconnectByError_eq
      simp [remaining, same, processing]

/-- With enough steps the bound does not matter. -/
theorem settleWithin_eq
    (bound : Nat)
    {session : ServerSession Payload} {other : Nat}
    (enough : session.remaining ≤ bound)
    (also : session.remaining ≤ other) :
    settleWithin bound session = settleWithin other session := by
  induction bound generalizing session other with
  | zero =>
      cases busy : session.processing.isIdle with
      | true => cases other <;> simp [settleWithin, busy]
      | false =>
          have closer := remaining_advance busy
          omega
  | succ bound inductionHypothesis =>
      cases busy : session.processing.isIdle with
      | true => cases other <;> simp [settleWithin, busy]
      | false =>
          have closer := remaining_advance busy
          obtain ⟨other, rfl⟩ : ∃ less, other = less + 1 :=
            ⟨other - 1, by omega⟩
          have rest : settleWithin bound session.advance =
              settleWithin other session.advance :=
            inductionHypothesis (by omega) (by omega)
          simp only [settleWithin, busy, rest]

/-- A thread that waits has no steps to take. -/
theorem settle_of_idle
    {session : ServerSession Payload}
    (idle : session.processing = .idle) :
    session.settle = (session, []) := by
  unfold settle
  cases session.remaining <;> simp [settleWithin, idle, Processing.isIdle]

/-- A busy thread takes one step and then the others. -/
theorem settle_of_busy
    {session : ServerSession Payload}
    (busy : session.processing.isIdle = false) :
    session.settle =
      (session.advance.settle.1, session.sends ++ session.advance.settle.2) := by
  have closer := remaining_advance busy
  obtain ⟨less, steps⟩ : ∃ less, session.remaining = less + 1 :=
    ⟨session.remaining - 1, by omega⟩
  have rest : settleWithin less session.advance = session.advance.settle :=
    settleWithin_eq less (by omega) le_rfl
  rw [settle, steps, settleWithin, busy, rest]
  rfl

/-- What every step preserves holds at the end of a packet, where the thread
waits, and every reply is built in a state where it holds. -/
theorem settle_invariant
    {Invariant : ServerSession Payload → Prop}
    (preserved : ∀ session : ServerSession Payload,
      Invariant session → session.processing.isIdle = false →
      Invariant session.advance)
    {session : ServerSession Payload}
    (holds : Invariant session) :
    Invariant session.settle.1 ∧ session.settle.1.processing = .idle ∧
      ∀ sent ∈ session.settle.2,
        ∃ visited : ServerSession Payload,
          Invariant visited ∧ sent ∈ visited.sends := by
  induction steps : session.remaining using Nat.strong_induction_on
    generalizing session with
  | h steps inductionHypothesis =>
      subst steps
      cases stands : session.processing.isIdle with
      | true =>
          have idle : session.processing = .idle := by
            cases processing : session.processing with
            | idle => rfl
            | handling | replying | draining | failing =>
                rw [processing] at stands
                cases stands
          rw [settle_of_idle idle]
          exact ⟨holds, idle, nofun⟩
      | false =>
          obtain ⟨after, idle, visits⟩ :=
            inductionHypothesis _ (remaining_advance stands)
              (preserved session holds stands) rfl
          rw [settle_of_busy stands]
          refine ⟨after, idle, fun sent member => ?_⟩
          obtain first | later := List.mem_append.mp member
          · exact ⟨session, holds, first⟩
          · exact visits sent later

end ServerSession

/-! ## The lockstep -/

/-- How far a held packet is ahead of the expected sequence, at least. -/
def Processing.lead : Processing Payload → Int
  | .idle | .replying _ false | .failing => 1
  | .handling _ | .replying _ true | .draining => 0

/-- The orderer and the receive window agree, and what is held lies in the
window, ahead of the expected sequence. -/
structure Lockstep
    (size : Byte) (session : ServerSession Payload) : Prop where
  inStep : InStep size session
  capacity : session.maxHoldingQueueSize = size
  unreleased : session.nowInReleaseThread = false
  works : session.processing ≠ .failing
  distinct :
    (session.recvHoldingPackets.map DataFrame.packetSequence).Nodup
  ahead : ∀ held ∈ session.recvHoldingPackets,
    session.processing.lead ≤
        signedDiff held.packetSequence session.nextRecvPacketSequence ∧
      signedDiff held.packetSequence session.nextRecvPacketSequence <
        size.toNat

/-- Distinct sequences ahead of the expected one and inside a window are fewer
than the window is long. -/
theorem length_lt_of_ahead
    {size : Nat} {expected : PacketSequence} {held : List PacketSequence}
    (positive : 0 < size)
    (distinct : held.Nodup)
    (ahead : ∀ sequence ∈ held,
      0 < signedDiff sequence expected ∧ signedDiff sequence expected < size) :
    held.length < size := by
  have distances : (held.map fun sequence =>
      signedDiff sequence expected).Nodup :=
    distinct.map fun _ _ same => eq_of_signedDiff_eq same
  have inside : (held.map fun sequence =>
      signedDiff sequence expected).toFinset ⊆ Finset.Ioo 0 (size : Int) := by
    intro distance member
    obtain ⟨sequence, present, rfl⟩ :=
      List.mem_map.mp (List.mem_toFinset.mp member)
    exact Finset.mem_Ioo.mpr (ahead sequence present)
  have fewer := Finset.card_le_card inside
  rw [List.toFinset_card_of_nodup distances, List.length_map,
    Int.card_Ioo] at fewer
  omega

/-- What `OnRecvPacket` does up to the first call back, while the orderer and the
window are in lockstep. -/
inductive Received
    (size : Byte) (session : ServerSession Payload)
    (frame : DataFrame Payload) : ServerSession Payload → Prop
  /-- It acknowledges an older packet again. -/
  | older :
      signedDiff frame.packetSequence session.nextRecvPacketSequence < 0 →
      Received size session frame
        { session with processing := .replying frame.packetSequence false }
  /-- It hands the expected packet to its handler. -/
  | expected :
      frame.packetSequence = session.nextRecvPacketSequence →
      Received size session frame
        { session with
          nextRecvPacketSequence := session.nextRecvPacketSequence + 1
          processing := .handling frame }
  /-- It drops a packet whose sequence is held. -/
  | known {held : DataFrame Payload} :
      0 < signedDiff frame.packetSequence session.nextRecvPacketSequence →
      held ∈ session.recvHoldingPackets →
      held.packetSequence = frame.packetSequence →
      Received size session frame session
  /-- It holds a packet. -/
  | holds :
      0 < signedDiff frame.packetSequence session.nextRecvPacketSequence →
      signedDiff frame.packetSequence session.nextRecvPacketSequence <
        size.toNat →
      frame.packetSequence ∉
        session.recvHoldingPackets.map DataFrame.packetSequence →
      Received size session frame
        { session with
          recvHoldingPackets := frame :: session.recvHoldingPackets }
  /-- It drops a packet that is outside the window. -/
  | outside :
      (size.toNat : Int) ≤
        signedDiff frame.packetSequence session.nextRecvPacketSequence →
      Received size session frame session

namespace Lockstep

variable {size : Byte} {session : ServerSession Payload}

/-- The expected sequence is the window start while the thread waits. -/
theorem start
    (lockstep : Lockstep size session)
    (idle : session.processing = .idle) :
    session.receiveWindow.windowStart = session.nextRecvPacketSequence := by
  have aligned := lockstep.inStep.aligned
  unfold Aligned at aligned
  rw [idle] at aligned
  exact aligned lockstep.unreleased

/-- What is held is ahead of the expected sequence while the thread waits. -/
theorem ahead_of_idle
    (lockstep : Lockstep size session)
    (idle : session.processing = .idle)
    {held : DataFrame Payload}
    (member : held ∈ session.recvHoldingPackets) :
    0 < signedDiff held.packetSequence session.nextRecvPacketSequence ∧
      signedDiff held.packetSequence session.nextRecvPacketSequence <
        size.toNat := by
  have ahead := lockstep.ahead held member
  rw [idle] at ahead
  exact ahead

/-- The holding queue of a thread that waits has room. -/
theorem room
    (lockstep : Lockstep size session)
    (positive : 0 < size.toNat)
    (idle : session.processing = .idle)
    {frame : DataFrame Payload}
    (ahead : 0 < signedDiff frame.packetSequence
      session.nextRecvPacketSequence)
    (inside : signedDiff frame.packetSequence
      session.nextRecvPacketSequence < size.toNat)
    (absent : frame.packetSequence ∉
      session.recvHoldingPackets.map DataFrame.packetSequence) :
    session.recvHoldingPackets.length < session.maxHoldingQueueSize.toNat := by
  have all : ∀ sequence ∈ frame.packetSequence ::
      session.recvHoldingPackets.map DataFrame.packetSequence,
      0 < signedDiff sequence session.nextRecvPacketSequence ∧
        signedDiff sequence session.nextRecvPacketSequence < size.toNat := by
    intro sequence member
    obtain rfl | present := List.mem_cons.mp member
    · exact ⟨ahead, inside⟩
    · obtain ⟨held, stored, rfl⟩ := List.mem_map.mp present
      exact lockstep.ahead_of_idle idle stored
  have fits := length_lt_of_ahead positive
    (List.nodup_cons.mpr ⟨absent, lockstep.distinct⟩) all
  rw [lockstep.capacity]
  simp only [List.length_cons, List.length_map] at fits
  omega

/-- In lockstep there are five things that `OnRecvPacket` can do. -/
theorem received
    (lockstep : Lockstep size session)
    (positive : 0 < size.toNat)
    (idle : session.processing = .idle)
    (frame : DataFrame Payload) :
    ∃ next, session.onRecvPacket frame = next ∧
      Received size session frame next := by
  refine ⟨_, rfl, ?_⟩
  unfold ServerSession.onRecvPacket
  split
  case isTrue older => exact .older older
  case isFalse newer =>
  split
  case isFalse refused =>
    refine .outside ?_
    simp only [RudpReceiveWindow.canReceive, decide_eq_true_eq,
      lockstep.start idle, lockstep.inStep.size] at refused
    omega
  case isTrue accepted =>
  simp only [RudpReceiveWindow.canReceive, decide_eq_true_eq,
    lockstep.start idle, lockstep.inStep.size] at accepted
  unfold ServerSession.onReceive
  dsimp only
  rw [if_neg newer]
  split
  case isTrue same => exact .expected (eq_of_signedDiff_eq_zero same)
  case isFalse distinct =>
  have ahead : 0 < signedDiff frame.packetSequence
      session.nextRecvPacketSequence := by
    omega
  split
  case isTrue known =>
    obtain ⟨held, stored, same⟩ := List.any_eq_true.mp known
    exact .known ahead stored (of_decide_eq_true same)
  case isFalse unknown =>
  have absent : frame.packetSequence ∉
      session.recvHoldingPackets.map DataFrame.packetSequence := by
    simpa using unknown
  have room := lockstep.room positive idle ahead accepted.2 absent
  rw [if_neg (by omega)]
  exact .holds ahead accepted.2 absent

/-- The lockstep after `OnRecvPacket` up to the first call back. -/
theorem onRecvPacket
    (lockstep : Lockstep size session)
    (positive : 0 < size.toNat)
    (idle : session.processing = .idle)
    (frame : DataFrame Payload) :
    Lockstep size (session.onRecvPacket frame) := by
  have inStep :=
    lockstep.inStep.onRecvPacket idle lockstep.unreleased frame
  have before : ∀ held ∈ session.recvHoldingPackets,
      0 < signedDiff held.packetSequence session.nextRecvPacketSequence ∧
        signedDiff held.packetSequence session.nextRecvPacketSequence <
          size.toNat :=
    fun held member => lockstep.ahead_of_idle idle member
  obtain ⟨next, moves, received⟩ := lockstep.received positive idle frame
  rw [moves] at inStep ⊢
  cases received with
  | older => exact { lockstep with inStep, works := nofun, ahead := before }
  | expected same =>
      exact
        { lockstep with
          inStep
          works := nofun
          ahead := by
            intro held member
            obtain ⟨lower, upper⟩ := before held member
            change 0 ≤ signedDiff _ (session.nextRecvPacketSequence + 1) ∧
              signedDiff _ (session.nextRecvPacketSequence + 1) < _
            rw [signedDiff_add_one lower]
            omega }
  | known | outside => exact lockstep
  | holds ahead inside absent =>
      exact
        { lockstep with
          inStep
          distinct := List.nodup_cons.mpr ⟨absent, lockstep.distinct⟩
          ahead := by
            intro held member
            change session.processing.lead ≤ _ ∧ _
            rw [idle]
            obtain rfl | stored := List.mem_cons.mp member
            · exact ⟨ahead, inside⟩
            · exact before held stored }

/-- Every step of the thread keeps the lockstep. -/
theorem advance
    (lockstep : Lockstep size session)
    (busy : session.processing.isIdle = false) :
    Lockstep size session.advance := by
  unfold ServerSession.advance
  cases processing : session.processing with
  | idle => rw [processing] at busy; cases busy
  | failing => exact absurd processing lockstep.works
  | handling frame =>
      have ahead := lockstep.ahead
      rw [processing] at ahead
      exact
        { lockstep with
          inStep := lockstep.inStep.processPacket processing .succeeded
          works := nofun
          ahead := ahead }
  | replying packetSequence thenDrain =>
      have ahead := lockstep.ahead
      rw [processing] at ahead
      have inStep := lockstep.inStep.afterReply processing
      cases thenDrain with
      | false => exact { lockstep with inStep, works := nofun, ahead := ahead }
      | true =>
          exact
            { lockstep with
              inStep
              works := nofun
              distinct := lockstep.distinct.sublist
                (List.filter_sublist.map DataFrame.packetSequence)
              ahead := fun held member =>
                ahead held (List.mem_of_mem_filter member) }
  | draining =>
      have ahead := lockstep.ahead
      rw [processing] at ahead
      have inStep := lockstep.inStep.drain processing
      have beyond : ∀ held ∈ session.recvHoldingPackets,
          held.packetSequence ≠ session.nextRecvPacketSequence →
          0 < signedDiff held.packetSequence
            session.nextRecvPacketSequence := by
        intro held member distinct
        refine lt_of_le_of_ne (ahead held member).1 fun zero => ?_
        exact distinct (eq_of_signedDiff_eq_zero zero.symm)
      unfold ServerSession.drain at inStep ⊢
      dsimp only at inStep ⊢
      split at inStep
      case h_1 missing =>
        have absent : ∀ held ∈ session.recvHoldingPackets,
            held.packetSequence ≠ session.nextRecvPacketSequence := by
          simpa using missing
        exact
          { lockstep with
            inStep
            works := nofun
            ahead := fun held member =>
              ⟨beyond held member (absent held member),
                (ahead held member).2⟩ }
      case h_2 frame found =>
        exact
          { lockstep with
            inStep
            works := nofun
            distinct := lockstep.distinct.sublist
              (List.filter_sublist.map DataFrame.packetSequence)
            ahead := by
              intro held member
              obtain ⟨stored, distinct⟩ := List.mem_filter.mp member
              have lower := beyond held stored (by simpa using distinct)
              have upper := (ahead held stored).2
              change 0 ≤ signedDiff _ (session.nextRecvPacketSequence + 1) ∧
                signedDiff _ (session.nextRecvPacketSequence + 1) < _
              rw [signedDiff_add_one lower]
              omega }

/-- The lockstep after a whole call of `OnRecvPacket`. -/
theorem receive
    (lockstep : Lockstep size session)
    (positive : 0 < size.toNat)
    (idle : session.processing = .idle)
    (frame : DataFrame Payload) :
    Lockstep size (session.receive frame).1 ∧
      (session.receive frame).1.processing = .idle := by
  obtain ⟨after, waits, -⟩ := ServerSession.settle_invariant
    (fun _ holds busy => holds.advance busy)
    (lockstep.onRecvPacket positive idle frame)
  exact ⟨after, waits⟩

/-- The lockstep after any number of calls. -/
theorem receiveAll
    (lockstep : Lockstep size session)
    (positive : 0 < size.toNat)
    (idle : session.processing = .idle)
    (frames : List (DataFrame Payload)) :
    Lockstep size (session.receiveAll frames).1 ∧
      (session.receiveAll frames).1.processing = .idle := by
  induction frames generalizing session with
  | nil => exact ⟨lockstep, idle⟩
  | cons frame frames inductionHypothesis =>
      obtain ⟨after, waits⟩ := lockstep.receive positive idle frame
      exact inductionHypothesis after waits

end Lockstep

/-! ## From a successful `TryConnect` -/

/-- A reserved session whose window and holding queue have the same size. -/
structure Reserved
    (size : Byte) (session : ServerSession Payload) : Prop where
  reserved : session.state = .reserved
  unreleased : session.nowInReleaseThread = false
  capacity : session.maxHoldingQueueSize = size
  window : session.receiveWindow.windowSize = size
  flags : session.receiveWindow.receivedFlags.length = size.toNat

/-- `TryConnect` resets the orderer and the window to the same sequence. -/
theorem Reserved.tryConnect
    {size : Byte} {session : ServerSession Payload}
    (reserved : Reserved size session)
    (inClientAddr : SockaddrIn) :
    Lockstep size
      (session.tryConnect loginPacketSequence session.sessionId
        inClientAddr) := by
  unfold ServerSession.tryConnect
  simp only [ne_eq, not_true_eq_false, or_self, if_false, reserved.reserved,
    SessionState.tryTransitionToConnected]
  exact
    { inStep :=
        { size := reserved.window
          clear :=
            { flags := by
                change List.replicate
                  session.receiveWindow.receivedFlags.length false =
                  List.replicate session.receiveWindow.windowSize.toNat false
                rw [reserved.flags, reserved.window]
              unused := rfl
              start := Nat.eq_zero_or_pos _ }
          aligned := ⟨nofun, rfl⟩ }
      capacity := reserved.capacity
      unreleased := reserved.unreleased
      works := nofun
      distinct := List.nodup_nil
      ahead := nofun }

/-- The lockstep after `TryConnect` and its reply. -/
theorem Reserved.connect
    {size : Byte} {session : ServerSession Payload}
    (reserved : Reserved size session)
    (inClientAddr : SockaddrIn) :
    Lockstep size (session.connect inClientAddr).1 ∧
      (session.connect inClientAddr).1.processing = .idle := by
  obtain ⟨after, waits, -⟩ := ServerSession.settle_invariant
    (fun _ holds busy => Lockstep.advance holds busy)
    (reserved.tryConnect inClientAddr)
  exact ⟨after, waits⟩

/-- The expected sequence is the window start, and every held sequence lies
strictly between it and the window end. -/
structure Agrees (session : ServerSession Payload) : Prop where
  start : session.nextRecvPacketSequence = session.receiveWindow.windowStart
  between : ∀ held ∈ session.recvHoldingPackets,
    0 < signedDiff held.packetSequence session.nextRecvPacketSequence ∧
      signedDiff held.packetSequence session.receiveWindow.getWindowEnd < 0
  unexpected : ∀ held ∈ session.recvHoldingPackets,
    held.packetSequence ≠ session.nextRecvPacketSequence

/-- A call has handed the packet to its handler, or the orderer holds a packet
with its sequence, which is this one or one that was held before. -/
def DeliveredOrHeld
    (before after : ServerSession Payload) (frame : DataFrame Payload) :
    Prop :=
  (∃ drained : List Payload,
      after.handlerLog = before.handlerLog ++ frame.payload :: drained) ∨
    ∃ held ∈ after.recvHoldingPackets,
      held.packetSequence = frame.packetSequence ∧
        (held = frame ∨ held ∈ before.recvHoldingPackets)

namespace Lockstep

variable {size : Byte} {session : ServerSession Payload}

/-- In lockstep the orderer and the window agree between two calls. -/
theorem agrees
    (lockstep : Lockstep size session)
    (idle : session.processing = .idle) :
    Agrees session where
  start := (lockstep.start idle).symm
  between := by
    intro held member
    obtain ⟨ahead, inside⟩ := lockstep.ahead_of_idle idle member
    have size_lt : size.toNat < 2 ^ 8 := size.isLt
    have width : (size.setWidth 64).toNat = size.toNat := by
      rw [BitVec.toNat_setWidth]
      omega
    refine ⟨ahead, ?_⟩
    rw [RudpReceiveWindow.getWindowEnd, lockstep.start idle,
      lockstep.inStep.size, signedDiff_add ahead (by omega), width]
    omega
  unexpected := by
    intro held member same
    have ahead := (lockstep.ahead_of_idle idle member).1
    rw [same, signedDiff_self] at ahead
    exact lt_irrefl _ ahead

/-- The steps of a packet only add to what the handlers were called with. -/
theorem handlerLog_settle (session : ServerSession Payload) :
    session.handlerLog <+: session.settle.1.handlerLog := by
  have preserved : ∀ before : ServerSession Payload,
      session.handlerLog <+: before.handlerLog →
      before.processing.isIdle = false →
      session.handlerLog <+: before.advance.handlerLog := by
    intro before logged _
    refine List.IsPrefix.trans logged ?_
    unfold ServerSession.advance
    cases before.processing with
    | idle => exact List.prefix_refl _
    | handling frame => exact List.prefix_append _ _
    | replying packetSequence thenDrain =>
        cases thenDrain <;> exact List.prefix_refl _
    | draining =>
        unfold ServerSession.drain
        dsimp only
        split <;> exact List.prefix_refl _
    | failing =>
        obtain ⟨state, released, same⟩ := before.disconnectByError_eq
        exact same ▸ List.prefix_refl _
  exact (ServerSession.settle_invariant preserved (List.prefix_refl _)).1

/-- A packet inside the window is delivered or held. -/
theorem deliveredOrHeld
    (lockstep : Lockstep size session)
    (positive : 0 < size.toNat)
    (idle : session.processing = .idle)
    {frame : DataFrame Payload}
    (accepted : session.receiveWindow.canReceive frame.packetSequence = true) :
    DeliveredOrHeld session (session.receive frame).1 frame := by
  simp only [RudpReceiveWindow.canReceive, decide_eq_true_eq,
    lockstep.start idle, lockstep.inStep.size] at accepted
  obtain ⟨next, moves, received⟩ := lockstep.received positive idle frame
  rw [ServerSession.receive, moves]
  cases received with
  | older older => omega
  | outside beyond => omega
  | expected same =>
      left
      rw [ServerSession.settle_of_busy rfl]
      obtain ⟨drained, log⟩ := handlerLog_settle
        (ServerSession.advance
          { session with
            nextRecvPacketSequence := session.nextRecvPacketSequence + 1
            processing := .handling frame })
      exact ⟨drained, log.symm.trans (List.append_assoc _ _ _)⟩
  | known ahead stored same =>
      right
      rw [ServerSession.settle_of_idle idle]
      exact ⟨_, stored, same, .inr stored⟩
  | holds ahead inside absent =>
      right
      have waits : { session with
          recvHoldingPackets :=
            frame :: session.recvHoldingPackets }.processing = .idle := idle
      rw [ServerSession.settle_of_idle waits]
      exact ⟨frame, List.mem_cons_self, rfl, .inl rfl⟩

end Lockstep

/-- From a successful `TryConnect` on, with handlers that succeed: after any calls
of `OnRecvPacket` the orderer and the window agree, and the next call does not
fail and delivers or holds its packet if that is inside the window. -/
theorem lockstep_of_tryConnect
    (size : Byte)
    (positive : 1 ≤ size.toNat)
    (session : ServerSession Payload)
    (reserved : Reserved size session)
    (inClientAddr : SockaddrIn)
    (frames : List (DataFrame Payload))
    (frame : DataFrame Payload) :
    let before := ((session.connect inClientAddr).1.receiveAll frames).1
    Agrees before ∧
      (before.onRecvPacket frame).processing ≠ .failing ∧
      (before.receiveWindow.canReceive frame.packetSequence = true →
        DeliveredOrHeld before (before.receive frame).1 frame) := by
  obtain ⟨connected, waits⟩ := reserved.connect inClientAddr
  obtain ⟨lockstep, idle⟩ := connected.receiveAll positive waits frames
  exact ⟨lockstep.agrees idle,
    (lockstep.onRecvPacket positive idle frame).works,
    lockstep.deliveredOrHeld positive idle⟩

/-- A window of two packets that has been handed out by `AcquireSession`. -/
theorem lockstep_of_two :
    let before := (((ServerSession.reserved 7 2).connect ⟨1, 1⟩).1.receiveAll
      [⟨2, 20⟩]).1
    Agrees before ∧
      (before.onRecvPacket ⟨1, 10⟩).processing ≠ .failing ∧
      (before.receiveWindow.canReceive 1 = true →
        DeliveredOrHeld before (before.receive ⟨1, 10⟩).1 ⟨1, 10⟩) :=
  lockstep_of_tryConnect 2 (by decide) (.reserved 7 2)
    ⟨rfl, rfl, rfl, rfl, rfl⟩ ⟨1, 1⟩ [⟨2, 20⟩] ⟨1, 10⟩

end ReceivePath
end MultiSocketRudp
