import MultiSocketRudp.Client.HoldingQueue
import MultiSocketRudp.Lib.TransitionSystem

/-!
# The client's check whether the server is alive

The checker remembers `nextRecvPacketSequence` and takes the server for dead when
it finds the same number again.  `ProcessRecvPacket` does not change this number.
It is `GetReceivedPacket`, called by the application, that passes packets on and
counts it up.

`GetReceivedPacket` holds the lock of the queue and the checker does not, so that
the checker may read the number between two of the packets that one call passes.
-/

namespace MultiSocketRudp
namespace ServerAliveChecker

open TransitionSystems HoldingQueue

/-- A packet in the queue. -/
abbrev Received := RecvPacketInfo Unit

/-- The receive thread, the application and the checker of one client. -/
structure State where
  recvPacketHoldingQueue : List Received := []
  nextRecvPacketSequence : PacketSequence := 1
  /-- The receive thread is behind `emplace`: the packet that it may acknowledge,
  and whether it was new and in order. -/
  processing : Option (Received × Bool) := none
  /-- A thread of the application is inside `GetReceivedPacket`. -/
  receiving : Bool := false
  beforeCheckSequence : PacketSequence := 0
  /-- `coreStopFunction` has been called. -/
  stopped : Bool := false
  /-- The sequences of the packets that have been accepted. -/
  accepted : List PacketSequence := []
  /-- A new packet in order has been acknowledged since the last check. -/
  renewed : Bool := false
  /-- How far `nextRecvPacketSequence` has been counted up since the checker
  remembered it.  It begins one ahead of `beforeCheckSequence`. -/
  passed : Nat := 1
  deriving DecidableEq

/-- An atomic step. -/
inductive Label
  /-- `ProcessRecvPacket` has decoded a packet and puts it into the queue. -/
  | emplace (packet : Received)
  /-- `ShouldSendReplyToServer`, and `SendReplyToServer` when it is true. -/
  | reply (shouldSend : Bool)
  /-- `GetReceivedPacket` is called. -/
  | getReceivedPacket
  /-- A round of its loop. -/
  | round
  /-- The checker wakes up. -/
  | check
  deriving DecidableEq

/-- All sequences before this one have been accepted, and it has not. -/
def isNewInOrder (accepted : List PacketSequence) (sequence : PacketSequence) :
    Bool :=
  sequence ∉ accepted ∧
    ∀ earlier < sequence.toNat, 0 < earlier →
      BitVec.ofNat 64 earlier ∈ accepted

/-- The push of `ProcessRecvPacket`. -/
def emplace (state : State) (packet : Received) : State :=
  { state with
    recvPacketHoldingQueue :=
      HoldingQueue.emplace packet state.recvPacketHoldingQueue
    processing :=
      some (packet, isNewInOrder state.accepted packet.packetSequence)
    accepted := packet.packetSequence :: state.accepted }

/-- A round of the loop of `GetReceivedPacket`. -/
def round (state : State) : State :=
  match state.recvPacketHoldingQueue with
  | [] => { state with receiving := false }
  | top :: rest =>
      if top.packetSequence < state.nextRecvPacketSequence then
        { state with recvPacketHoldingQueue := rest }
      else if top.packetSequence ≠ state.nextRecvPacketSequence then
        { state with receiving := false }
      else
        { state with
          nextRecvPacketSequence := state.nextRecvPacketSequence + 1
          recvPacketHoldingQueue := rest
          receiving := top.packetType = .heartbeatType
          passed := state.passed + 1 }

/-- `ServerAliveChecker::IsServerAlive`. -/
def isServerAlive (state : State) (nowPacketSequence : PacketSequence) :
    Bool × State :=
  if nowPacketSequence = state.beforeCheckSequence then (false, state)
  else
    (true, { state with
      beforeCheckSequence := nowPacketSequence
      renewed := false
      passed := 0 })

/-- A round of `RunServerAliveCheckerThread`. -/
def check (state : State) : State :=
  match isServerAlive state state.nextRecvPacketSequence with
  | (true, state) => state
  | (false, state) => { state with stopped := true }

/-- The step of a thread. -/
def step (state : State) : Label → Option State
  | .emplace packet =>
      if state.processing = none ∧ state.receiving = false then
        some (emplace state packet)
      else none
  | .reply shouldSend =>
      match state.processing with
      | none => none
      | some (_, isNew) =>
          some { state with
            processing := none
            renewed := state.renewed || (shouldSend && isNew) }
  | .getReceivedPacket =>
      if state.receiving = false then some { state with receiving := true }
      else none
  | .round => if state.receiving = true then some (round state) else none
  | .check => if state.stopped = false then some (check state) else none

/-- A client that has been connected. -/
def system : TransitionSystem State Label where
  Initial state := state = {}
  step := step

/-- The rounds of a call do what `GetReceivedPacket` does. -/
theorem getReceivedPacket_round
    {state : State} (inside : state.receiving = true) :
    (HoldingQueue.getReceivedPacket state.recvPacketHoldingQueue
        state.nextRecvPacketSequence).2 =
      if (round state).receiving then
        (HoldingQueue.getReceivedPacket (round state).recvPacketHoldingQueue
          (round state).nextRecvPacketSequence).2
      else ((round state).recvPacketHoldingQueue,
        (round state).nextRecvPacketSequence) := by
  cases queue : state.recvPacketHoldingQueue with
  | nil =>
      have ended : round state = { state with receiving := false } := by
        rw [round, queue]
      rw [HoldingQueue.getReceivedPacket, ended]
      simp [queue]
  | cons top rest =>
      rw [HoldingQueue.getReceivedPacket]
      by_cases outdated : top.packetSequence < state.nextRecvPacketSequence
      · have dropped : round state =
            { state with recvPacketHoldingQueue := rest } := by
          rw [round, queue]
          exact if_pos outdated
        rw [if_pos outdated, dropped]
        simp [inside]
      by_cases gap : top.packetSequence ≠ state.nextRecvPacketSequence
      · have ended : round state = { state with receiving := false } := by
          rw [round, queue]
          exact (if_neg outdated).trans (if_pos gap)
        rw [if_neg outdated, if_pos gap, ended]
        simp [queue]
      · have passed : round state =
            { state with
              nextRecvPacketSequence := state.nextRecvPacketSequence + 1
              recvPacketHoldingQueue := rest
              receiving := top.packetType = .heartbeatType
              passed := state.passed + 1 } := by
          rw [round, queue]
          exact (if_neg outdated).trans (if_neg gap)
        rw [if_neg outdated, if_neg gap, passed]
        by_cases heartbeat : top.packetType = .heartbeatType <;>
          simp [heartbeat]

/-! ## Checks -/

/-- The checker finds the server alive when packets have been passed since it
remembered the sequence, and their number does not make the sequence wrap around
to where it was. -/
def Meets (state : State) : Label → Prop
  | .check => state.passed % 2 ^ 64 ≠ 0
  | .emplace _ | .reply _ | .getReceivedPacket | .round => True

/-- Between two checks a new packet has arrived in order and been acknowledged. -/
def Lively (state : State) : Label → Prop
  | .check => state.renewed = true
  | .emplace _ | .reply _ | .getReceivedPacket | .round => True

instance (state : State) (label : Label) : Decidable (Meets state label) := by
  cases label <;> unfold Meets <;> infer_instance

instance (state : State) (label : Label) : Decidable (Lively state label) := by
  cases label <;> unfold Lively <;> infer_instance

/-- The checker has not stopped the client, and the sequences differ by the packets
that have been passed. -/
structure Kept (state : State) : Prop where
  stopped : state.stopped = false
  passed : state.nextRecvPacketSequence =
    state.beforeCheckSequence + BitVec.ofNat 64 state.passed

/-- A round counts what it passes. -/
theorem Kept.round {state : State} (kept : Kept state) :
    Kept (round state) := by
  rw [ServerAliveChecker.round]
  split
  · exact ⟨kept.stopped, kept.passed⟩
  · split_ifs
    · exact ⟨kept.stopped, kept.passed⟩
    · exact ⟨kept.stopped, kept.passed⟩
    · refine ⟨kept.stopped, ?_⟩
      dsimp only
      rw [kept.passed, BitVec.add_assoc, BitVec.ofNat_add]
      rfl

/-- A check finds another sequence. -/
theorem Kept.check
    {state : State} (kept : Kept state)
    (meets : state.passed % 2 ^ 64 ≠ 0) :
    Kept (check state) := by
  have moved : state.nextRecvPacketSequence ≠ state.beforeCheckSequence := by
    intro same
    rw [kept.passed] at same
    have nothing : BitVec.ofNat 64 state.passed = 0 := by
      simpa using same
    exact meets (congrArg BitVec.toNat nothing)
  rw [ServerAliveChecker.check, isServerAlive, if_neg moved]
  exact ⟨kept.stopped, by simp⟩

/-- A data packet. -/
def dataPacket (sequence : PacketSequence) : Received :=
  ⟨(), sequence, .sendType⟩

/-- Each packet is received by the application before the next check. -/
def polledSchedule : List Label :=
  [.emplace (dataPacket 1), .reply true, .getReceivedPacket, .round, .check,
    .emplace (dataPacket 2), .reply true, .getReceivedPacket, .round, .check]

/-- The state behind these steps. -/
def polledState : State :=
  (system.guardedRun Meets {} polledSchedule).getD {}

/-- The application receives nothing. -/
def unpolledSchedule : List Label :=
  [.emplace (dataPacket 1), .reply true, .check,
    .emplace (dataPacket 2), .reply true, .check]

/-- The state behind these steps. -/
def unpolledState : State :=
  (system.guardedRun Lively {} unpolledSchedule).getD {}

end ServerAliveChecker
end MultiSocketRudp
