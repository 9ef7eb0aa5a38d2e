import MultiSocketRudp.Connection
import MultiSocketRudp.Client.SendInvariant

/-!
# Client packets are handled in order, each once

The invariant of the connection joins those of its ends: what is in flight
towards the session is valid, and what is in flight towards the client answers
packets whose handler has returned success.

The promise holds as long as the client calls `SendPacket` at most `2 ^ 63`
times, and fails at the next call.
-/

namespace MultiSocketRudp
namespace Connection

open TransitionSystems ReceivePath SendPath

variable {Payload : Type}

/-- What the protocol promises: the handlers have been called with the client's
payloads in the order of their sequences, each once; a reply is in flight only
for a packet whose handler has returned success; and the client has dropped only
packets that were delivered to their handler. -/
structure Reliable (state : State Payload) : Prop where
  /-- Handler calls are the first payloads. -/
  in_order : ∃ count ≤ state.client.sent.length,
    state.server.handlerLog = state.client.sent.take count
  /-- Replies to data packets are for succeeded ones. -/
  replies : ∀ reply ∈ state.toClient,
    reply.packetSequence ≠ loginPacketSequence →
      reply.packetSequence ∈ state.server.succeeded
  /-- Dropped data packets have been handled. -/
  dropped : ∀ packetSequence ∈ state.client.dropped,
    packetSequence ≠ loginPacketSequence →
      packetSequence.toNat ≤ state.server.handlerLog.length

/-- The step takes a new sequence for a call of `SendPacket`. -/
def Label.takesSequence : Label Payload → Bool
  | .client (.allocate _ _) => true
  | _ => false

/-- The client calls `SendPacket` at most `2 ^ 63` times. -/
def SendsBounded (state : State Payload) (label : Label Payload) : Prop :=
  label.takesSequence = true → state.client.sent.length < 2 ^ 63

instance (state : State Payload) (label : Label Payload) :
    Decidable (SendsBounded state label) :=
  inferInstanceAs
    (Decidable (label.takesSequence = true →
      state.client.sent.length < 2 ^ 63))

/-! ## The invariant of the connection -/

/-- A reply with this sequence may be in flight: it answers the CONNECT packet or
a packet that has succeeded. -/
def Acknowledged
    (session : ServerSession Payload) (packetSequence : PacketSequence) :
    Prop :=
  packetSequence ≠ loginPacketSequence → packetSequence ∈ session.succeeded

/-- The invariant of both ends and of what is in flight. -/
structure Invariant (state : State Payload) : Prop where
  /-- The client keeps valid packets. -/
  client : ClientInvariant state.client
  /-- The session follows the payloads of the client. -/
  server : ServerInvariant state.client.sent state.server
  /-- Packets in flight are valid. -/
  toServer : ∀ frame ∈ state.toServer, ValidFrame state.client.sent frame
  /-- Replies in flight are for what has succeeded. -/
  toClient : ∀ reply ∈ state.toClient,
    Acknowledged state.server reply.packetSequence
  /-- So is the reply that the client is processing. -/
  receiver : ∀ packetSequence,
    state.client.receiver = .windowStored packetSequence →
      Acknowledged state.server packetSequence
  /-- So is everything that it has dropped. -/
  dropped : ∀ packetSequence ∈ state.client.dropped,
    Acknowledged state.server packetSequence

/-- The invariant gives the promise of the protocol. -/
theorem Invariant.reliable
    {state : State Payload}
    (holds : Invariant state) :
    Reliable state where
  in_order :=
    ⟨state.server.handlerLog.length, holds.server.log_length_le,
      holds.server.log_eq⟩
  replies := holds.toClient
  dropped packetSequence member data :=
    holds.server.succeeded_le packetSequence
      (holds.dropped packetSequence member data)

/-- Steps of the session that add no reply to the network. -/
theorem Invariant.server_step
    {state : State Payload}
    (holds : Invariant state)
    {server : ServerSession Payload}
    {toServer : List (ClientFrame Payload)}
    (invariant : ServerInvariant state.client.sent server)
    (grows : ∀ packetSequence ∈ state.server.succeeded,
      packetSequence ∈ server.succeeded)
    (fewer : ∀ frame ∈ toServer, frame ∈ state.toServer) :
    Invariant { state with server, toServer } where
  client := holds.client
  server := invariant
  toServer frame member := holds.toServer frame (fewer frame member)
  toClient reply member data := grows _ (holds.toClient reply member data)
  receiver packetSequence stored data :=
    grows _ (holds.receiver packetSequence stored data)
  dropped packetSequence member data :=
    grows _ (holds.dropped packetSequence member data)

/-- Steps of the client. -/
theorem Invariant.client_step
    {state : State Payload}
    (holds : Invariant state)
    {client : Client Payload}
    {enqueued : List (ClientFrame Payload)}
    {toClient : List SendReply}
    (outcome : ClientOutcome state.client client enqueued)
    (fewer : ∀ reply ∈ toClient, reply ∈ state.toClient)
    (receiver : ∀ packetSequence,
      client.receiver = .windowStored packetSequence →
        Acknowledged state.server packetSequence) :
    Invariant
      { state with
        client
        toServer := enqueued ++ state.toServer
        toClient } where
  client := outcome.holds
  server := by
    obtain ⟨later, sent_eq⟩ := outcome.sent
    rw [sent_eq]
    exact holds.server.append later
  toServer frame member := by
    rcases List.mem_append.mp member with new | old
    · exact outcome.enqueued frame new
    · obtain ⟨later, sent_eq⟩ := outcome.sent
      rw [sent_eq]
      exact (holds.toServer frame old).append later
  toClient reply member := holds.toClient reply (fewer reply member)
  receiver := receiver
  dropped packetSequence member :=
    (outcome.dropped packetSequence member).elim
      (holds.dropped packetSequence) (holds.receiver packetSequence)

/-- What has succeeded stays so when a packet is dispatched. -/
theorem succeeded_processByPacketType
    (session : ServerSession Payload)
    (clientAddress : SockaddrIn)
    (frame : ClientFrame Payload) :
    (session.processByPacketType clientAddress frame).succeeded =
      session.succeeded := by
  cases frame with
  | connect packetSequence recvSessionId =>
      simp only [ServerSession.processByPacketType, ServerSession.tryConnect]
      split
      · rfl
      split
      · rfl
      split <;> rfl
  | send frame =>
      simp only [ServerSession.processByPacketType,
        ServerSession.onRecvPacket, ServerSession.onReceive]
      repeat' split
      all_goals rfl

/-- What has succeeded stays so when a handler returns. -/
theorem succeeded_processPacket
    (session : ServerSession Payload)
    (frame : DataFrame Payload)
    (result : HandlerResult)
    {packetSequence : PacketSequence}
    (member : packetSequence ∈ session.succeeded) :
    packetSequence ∈ (session.processPacket frame result).succeeded := by
  cases result with
  | unknownPacket => exact member
  | failed => exact member
  | succeeded => exact List.mem_cons_of_mem _ member

theorem succeeded_afterReply
    (session : ServerSession Payload)
    (packetSequence : PacketSequence) (thenDrain : Bool) :
    (session.afterReply packetSequence thenDrain).succeeded =
      session.succeeded := by
  cases thenDrain <;> rfl

/-- The invariant holds when the client's first packet is on its way. -/
theorem invariant_initial (config : Config) :
    Invariant (initial config : State Payload) where
  client :=
    { length_eq := rfl
      small := by simp [initial, Client.connecting]
      calls := fun _ => trivial
      pending := by simp [initial, Client.connecting]
      map := by simp [initial, Client.connecting, ValidFrame]
      receiver := trivial
      retransmission := by simp [initial, Client.connecting] }
  server :=
    { log_eq := rfl
      succeeded_le := by simp [initial, ServerSession.reserved]
      holding := by simp [initial, ServerSession.reserved]
      released := by simp [initial, ServerSession.reserved]
      fresh := fun _ => rfl
      untouched := fun _ => ⟨rfl, rfl⟩
      progress := fun connected => absurd rfl connected }
  toServer := by simp [initial, ValidFrame]
  toClient := by simp [initial]
  receiver := by simp [initial, Client.connecting]
  dropped := by simp [initial, Client.connecting]

section Step

variable [DecidableEq Payload]

/-- Every bounded step of the connection keeps the invariant. -/
theorem invariant_step
    {config : Config}
    {state next : State Payload}
    {label : Label Payload}
    (holds : Invariant state)
    (bounded : SendsBounded state label)
    (moves : step config state label = some next) :
    Invariant next := by
  have small := holds.client.small
  cases label with
  | client label =>
      simp only [step, Option.ite_none_right_eq_some,
        Option.map_eq_some_iff] at moves
      obtain ⟨own, ⟨client, enqueued⟩, moved, rfl⟩ := moves
      refine holds.client_step
        (clientStep_outcome holds.client ?_ moved) (fun _ member => member)
        fun packetSequence stored =>
          holds.receiver packetSequence (receiver_of_ownStep own moved stored)
      rintro ⟨call, payload, rfl⟩
      exact bounded rfl
  | deliverReply reply =>
      simp only [step, Option.ite_none_right_eq_some,
        Option.map_eq_some_iff] at moves
      obtain ⟨inFlight, ⟨client, enqueued⟩, moved, rfl⟩ := moves
      have outcome := clientStep_outcome holds.client
        (by rintro ⟨call, payload, impossible⟩; cases impossible) moved
      obtain ⟨rfl, named⟩ := onSendReply_outcome moved
      refine holds.client_step outcome
        (fun _ member => List.mem_of_mem_erase member) ?_
      intro packetSequence stored
      rw [named packetSequence stored]
      exact holds.toClient reply inFlight
  | deliver frame =>
      simp only [step, Option.ite_none_right_eq_some, Option.some.injEq]
        at moves
      obtain ⟨⟨idle, inFlight⟩, rfl⟩ := moves
      refine holds.server_step
        (holds.server.processByPacketType small config.clientAddress_ne idle
          (holds.toServer frame inFlight)) ?_
        fun _ member => List.mem_of_mem_erase member
      rw [succeeded_processByPacketType]
      exact fun _ member => member
  | handle frame result =>
      simp only [step, Option.ite_none_right_eq_some, Option.some.injEq]
        at moves
      obtain ⟨stands, rfl⟩ := moves
      exact holds.server_step (holds.server.processPacket stands result)
        (fun _ member =>
          succeeded_processPacket state.server frame result member)
        fun _ member => member
  | sendReply packetSequence thenDrain sent =>
      cases sent with
      | true =>
          simp only [step, Option.ite_none_right_eq_some, Option.some.injEq]
            at moves
          obtain ⟨⟨stands, -⟩, rfl⟩ := moves
          obtain ⟨connected, caughtUp, acknowledged⟩ :=
            holds.server.at_replying stands
          have replied := holds.server_step
            (holds.server.afterReply connected caughtUp packetSequence
              thenDrain)
            (fun _ member => by rwa [succeeded_afterReply])
            fun _ (member : _ ∈ state.toServer) => member
          refine { replied with toClient := fun reply member => ?_ }
          rcases List.mem_cons.mp member with rfl | old
          · rw [Acknowledged, succeeded_afterReply]
            exact acknowledged
          · exact replied.toClient reply old
      | false =>
          simp only [step, Option.ite_none_right_eq_some, Option.some.injEq]
            at moves
          obtain ⟨stands, rfl⟩ := moves
          obtain ⟨connected, caughtUp, acknowledged⟩ :=
            holds.server.at_replying stands
          have disconnected := holds.server.doDisconnect connected
            (by rw [Progress, stands]; exact ⟨caughtUp, acknowledged⟩)
          have frame := ServerInvariant.doDisconnect_eq holds.server.released
          refine holds.server_step
            (disconnected.afterReply (by rw [frame]; exact connected)
              (by rw [frame]; exact caughtUp) packetSequence thenDrain) ?_
            fun _ member => member
          rw [succeeded_afterReply, frame]
          exact fun _ member => member
  | drain =>
      simp only [step, Option.ite_none_right_eq_some, Option.some.injEq]
        at moves
      obtain ⟨stands, rfl⟩ := moves
      refine holds.server_step (holds.server.drain small stands) ?_
        fun _ member => member
      simp only [ServerSession.drain]
      split <;> exact fun _ member => member
  | disconnectByError =>
      simp only [step, Option.ite_none_right_eq_some, Option.some.injEq]
        at moves
      obtain ⟨stands, rfl⟩ := moves
      refine holds.server_step (holds.server.disconnectByError stands) ?_
        fun _ member => member
      rw [ServerSession.disconnectByError, ServerInvariant.doDisconnect_eq]
      · exact fun _ member => member
      · exact holds.server.released
  | loseFrame frame =>
      simp only [step, Option.ite_none_right_eq_some, Option.some.injEq]
        at moves
      obtain ⟨-, rfl⟩ := moves
      exact holds.server_step holds.server (fun _ member => member)
        fun _ member => List.mem_of_mem_erase member
  | duplicateFrame frame =>
      simp only [step, Option.ite_none_right_eq_some, Option.some.injEq]
        at moves
      obtain ⟨inFlight, rfl⟩ := moves
      refine holds.server_step holds.server (fun _ member => member) ?_
      intro other member
      rcases List.mem_cons.mp member with rfl | old
      · exact inFlight
      · exact old
  | loseReply reply =>
      simp only [step, Option.ite_none_right_eq_some, Option.some.injEq]
        at moves
      obtain ⟨-, rfl⟩ := moves
      exact
        { holds with
          toClient := fun other member =>
            holds.toClient other (List.mem_of_mem_erase member) }
  | duplicateReply reply =>
      simp only [step, Option.ite_none_right_eq_some, Option.some.injEq]
        at moves
      obtain ⟨inFlight, rfl⟩ := moves
      refine { holds with toClient := fun other member => ?_ }
      rcases List.mem_cons.mp member with rfl | old
      · exact holds.toClient other inFlight
      · exact holds.toClient other old

/-- The invariant holds in every run of at most `2 ^ 63` calls of `SendPacket`. -/
theorem invariant_of_sendsBounded
    {config : Config}
    {state : State Payload}
    (reached : (system config).GuardedReachable SendsBounded state) :
    Invariant state := by
  refine reached.invariant ?_ ?_
  · rintro state rfl
    exact invariant_initial config
  · intro state label next _ holds bounded moves
    exact invariant_step holds bounded moves

/-- In every run in which the client calls `SendPacket` at most `2 ^ 63` times,
its packets are handled in order and each once, replies are in flight only for
what has succeeded, and the client drops only what was handled. -/
theorem reliable_of_sendsBounded
    {config : Config}
    {state : State Payload}
    (reached : (system config).GuardedReachable SendsBounded state) :
    Reliable state :=
  (invariant_of_sendsBounded reached).reliable

end Step

/-- A connection with a receive window of one. -/
def narrowConfig : Config where
  sessionId := 0
  clientAddress := ⟨1, 1⟩
  clientAddress_ne := by decide
  maximumHoldingPacketQueueSize := 1
  holding_pos := by decide
  maxPacketRetransmissionCount := 10

/-- A call of `SendPacket` that finds the window exhausted. -/
def pendSchedule (frame : DataFrame Unit) : List (Label Unit) :=
  [.client (.allocate 0 ()), .client (.loadWindow 0 frame),
    .client (.compareOutstanding 0 frame 1), .client (.pushPending 0 frame)]

/-- The CONNECT packet is answered, and the answer erases it from the map. -/
def connectSchedule : List (Label Unit) :=
  [.deliver (.connect 0 0), .sendReply 0 false true, .deliverReply ⟨0, 1⟩,
    .client (.eraseAcked 0)]

/-- A call of `SendPacket` that finds the window open, and the delivery of its
packet. -/
def sendSchedule (call : Nat) (frame : DataFrame Unit) : List (Label Unit) :=
  [.client (.allocate call ()), .client (.loadWindow call frame),
    .client (.compareOutstanding call frame 1),
    .client (.register call frame), .client (.enqueue call frame),
    .deliver (.send frame)]

/-- One packet is sent, handled and acknowledged. -/
def acknowledgedState : State Unit :=
  ((system narrowConfig).run (initial narrowConfig)
    (connectSchedule ++ sendSchedule 1 ⟨1, ()⟩ ++
      [.handle ⟨1, ()⟩ .succeeded, .sendReply 1 true true])).getD
    (initial narrowConfig)

theorem reliable_of_sendsBounded_acknowledged : Reliable acknowledgedState :=
  reliable_of_sendsBounded
    (TransitionSystem.GuardedReachable.guardedRun (.initial rfl)
      (show (system narrowConfig).guardedRun SendsBounded
        (initial narrowConfig)
        (connectSchedule ++ sendSchedule 1 ⟨1, ()⟩ ++
          [.handle ⟨1, ()⟩ .succeeded, .sendReply 1 true true]) =
        some acknowledgedState from rfl))

/-! ## The first call too many -/

/-- The packets of the first calls. -/
def firstFrames : Nat → List (DataFrame Unit)
  | 0 => []
  | count + 1 => ⟨BitVec.ofNat 64 (count + 1), ()⟩ :: firstFrames count

/-- A client with pending packets whose CONNECT packet is still on its way. -/
def pendingState
    (last : PacketSequence)
    (pending : List (DataFrame Unit))
    (sent : List Unit) : State Unit :=
  { initial narrowConfig with
    client :=
      { Client.connecting 0 with
        lastSendPacketSequence := last
        pendingPacketQueue := pending
        sent := sent } }

/-- One more call of `SendPacket` before the connection is established. -/
theorem run_pendSchedule
    (last : PacketSequence)
    (pending : List (DataFrame Unit))
    (sent : List Unit) :
    (system narrowConfig).run (pendingState last pending sent)
        (pendSchedule ⟨last + 1, ()⟩) =
      some
        (pendingState (last + 1) (⟨last + 1, ()⟩ :: pending)
          (sent ++ [()])) := by
  simp [pendSchedule, system, step, isOwnStep, clientStep, pendingState,
    initial, Client.connecting, Client.outstanding,
    Receiver.holdsPendingLock, narrowConfig]

/-- Any number of calls may be pending. -/
theorem reachable_pendingState (count : Nat) :
    (system narrowConfig).Reachable
      (pendingState (BitVec.ofNat 64 count) (firstFrames count)
        (List.replicate count ())) := by
  induction count with
  | zero => exact TransitionSystem.Reachable.initial rfl
  | succ count inductionHypothesis =>
      have next := inductionHypothesis.run (run_pendSchedule _ _ _)
      rw [firstFrames, List.replicate_succ', BitVec.ofNat_add]
      exact next

/-- With `2 ^ 63` packets pending, the answer to the CONNECT packet opens the
window, and another call sends its packet before the pending queue is flushed.
The session takes its sequence for an older one and acknowledges it. -/
def overrunSchedule : List (Label Unit) :=
  connectSchedule ++ sendSchedule 1 ⟨0x8000000000000001, ()⟩ ++
    [.sendReply 0x8000000000000001 false true]

/-- The reply is in flight, and no handler has been called. -/
theorem run_overrunSchedule :
    ∃ state, (system narrowConfig).run
        (pendingState 0x8000000000000000 (firstFrames (2 ^ 63))
          (List.replicate (2 ^ 63) ()))
        overrunSchedule = some state ∧
      ¬ Reliable state := by
  refine ⟨_, rfl, fun claimed => ?_⟩
  have succeeded := claimed.replies ⟨0x8000000000000001, 1⟩
    List.mem_cons_self (by decide)
  exact absurd succeeded List.not_mem_nil

/-- After `2 ^ 63 + 1` calls of `SendPacket` an unhandled packet can be
acknowledged. -/
theorem overrun_unreliable :
    ∃ state : State Unit,
      (system narrowConfig).Reachable state ∧ ¬ Reliable state := by
  obtain ⟨state, runs, unreliable⟩ := run_overrunSchedule
  exact ⟨state, (reachable_pendingState (2 ^ 63)).run runs, unreliable⟩

end Connection
end MultiSocketRudp
