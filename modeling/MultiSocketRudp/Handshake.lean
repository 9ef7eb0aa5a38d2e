import MultiSocketRudp.Reliability

/-!
# A lost answer to the CONNECT packet

Replies are not retransmitted, so a lost one has to be replaced by the answer to
a retransmitted packet.  `OnRecvPacket` answers a second copy of a handled SEND
packet.  `TryConnect` gives up on a second copy of the CONNECT packet, because
the session is no longer RESERVED, and answers nothing.
-/

namespace MultiSocketRudp
namespace Connection

open TransitionSystems SerialNumber ReceivePath SendPath

variable {Payload : Type}

/-- The steps of the receive-logic thread on a packet that it has taken. -/
def Label.isProcessing : Label Payload → Bool
  | .handle _ _ => true
  | .sendReply _ _ _ => true
  | .drain => true
  | .disconnectByError => true
  | _ => false

/-- Replies for one sequence that are in flight. -/
def State.repliesFor
    (state : State Payload) (packetSequence : PacketSequence) : Nat :=
  state.toClient.countP fun reply => reply.packetSequence == packetSequence

/-- A connected session ignores a CONNECT packet. -/
theorem processByPacketType_connect
    {session : ServerSession Payload}
    (connected : session.state = .connected)
    (clientAddress : SockaddrIn)
    (packetSequence : PacketSequence)
    (recvSessionId : SessionIdType) :
    session.processByPacketType clientAddress
        (.connect packetSequence recvSessionId) = session := by
  simp only [ServerSession.processByPacketType, ServerSession.tryConnect,
    connected, SessionState.tryTransitionToConnected]
  split
  · rfl
  · split <;> rfl

/-- A packet that has succeeded is older than the expected one. -/
theorem older_of_succeeded
    {sent : List Payload}
    {session : ServerSession Payload}
    (holds : ServerInvariant sent session)
    (small : sent.length ≤ 2 ^ 63)
    (caughtUp : CaughtUp session)
    {frame : DataFrame Payload}
    (valid : ValidData sent frame)
    (handled : frame.packetSequence ∈ session.succeeded) :
    signedDiff frame.packetSequence session.nextRecvPacketSequence < 0 := by
  have positive := valid.1
  have next_eq := caughtUp.1
  have handled_le := holds.succeeded_le _ handled
  have log_le := holds.log_length_le
  rw [signedDiff_eq_sub (by norm_num; omega) (by norm_num; omega)]
  omega

section Copies

variable [DecidableEq Payload]

/-- The delivery of a packet, together with what the receive-logic thread makes
of it, can put a reply for the sequence in flight. -/
def PutsReply
    (config : Config)
    (state : State Payload)
    (frame : ClientFrame Payload)
    (packetSequence : PacketSequence) : Prop :=
  ∃ labels next,
    (∀ label ∈ labels, label.isProcessing = true) ∧
    (system config).run state (.deliver frame :: labels) = some next ∧
    state.repliesFor packetSequence < next.repliesFor packetSequence

/-- The CONNECT packet of the client. -/
def connectFrame (config : Config) : ClientFrame Payload :=
  .connect loginPacketSequence config.sessionId

/-- The session is connected by the client's CONNECT packet, of which another
copy is in flight, while the client still waits for the answer. -/
structure AwaitsAnswer (config : Config) (state : State Payload) : Prop where
  /-- The situation arises in a run. -/
  reached : (system config).Reachable state
  /-- The session is connected. -/
  connected : state.server.state = .connected
  /-- It is not being released. -/
  notReleasing : state.server.nowInReleaseThread = false
  /-- It waits for the next packet. -/
  idle : state.server.processing = .idle
  /-- The client still has its CONNECT packet registered. -/
  unacknowledged :
    ∃ info ∈ state.client.sendPacketInfoMap, info.frame = connectFrame config
  /-- A copy of it is in flight. -/
  copy : connectFrame config ∈ state.toServer

/-- An idle receive-logic thread makes no step on its own. -/
theorem step_processing_of_idle
    {config : Config}
    {state : State Payload}
    (idle : state.server.processing = .idle)
    {label : Label Payload}
    (processing : label.isProcessing = true) :
    step config state label = none := by
  cases label with
  | handle frame result => simp [step, idle]
  | sendReply packetSequence thenDrain sent =>
      cases sent <;> simp [step, idle]
  | drain => simp [step, idle]
  | disconnectByError => simp [step, idle]
  | client _ | deliverReply _ | deliver _ | loseFrame _ | duplicateFrame _
  | loseReply _ | duplicateReply _ => simp [Label.isProcessing] at processing

/-- Another copy of the CONNECT packet leaves a connected session silent. -/
theorem silent_of_connected
    {config : Config}
    {state : State Payload}
    (connected : state.server.state = .connected)
    (idle : state.server.processing = .idle)
    (packetSequence : PacketSequence) :
    ¬ PutsReply config state (connectFrame config) packetSequence := by
  rintro ⟨labels, next, processing, runs, more⟩
  obtain ⟨delivered, moves, continues⟩ := Option.bind_eq_some_iff.mp runs
  simp only [system, step, connectFrame, Option.ite_none_right_eq_some,
    Option.some.injEq, processByPacketType_connect connected] at moves
  obtain ⟨-, delivered_eq⟩ := moves
  cases labels with
  | nil =>
      obtain rfl := Option.some.inj continues
      subst delivered_eq
      exact absurd more (lt_irrefl _)
  | cons label labels =>
      obtain ⟨middle, moves, -⟩ := Option.bind_eq_some_iff.mp continues
      have idleStill : delivered.server.processing = .idle := by
        rw [← delivered_eq]
        exact idle
      change step config delivered label = some middle at moves
      rw [step_processing_of_idle idleStill
        (processing label List.mem_cons_self)] at moves
      exact absurd moves (Option.some_ne_none middle).symm

/-- Another copy of a packet whose handler has returned success is answered. -/
theorem sendCopy_answered
    {config : Config}
    {state : State Payload}
    (reached : (system config).GuardedReachable SendsBounded state)
    (connected : state.server.clientAddr = config.clientAddress)
    (notReleasing : state.server.nowInReleaseThread = false)
    (idle : state.server.processing = .idle)
    {frame : DataFrame Payload}
    (copy : .send frame ∈ state.toServer)
    (handled : frame.packetSequence ∈ state.server.succeeded) :
    PutsReply config state (.send frame) frame.packetSequence := by
  have holds := invariant_of_sendsBounded reached
  have caughtUp : CaughtUp state.server := by
    have progress := holds.server.progress
      (connected ▸ config.clientAddress_ne)
    rw [Progress, idle, notReleasing] at progress
    exact progress.resolve_left (by simp)
  have older := older_of_succeeded holds.server holds.client.small caughtUp
    (holds.toServer (.send frame) copy) handled
  have dispatched :
      state.server.processByPacketType config.clientAddress (.send frame) =
        { state.server with
          processing := .replying frame.packetSequence false } := by
    simp [ServerSession.processByPacketType, notReleasing,
      ServerSession.canProcessPacket, connected, ServerSession.onRecvPacket,
      older]
  let replying : ServerSession Payload :=
    { state.server with processing := .replying frame.packetSequence false }
  refine ⟨[.sendReply frame.packetSequence false true],
    { state with
      server := replying.afterReply frame.packetSequence false
      toServer := state.toServer.erase (.send frame)
      toClient := replying.reply frame.packetSequence :: state.toClient },
    by simp [Label.isProcessing], ?_, ?_⟩
  · simp [system, step, idle, copy, dispatched, notReleasing, replying]
  · simp [State.repliesFor, ServerSession.reply]

/-- In every reachable state in which the client waits for the answer to a
CONNECT packet that has connected the session, another copy of that packet puts
no answer in flight. -/
theorem connectCopy_unanswered
    {config : Config}
    {state : State Payload}
    (awaits : AwaitsAnswer config state) :
    ¬ PutsReply config state (connectFrame config) loginPacketSequence :=
  silent_of_connected awaits.connected awaits.idle loginPacketSequence

end Copies

/-! ## A lost answer -/

/-- The answer to the first CONNECT packet is lost, and the client retransmits
the packet. -/
def lostAnswerSchedule : List (Label Unit) :=
  [.deliver (.connect 0 0), .sendReply 0 false true, .loseReply ⟨0, 1⟩,
    .client (.retransmitCount { frame := .connect 0 0 }),
    .client (.retransmitEnqueue (.connect 0 0))]

/-- The connection after that schedule. -/
def lostAnswerState : State Unit :=
  ((system narrowConfig).run (initial narrowConfig) lostAnswerSchedule).getD
    (initial narrowConfig)

theorem lostAnswerState_awaits : AwaitsAnswer narrowConfig lostAnswerState where
  reached :=
    TransitionSystem.Reachable.run (.initial rfl)
      (show (system narrowConfig).run (initial narrowConfig)
        lostAnswerSchedule = some lostAnswerState from rfl)
  connected := rfl
  notReleasing := rfl
  idle := rfl
  unacknowledged := by decide
  copy := by decide

theorem connectCopy_unanswered_lostAnswer :
    ¬ PutsReply narrowConfig lostAnswerState (connectFrame narrowConfig)
      loginPacketSequence :=
  connectCopy_unanswered lostAnswerState_awaits

/-- The client waits for an answer that another copy of its CONNECT packet does
not bring. -/
theorem lostAnswer_unrecovered :
    ∃ state : State Unit,
      AwaitsAnswer narrowConfig state ∧
        ¬ PutsReply narrowConfig state (connectFrame narrowConfig)
          loginPacketSequence :=
  ⟨lostAnswerState, lostAnswerState_awaits,
    silent_of_connected lostAnswerState_awaits.connected
      lostAnswerState_awaits.idle loginPacketSequence⟩

end Connection
end MultiSocketRudp
