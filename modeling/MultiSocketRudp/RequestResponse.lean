import MultiSocketRudp.Contents.Player
import MultiSocketRudp.Reliability
import MultiSocketRudp.Server.DisconnectSteps
import MultiSocketRudp.ServerToClient

/-!
# Requests and responses over both directions

A packet handler of the session answers a packet of the client by packets that
it passes to `SendPacket`.  The requests travel through `Connection`, the
responses through `ServerToClient`, and in between a handler runs on the
receive-logic thread, packet by packet.

Each direction has its own copy of the state of the session.  In the source a
disconnect is seen by both; here it may reach one of them later or never, which
adds runs and leaves none out.
-/

namespace MultiSocketRudp
namespace RequestResponse

open HoldingQueue ReceivePath SendPath TransitionSystems

/-- Where the receive-logic thread stands in a packet handler. -/
inductive Handler (Response : Type)
  /-- No handler runs. -/
  | outside
  /-- The handler has these packets still to send. -/
  | responding (remaining : List Response)
  /-- `SendPacket` has found the session connected. -/
  | sending (response : Response) (remaining : List Response)
  deriving DecidableEq, Repr

/-- Both directions of a connection and the handler between them. -/
structure State (Request Response : Type) where
  requests : Connection.State Request
  responses : ServerToClient.State Response
  handler : Handler Response

/-- The atomic steps. -/
inductive Label (Request Response : Type)
  /-- The requests move on. -/
  | requests (label : Connection.Label Request)
  /-- The responses move on. -/
  | responses (label : ServerToClient.Label Response)
  /-- `ProcessPacket` looks for the handler and calls it. -/
  | processPacket (frame : DataFrame Request)
  /-- `SendPacket(IPacket&)` tests `IsConnected`. -/
  | isConnected
  /-- It gets no buffer. -/
  | allocFails
  /-- It takes the next sequence for the packet. -/
  | takeSequence (useSize : Nat)
  /-- The handler returns. -/
  | returns (frame : DataFrame Request)

/-- The requests make the step without a handler. -/
def isNetworkStep {Request : Type} : Connection.Label Request → Bool
  | .handle _ _ => false
  | _ => true

/-- The responses make the step without a handler. -/
def isTransportStep {Response : Type} : ServerToClient.Label Response → Bool
  | .takeSequence _ .sendType _ => false
  | _ => true

variable {Request Response : Type}

/-- One atomic step. -/
def step
    [DecidableEq Request] [DecidableEq Response]
    (config : Connection.Config)
    (respond : Request → Option (List Response))
    (state : State Request Response) :
    Label Request Response → Option (State Request Response)
  | .requests label =>
      if isNetworkStep label then
        (Connection.step config state.requests label).map fun requests =>
          { state with requests }
      else none
  | .responses label =>
      if isTransportStep label then
        (ServerToClient.step config.maxPacketRetransmissionCount
          state.responses label).map fun responses =>
            { state with responses }
      else none
  | .processPacket frame =>
      match state.handler, respond frame.payload with
      | .outside, none =>
          (Connection.step config state.requests
            (.handle frame .unknownPacket)).map fun requests =>
              { state with requests }
      | .outside, some remaining =>
          if state.requests.server.processing = .handling frame then
            some { state with handler := .responding remaining }
          else none
      | _, _ => none
  | .isConnected =>
      match state.handler with
      | .responding (response :: remaining) =>
          some
            { state with
              handler :=
                if state.responses.server.state = .connected then
                  .sending response remaining
                else .responding remaining }
      | _ => none
  | .allocFails =>
      match state.handler with
      | .sending _ remaining =>
          (ServerToClient.step config.maxPacketRetransmissionCount
            state.responses (.server .disconnect)).map fun responses =>
              { state with responses, handler := .responding remaining }
      | _ => none
  | .takeSequence useSize =>
      match state.handler with
      | .sending response remaining =>
          (ServerToClient.step config.maxPacketRetransmissionCount
            state.responses (.takeSequence useSize .sendType response)).map
            fun responses =>
              { state with responses, handler := .responding remaining }
      | _ => none
  | .returns frame =>
      match state.handler with
      | .responding [] =>
          (Connection.step config state.requests
            (.handle frame .succeeded)).map fun requests =>
              { state with requests, handler := .outside }
      | _ => none

/-- The client's CONNECT packet is on its way and nothing has been answered. -/
def initial (config : Connection.Config) : State Request Response where
  requests := Connection.initial config
  responses := ServerToClient.initial
  handler := .outside

/-- The runs of a connection whose packets are handled by a service. -/
def system
    [DecidableEq Request] [DecidableEq Response]
    (config : Connection.Config)
    (respond : Request → Option (List Response)) :
    TransitionSystem (State Request Response) (Label Request Response) where
  Initial state := state = initial config
  step := step config respond

/-- Both directions stay below the bounds on their sequences. -/
def SequencesBounded
    (state : State Request Response) (label : Label Request Response) : Prop :=
  match label with
  | .requests label => Connection.SendsBounded state.requests label
  | .responses label => ServerToClient.SequencesBelowMax state.responses label
  | .takeSequence _ => state.responses.server.sequencesTaken + 1 < 2 ^ 64 - 1
  | .processPacket _ | .isConnected | .allocFails | .returns _ => True

instance
    (state : State Request Response) (label : Label Request Response) :
    Decidable (SequencesBounded state label) :=
  match label with
  | .requests label =>
      inferInstanceAs
        (Decidable (Connection.SendsBounded state.requests label))
  | .responses label =>
      inferInstanceAs
        (Decidable (ServerToClient.SequencesBelowMax state.responses label))
  | .takeSequence _ => Nat.decLt _ _
  | .processPacket _ | .isConnected | .allocFails | .returns _ =>
      .isTrue trivial

/-- The packets that a service answers to some requests, without those that are
not handled. -/
def answers
    (respond : Request → Option (List Response))
    (requests : List Request) : List Response :=
  requests.flatMap fun request => (respond request).getD []

/-- The data packets that the session has numbered. -/
def State.numbered (state : State Request Response) : List Response :=
  (ServerToClient.sendTypes state.responses.sent).map RecvPacketInfo.buffer

/-- What the application has got from `GetReceivedPacket`. -/
def State.received (state : State Request Response) : List Response :=
  state.responses.returned.map RecvPacketInfo.buffer

/-! ## What the other steps leave alone -/

section handlerLog

variable (session : ServerSession Request)

theorem handlerLog_doDisconnect :
    session.doDisconnect.handlerLog = session.handlerLog := by
  unfold ServerSession.doDisconnect
  split <;> rfl

theorem handlerLog_processByPacketType
    (clientAddr : SockaddrIn) (frame : ClientFrame Request) :
    (session.processByPacketType clientAddr frame).handlerLog =
      session.handlerLog := by
  cases frame with
  | connect packetSequence recvSessionId =>
      simp only [ServerSession.processByPacketType, ServerSession.tryConnect]
      repeat' split
      all_goals rfl
  | send frame =>
      simp only [ServerSession.processByPacketType,
        ServerSession.onRecvPacket, ServerSession.onReceive]
      repeat' split
      all_goals rfl

theorem handlerLog_afterReply
    (packetSequence : PacketSequence) (thenDrain : Bool) :
    (session.afterReply packetSequence thenDrain).handlerLog =
      session.handlerLog := by
  cases thenDrain <;> rfl

theorem handlerLog_drain : session.drain.handlerLog = session.handlerLog := by
  unfold ServerSession.drain
  dsimp only
  split <;> rfl

end handlerLog

/-- Apart from the return of a handler, no step of the requests adds to the
handled ones or leaves a running handler. -/
theorem networkStep_handling
    [DecidableEq Request]
    {config : Connection.Config}
    {state next : Connection.State Request} {label : Connection.Label Request}
    (network : isNetworkStep label = true)
    (moves : Connection.step config state label = some next) :
    next.server.handlerLog = state.server.handlerLog ∧
      ∀ frame, state.server.processing = .handling frame →
        next.server.processing = .handling frame := by
  cases label with
  | client label =>
      simp only [Connection.step, Option.ite_none_right_eq_some,
        Option.map_eq_some_iff] at moves
      obtain ⟨-, _, -, rfl⟩ := moves
      exact ⟨rfl, fun _ => id⟩
  | deliverReply reply =>
      simp only [Connection.step, Option.ite_none_right_eq_some,
        Option.map_eq_some_iff] at moves
      obtain ⟨-, _, -, rfl⟩ := moves
      exact ⟨rfl, fun _ => id⟩
  | deliver frame =>
      simp only [Connection.step, Option.ite_none_right_eq_some,
        Option.some.injEq] at moves
      obtain ⟨⟨idle, -⟩, rfl⟩ := moves
      refine ⟨handlerLog_processByPacketType _ _ _, fun other stands => ?_⟩
      rw [idle] at stands
      cases stands
  | handle frame result => cases network
  | sendReply packetSequence thenDrain sent =>
      cases sent with
      | true =>
          simp only [Connection.step, Option.ite_none_right_eq_some,
            Option.some.injEq] at moves
          obtain ⟨⟨replies, -⟩, rfl⟩ := moves
          refine ⟨handlerLog_afterReply _ _ _, fun other stands => ?_⟩
          rw [replies] at stands
          cases stands
      | false =>
          simp only [Connection.step, Option.ite_none_right_eq_some,
            Option.some.injEq] at moves
          obtain ⟨replies, rfl⟩ := moves
          refine ⟨?_, fun other stands => ?_⟩
          · exact (handlerLog_afterReply _ _ _).trans
              (handlerLog_doDisconnect _)
          · rw [replies] at stands
            cases stands
  | drain =>
      simp only [Connection.step, Option.ite_none_right_eq_some,
        Option.some.injEq] at moves
      obtain ⟨drains, rfl⟩ := moves
      refine ⟨handlerLog_drain _, fun other stands => ?_⟩
      rw [drains] at stands
      cases stands
  | disconnectByError =>
      simp only [Connection.step, Option.ite_none_right_eq_some,
        Option.some.injEq] at moves
      obtain ⟨fails, rfl⟩ := moves
      refine ⟨handlerLog_doDisconnect _, fun other stands => ?_⟩
      rw [fails] at stands
      cases stands
  | loseFrame frame | duplicateFrame frame | loseReply reply
  | duplicateReply reply =>
      simp only [Connection.step, Option.ite_none_right_eq_some,
        Option.some.injEq] at moves
      obtain ⟨-, rfl⟩ := moves
      exact ⟨rfl, fun _ => id⟩

/-- Apart from the packets of a handler, no step of the responses numbers a data
packet, and none connects the session. -/
theorem transportStep_numbered
    [DecidableEq Response]
    {maxPacketRetransmissionCount : Nat}
    {state next : ServerToClient.State Response}
    {label : ServerToClient.Label Response}
    (transport : isTransportStep label = true)
    (moves :
      ServerToClient.step maxPacketRetransmissionCount state label =
        some next) :
    ServerToClient.sendTypes next.sent = ServerToClient.sendTypes state.sent ∧
      (next.server.state = .connected → state.server.state = .connected) := by
  cases label with
  | takeSequence useSize packetType buffer =>
      simp only [ServerToClient.step, Option.ite_none_right_eq_some,
        Option.map_eq_some_iff] at moves
      obtain ⟨type, server, takes, rfl⟩ := moves
      refine ⟨?_, Retransmission.connected_of_step takes⟩
      rcases type with rfl | rfl
      · cases transport
      · simp [ServerToClient.sendTypes]
  | server label =>
      simp only [ServerToClient.step, Option.ite_none_right_eq_some,
        Option.map_eq_some_iff] at moves
      obtain ⟨-, server, moves, rfl⟩ := moves
      have connected := Retransmission.connected_of_step moves
      unfold ServerToClient.State.afterServer
      split <;> exact ⟨rfl, connected⟩
  | deliver datagram | loseDatagram datagram | duplicateDatagram datagram
  | loseReply packetSequence | duplicateReply packetSequence =>
      simp only [ServerToClient.step, Option.ite_none_right_eq_some,
        Option.some.injEq] at moves
      obtain ⟨-, rfl⟩ := moves
      exact ⟨rfl, id⟩
  | processRecvPacket =>
      simp only [ServerToClient.step] at moves
      split at moves
      · obtain rfl := Option.some.inj moves
        exact ⟨rfl, id⟩
      · cases moves
  | sendReply shouldSendReply =>
      obtain ⟨packetSequence, -, rfl⟩ := Option.map_eq_some_iff.mp moves
      exact ⟨rfl, id⟩
  | getReceivedPacket =>
      obtain rfl := Option.some.inj moves
      exact ⟨rfl, id⟩
  | onSendReply packetSequence =>
      obtain ⟨-, moves⟩ := Option.ite_none_right_eq_some.mp moves
      unfold ServerToClient.State.onSendReply at moves
      split at moves
      · obtain rfl := Option.some.inj moves
        exact ⟨rfl, id⟩
      split at moves
      · obtain rfl := Option.some.inj moves
        exact ⟨rfl, id⟩
      · obtain ⟨server, erases, rfl⟩ := Option.map_eq_some_iff.mp moves
        exact ⟨rfl, Retransmission.connected_of_step erases⟩

/-! ## The invariant -/

/-- The packets that the running handler has still to send. -/
def Handler.remaining : Handler Response → List Response
  | .outside => []
  | .responding remaining => remaining
  | .sending response remaining => response :: remaining

/-- The requests whose handler has been called, the running one included. -/
def called
    (handler : Handler Response) (server : ServerSession Request) :
    List Request :=
  match handler, server.processing with
  | .responding _, .handling frame | .sending _ _, .handling frame =>
      server.handlerLog ++ [frame.payload]
  | _, _ => server.handlerLog

theorem called_of_outside
    {handler : Handler Response} (server : ServerSession Request)
    (outside : handler = .outside) :
    called handler server = server.handlerLog := by
  rw [outside]
  rfl

theorem called_of_handling
    {handler : Handler Response} {server : ServerSession Request}
    {frame : DataFrame Request}
    (inside : handler ≠ .outside)
    (stands : server.processing = .handling frame) :
    called handler server = server.handlerLog ++ [frame.payload] := by
  unfold called
  rw [stands]
  cases handler with
  | outside => exact absurd rfl inside
  | responding remaining => rfl
  | sending response remaining => rfl

/-- Every response of a called handler has been numbered, is still to be sent,
or was skipped because the session is no longer connected. -/
structure Invariant
    (respond : Request → Option (List Response))
    (state : State Request Response) : Prop where
  requests : Connection.Invariant state.requests
  responses : ServerToClient.Invariant state.responses
  /-- A handler runs on the current packet. -/
  running : state.handler ≠ .outside →
    ∃ frame, state.requests.server.processing = .handling frame
  answered : ∃ skipped,
    answers respond (called state.handler state.requests.server) =
        state.numbered ++ skipped ++ state.handler.remaining ∧
      (skipped ≠ [] →
        state.responses.server.state ≠ .connected ∧
          ∀ response remaining,
            state.handler ≠ .sending response remaining)

namespace Invariant

variable {config : Connection.Config}
variable {respond : Request → Option (List Response)}
variable {state next : State Request Response}

theorem initial :
    Invariant respond
      (RequestResponse.initial config : State Request Response) where
  requests := Connection.invariant_initial config
  responses := ServerToClient.Invariant.initial
  running inside := absurd rfl inside
  answered := ⟨[], rfl, fun skipped => absurd rfl skipped⟩

/-- The requests move on. -/
theorem requestsStep
    [DecidableEq Request]
    {label : Connection.Label Request} {requests : Connection.State Request}
    (holds : Invariant respond state)
    (network : isNetworkStep label = true)
    (bounded : Connection.SendsBounded state.requests label)
    (moves : Connection.step config state.requests label = some requests) :
    Invariant respond { state with requests } := by
  obtain ⟨log, handling⟩ := networkStep_handling network moves
  have same : called state.handler requests.server =
      called state.handler state.requests.server := by
    by_cases outside : state.handler = .outside
    · rw [called_of_outside _ outside, called_of_outside _ outside, log]
    · obtain ⟨frame, stands⟩ := holds.running outside
      rw [called_of_handling outside stands,
        called_of_handling outside (handling frame stands), log]
  exact
    { requests := Connection.invariant_step holds.requests bounded moves
      responses := holds.responses
      running := fun inside => by
        obtain ⟨frame, stands⟩ := holds.running inside
        exact ⟨frame, handling frame stands⟩
      answered := by
        rw [same]
        exact holds.answered }

/-- The responses move on. -/
theorem responsesStep
    [DecidableEq Response]
    {label : ServerToClient.Label Response}
    {responses : ServerToClient.State Response}
    (holds : Invariant respond state)
    (transport : isTransportStep label = true)
    (below : ServerToClient.SequencesBelowMax state.responses label)
    (moves :
      ServerToClient.step config.maxPacketRetransmissionCount state.responses
        label = some responses) :
    Invariant respond { state with responses } := by
  obtain ⟨data, connected⟩ := transportStep_numbered transport moves
  have numbered : State.numbered { state with responses } = state.numbered :=
    congrArg (List.map RecvPacketInfo.buffer) data
  obtain ⟨skipped, all, disconnected⟩ := holds.answered
  exact
    { requests := holds.requests
      responses := holds.responses.step below moves
      running := holds.running
      answered := ⟨skipped, by rw [numbered]; exact all, fun some =>
        ⟨fun later => (disconnected some).1 (connected later),
          (disconnected some).2⟩⟩ }

/-- `ProcessPacket` finds no handler. -/
theorem unknownPacket
    [DecidableEq Request]
    {frame : DataFrame Request} {requests : Connection.State Request}
    (holds : Invariant respond state)
    (outside : state.handler = .outside)
    (moves :
      Connection.step config state.requests (.handle frame .unknownPacket) =
        some requests) :
    Invariant respond { state with requests } := by
  have kept := Connection.invariant_step holds.requests (by nofun) moves
  simp only [Connection.step, Option.ite_none_right_eq_some,
    Option.some.injEq] at moves
  obtain ⟨-, rfl⟩ := moves
  refine
    { requests := kept
      responses := holds.responses
      running := fun inside => absurd outside inside
      answered := ?_ }
  obtain ⟨skipped, all, disconnected⟩ := holds.answered
  refine ⟨skipped, ?_, disconnected⟩
  rw [called_of_outside _ outside] at all ⊢
  exact all

/-- The handler is called. -/
theorem call
    {frame : DataFrame Request} {remaining : List Response}
    (holds : Invariant respond state)
    (outside : state.handler = .outside)
    (known : respond frame.payload = some remaining)
    (stands : state.requests.server.processing = .handling frame) :
    Invariant respond { state with handler := .responding remaining } where
  requests := holds.requests
  responses := holds.responses
  running _ := ⟨frame, stands⟩
  answered := by
    obtain ⟨skipped, all, disconnected⟩ := holds.answered
    refine ⟨skipped, ?_, fun some =>
      ⟨(disconnected some).1, fun _ _ impossible => by cases impossible⟩⟩
    rw [called_of_outside _ outside, outside] at all
    rw [called_of_handling (by simp) stands]
    simp only [answers, List.flatMap_append, List.flatMap_singleton, known,
      Option.getD_some] at all ⊢
    rw [all]
    simp [Handler.remaining, State.numbered]

/-- `SendPacket` tests the state. -/
theorem isConnected
    {response : Response} {remaining : List Response}
    (holds : Invariant respond state)
    (stands : state.handler = .responding (response :: remaining)) :
    Invariant respond
      { state with
        handler :=
          if state.responses.server.state = .connected then
            .sending response remaining
          else .responding remaining } := by
  have inside : state.handler ≠ .outside := by simp [stands]
  obtain ⟨frame, handling⟩ := holds.running inside
  obtain ⟨skipped, all, disconnected⟩ := holds.answered
  rw [called_of_handling inside handling, stands] at all
  split
  next connected =>
    obtain rfl : skipped = [] := by
      by_contra some
      exact (disconnected some).1 connected
    exact
      { requests := holds.requests
        responses := holds.responses
        running := fun _ => ⟨frame, handling⟩
        answered := ⟨[],
          by rw [called_of_handling (by simp) handling]; exact all,
          fun some => absurd rfl some⟩ }
  next notConnected =>
    refine
      { requests := holds.requests
        responses := holds.responses
        running := fun _ => ⟨frame, handling⟩
        answered := ⟨skipped ++ [response], ?_, fun _ =>
          ⟨notConnected, fun _ _ impossible => by cases impossible⟩⟩ }
    rw [called_of_handling (by simp) handling]
    refine all.trans ?_
    simp [Handler.remaining, State.numbered]

/-- `SendPacket` gets no buffer and disconnects the session. -/
theorem allocFails
    [DecidableEq Response]
    {response : Response} {remaining : List Response}
    {responses : ServerToClient.State Response}
    (holds : Invariant respond state)
    (stands : state.handler = .sending response remaining)
    (moves :
      ServerToClient.step config.maxPacketRetransmissionCount state.responses
        (.server .disconnect) = some responses) :
    Invariant respond
      { state with responses, handler := .responding remaining } := by
  have inside : state.handler ≠ .outside := by simp [stands]
  obtain ⟨frame, handling⟩ := holds.running inside
  have kept := holds.responses.step (by trivial) moves
  obtain ⟨data, -⟩ := transportStep_numbered rfl moves
  have notConnected : responses.server.state ≠ .connected := by
    obtain rfl := Option.some.inj moves
    exact Retransmission.PlacesInvariant.doDisconnect_ne_connected _
  obtain ⟨skipped, all, disconnected⟩ := holds.answered
  refine
    { requests := holds.requests
      responses := kept
      running := fun _ => ⟨frame, handling⟩
      answered := ⟨skipped ++ [response], ?_, fun _ =>
        ⟨notConnected, fun _ _ impossible => by cases impossible⟩⟩ }
  rw [called_of_handling inside handling, stands] at all
  rw [called_of_handling (by simp) handling]
  refine all.trans ?_
  simp [Handler.remaining, State.numbered, data]

/-- `SendPacket` numbers the packet. -/
theorem takeSequence
    [DecidableEq Response]
    {useSize : Nat} {response : Response} {remaining : List Response}
    {responses : ServerToClient.State Response}
    (holds : Invariant respond state)
    (stands : state.handler = .sending response remaining)
    (below : state.responses.server.sequencesTaken + 1 < 2 ^ 64 - 1)
    (moves :
      ServerToClient.step config.maxPacketRetransmissionCount state.responses
        (.takeSequence useSize .sendType response) = some responses) :
    Invariant respond
      { state with responses, handler := .responding remaining } := by
  have inside : state.handler ≠ .outside := by simp [stands]
  obtain ⟨frame, handling⟩ := holds.running inside
  have bounded : ServerToClient.SequencesBelowMax state.responses
      (.takeSequence useSize .sendType response) := below
  have kept := holds.responses.step bounded moves
  obtain ⟨skipped, all, disconnected⟩ := holds.answered
  obtain rfl : skipped = [] := by
    by_contra some
    exact (disconnected some).2 response remaining stands
  refine
    { requests := holds.requests
      responses := kept
      running := fun _ => ⟨frame, handling⟩
      answered := ⟨[], ?_, fun some => absurd rfl some⟩ }
  rw [called_of_handling inside handling, stands] at all
  rw [called_of_handling (by simp) handling]
  refine all.trans ?_
  simp only [ServerToClient.step, Option.ite_none_right_eq_some,
    Option.map_eq_some_iff] at moves
  obtain ⟨-, server, -, rfl⟩ := moves
  simp [Handler.remaining, State.numbered, ServerToClient.sendTypes]

/-- The handler returns. -/
theorem returns
    [DecidableEq Request]
    {frame : DataFrame Request} {requests : Connection.State Request}
    (holds : Invariant respond state)
    (stands : state.handler = .responding [])
    (moves :
      Connection.step config state.requests (.handle frame .succeeded) =
        some requests) :
    Invariant respond { state with requests, handler := .outside } := by
  have inside : state.handler ≠ .outside := by simp [stands]
  have kept := Connection.invariant_step holds.requests (by nofun) moves
  simp only [Connection.step, Option.ite_none_right_eq_some,
    Option.some.injEq] at moves
  obtain ⟨handling, rfl⟩ := moves
  obtain ⟨skipped, all, disconnected⟩ := holds.answered
  refine
    { requests := kept
      responses := holds.responses
      running := fun outside => absurd rfl outside
      answered := ⟨skipped, ?_, fun some =>
        ⟨(disconnected some).1, fun _ _ impossible => by cases impossible⟩⟩ }
  rw [called_of_handling inside handling, stands] at all
  rw [called_of_outside _ rfl]
  exact all

/-- Every step keeps the invariant. -/
theorem step
    [DecidableEq Request] [DecidableEq Response]
    {label : Label Request Response}
    (holds : Invariant respond state)
    (bounded : SequencesBounded state label)
    (moves : RequestResponse.step config respond state label = some next) :
    Invariant respond next := by
  cases label with
  | requests label =>
      simp only [RequestResponse.step, Option.ite_none_right_eq_some,
        Option.map_eq_some_iff] at moves
      obtain ⟨network, requests, moves, rfl⟩ := moves
      exact holds.requestsStep network bounded moves
  | responses label =>
      simp only [RequestResponse.step, Option.ite_none_right_eq_some,
        Option.map_eq_some_iff] at moves
      obtain ⟨transport, responses, moves, rfl⟩ := moves
      exact holds.responsesStep transport bounded moves
  | processPacket frame =>
      simp only [RequestResponse.step] at moves
      split at moves
      next outside _ =>
        obtain ⟨requests, moved, rfl⟩ := Option.map_eq_some_iff.mp moves
        exact holds.unknownPacket outside moved
      next remaining outside known =>
        obtain ⟨stands, moves⟩ := Option.ite_none_right_eq_some.mp moves
        obtain rfl := Option.some.inj moves
        exact holds.call outside known stands
      next => cases moves
  | isConnected =>
      simp only [RequestResponse.step] at moves
      split at moves
      next response remaining stands =>
        obtain rfl := Option.some.inj moves
        exact holds.isConnected stands
      next => cases moves
  | allocFails =>
      simp only [RequestResponse.step] at moves
      split at moves
      next response remaining stands =>
        obtain ⟨responses, moved, rfl⟩ := Option.map_eq_some_iff.mp moves
        exact holds.allocFails stands moved
      next => cases moves
  | takeSequence useSize =>
      simp only [RequestResponse.step] at moves
      split at moves
      next response remaining stands =>
        obtain ⟨responses, moved, rfl⟩ := Option.map_eq_some_iff.mp moves
        exact holds.takeSequence stands bounded moved
      next => cases moves
  | returns frame =>
      simp only [RequestResponse.step] at moves
      split at moves
      next stands =>
        obtain ⟨requests, moved, rfl⟩ := Option.map_eq_some_iff.mp moves
        exact holds.returns stands moved
      next => cases moves

/-- The invariant holds in every state that the sequences allow. -/
theorem of_reachable
    [DecidableEq Request] [DecidableEq Response]
    (reached :
      (system config respond).GuardedReachable SequencesBounded state) :
    Invariant respond state := by
  refine reached.invariant ?_ ?_
  · rintro _ rfl
    exact initial
  · intro before label after _ holds bounded moves
    exact holds.step bounded moves

end Invariant

/-! ## What the application gets -/

/-- The promise to the application of the client. -/
structure Answered
    (respond : Request → Option (List Response))
    (state : State Request Response) : Prop where
  /-- What it gets is the beginning of the answers to its requests. -/
  in_order : state.received <+: answers respond state.requests.client.sent
  /-- No response overtakes its handler. -/
  called :
    state.received <+:
      answers respond (called state.handler state.requests.server)
  /-- On a session that stays connected, all answers to the handled requests can
  be got as soon as all packets of the session have arrived. -/
  complete : state.handler = .outside →
    state.responses.server.state = .connected →
    ServerToClient.ArrivedUpTo state.responses state.responses.sent.length →
    state.received ++
        (receiveAll state.responses.recvPacketHoldingQueue
          state.responses.nextRecvPacketSequence).1.map
            RecvPacketInfo.buffer =
      answers respond state.requests.server.handlerLog

/-- Once everything has arrived, repeated calls return all data packets. -/
theorem returned_receiveAll
    {state : ServerToClient.State Response}
    (holds : ServerToClient.Invariant state)
    (complete : ServerToClient.ArrivedUpTo state state.sent.length) :
    state.returned ++
        (receiveAll state.recvPacketHoldingQueue
          state.nextRecvPacketSequence).1 =
      ServerToClient.sendTypes state.sent := by
  obtain ⟨passed, queue, returned⟩ := holds.queue
  have small : ∀ info ∈ state.arrived,
      info.packetSequence.toNat < 2 ^ 64 - 1 :=
    fun _ => holds.arrived_small
  obtain ⟨more, later, returnedMore, blocked⟩ := queue.receiveAll small
  have among := later.inOrder.mono holds.arrived
  have long := InOrderDelivery.InOrder.le_length_of_blocked blocked complete
  have all : passed ++ more = state.sent := by
    rw [holds.passed_eq later.inOrder]
    exact List.take_of_length_le long
  rw [returned, ← returnedMore, ← List.filter_append,
    holds.filter_isData among.arrived, all]

/-- The handled requests are the first ones of the client. -/
theorem isPrefix_called
    {state : Connection.State Request}
    (holds : Connection.Invariant state)
    (handler : Handler Response)
    (running : handler ≠ .outside →
      ∃ frame, state.server.processing = .handling frame) :
    called handler state.server <+: state.client.sent := by
  have log := holds.server.log_eq
  by_cases outside : handler = .outside
  · rw [called_of_outside _ outside, log]
    exact List.take_prefix _ _
  · obtain ⟨frame, stands⟩ := running outside
    rw [called_of_handling outside stands]
    have connected :=
      holds.server.connected_of_processing stands (by simp)
    have progress := holds.server.progress connected
    rw [Progress, stands] at progress
    obtain ⟨-, current, valid, -⟩ := progress
    have payload :
        state.client.sent[state.server.handlerLog.length]? =
          some frame.payload := by
      have stored := valid.2
      rwa [current, Nat.add_sub_cancel] at stored
    have next :
        state.server.handlerLog ++ [frame.payload] =
          state.client.sent.take (state.server.handlerLog.length + 1) := by
      rw [List.take_add_one, payload, ← log]
      rfl
    rw [next]
    exact List.take_prefix _ _

/-- More requests have more answers. -/
theorem isPrefix_answers
    (respond : Request → Option (List Response))
    {first all : List Request}
    (begins : first <+: all) :
    answers respond first <+: answers respond all := by
  obtain ⟨later, rfl⟩ := begins
  refine ⟨answers respond later, ?_⟩
  exact List.flatMap_append.symm

namespace Invariant

variable {respond : Request → Option (List Response)}
variable {state : State Request Response}

/-- The received packets are the first numbered ones. -/
theorem isPrefix_received
    (holds : Invariant respond state) :
    state.received <+: state.numbered := by
  have returned := holds.responses.reliable.returned
  unfold State.received State.numbered
  rw [returned]
  exact ((List.take_prefix _ _).filter _).map _

/-- The invariant gives the promise. -/
theorem answered_of
    (holds : Invariant respond state) :
    Answered respond state := by
  obtain ⟨skipped, all, disconnected⟩ := holds.answered
  have called :
      state.received <+:
        answers respond (called state.handler state.requests.server) := by
    rw [all, List.append_assoc]
    exact holds.isPrefix_received.trans (List.prefix_append _ _)
  exact
    { in_order := called.trans
        (isPrefix_answers respond
          (isPrefix_called holds.requests state.handler holds.running))
      called := called
      complete := by
        intro outside connected complete
        obtain rfl : skipped = [] := by
          by_contra some
          exact (disconnected some).1 connected
        rw [called_of_outside _ outside, outside] at all
        rw [all, State.received, ← List.map_append,
          returned_receiveAll holds.responses complete]
        simp [Handler.remaining, State.numbered] }

end Invariant

/-- In every run whose sequences stay below their bounds, the application of the
client gets the answers to its requests in the order of the requests, each once
and none before its handler was called; and it gets all answers to the handled
requests once everything has arrived. -/
theorem answered_in_order
    [DecidableEq Request] [DecidableEq Response]
    {config : Connection.Config}
    {respond : Request → Option (List Response)}
    {state : State Request Response}
    (reached :
      (system config respond).GuardedReachable SequencesBounded state) :
    Answered respond state :=
  (Invariant.of_reachable reached).answered_of

/-! ## A ping -/

open Contents

/-- A buffer of one parameter. -/
def parameterStream : NetBufferStream (BitVec 32 × List Byte) where
  empty := (0, [])
  writeInt value := (value, [])
  writeString value := (0, value)
  readInt := Prod.fst
  readString := Prod.snd
  readInt_writeInt _ := rfl
  readString_writeString _ := rfl

/-- The client connects and sends a ping, which its handler answers. -/
def pingRequest :
    List
      (Label (Message (BitVec 32 × List Byte))
        (Message (BitVec 32 × List Byte))) :=
  let frame : DataFrame (Message (BitVec 32 × List Byte)) :=
    ⟨1, Packet.ping.message parameterStream⟩
  [.requests (.deliver (.connect 0 0)), .requests (.sendReply 0 false true),
    .requests (.deliverReply ⟨0, 1⟩), .requests (.client (.eraseAcked 0)),
    .requests (.client (.allocate 1 frame.payload)),
    .requests (.client (.loadWindow 1 frame)),
    .requests (.client (.compareOutstanding 1 frame 1)),
    .requests (.client (.register 1 frame)),
    .requests (.client (.enqueue 1 frame)),
    .requests (.deliver (.send frame)), .processPacket frame, .isConnected,
    .takeSequence 40, .returns frame]

/-- The answer is sent in a datagram of its own. -/
def pongTransmission : List Retransmission.Label :=
  let packet := Retransmission.PacketRef.data 1
  let caller := Retransmission.Caller.call packet
  let item : Retransmission.QueueItem := ⟨packet, none⟩
  [.insert packet, .testRelease packet, .push packet, .enterDoSend caller,
    .acquire caller, .ownerTest caller, .ownerLook caller,
    .measureQueue caller, .takeReserved caller 1,
    .popQueue caller ⟨1, [], 0⟩, .checkTaken caller item false ⟨0, [], 0⟩,
    .finishRefresh caller item false ⟨0, [], 0⟩ 5,
    .popQueue caller ⟨0, [packet.key], 40⟩, .tryRioSend caller 40 true]

/-- The ping, the transmission of the answer and its way to the application. -/
def pingPong :
    List
      (Label (Message (BitVec 32 × List Byte))
        (Message (BitVec 32 × List Byte))) :=
  pingRequest ++ pongTransmission.map (fun label => .responses (.server label)) ++
    [.responses (.deliver [⟨Packet.pong.message parameterStream, 1, .sendType⟩]),
      .responses .processRecvPacket, .responses (.sendReply true),
      .responses .getReceivedPacket]

/-- The state after it. -/
def pongReceived :
    State (Message (BitVec 32 × List Byte))
      (Message (BitVec 32 × List Byte)) :=
  ((system Connection.narrowConfig
      (Player.processPacket parameterStream)).run
    (initial Connection.narrowConfig) pingPong).getD
    (initial Connection.narrowConfig)

theorem guardedRun_pingPong :
    (system Connection.narrowConfig
        (Player.processPacket parameterStream)).guardedRun SequencesBounded
      (initial Connection.narrowConfig) pingPong = some pongReceived := rfl

example :
    pongReceived.received = [Packet.pong.message parameterStream] := rfl

theorem answered_in_order_pongReceived :
    Answered (Player.processPacket parameterStream) pongReceived :=
  answered_in_order
    (TransitionSystem.GuardedReachable.guardedRun (.initial rfl)
      guardedRun_pingPong)

end RequestResponse
end MultiSocketRudp
