import MultiSocketRudp.Lib.TransitionSystem
import Mathlib.Data.List.Count
import Mathlib.Data.List.TakeWhile

/-!
# The life of a bot session

A session is born with its socket and four tasks: the receive task, the packet
processor, the retransmission task and the one that sends the CONNECT packet.
The reply to the CONNECT packet makes it connected and starts the server-alive
check.  `Cleanup` ends it; the first caller runs it and the others return.

Every write to a shared field, every channel operation and every test is one
step.  What arrives, whether it can be decoded, how many packets it completes,
when a task finds the server silent or a packet unacknowledged too often, and
when `Disconnect` is called, is left open.  `Cleanup` runs as a thread of its own.
-/

namespace MultiSocketRudp
namespace BotTester
namespace SessionLifecycle

open TransitionSystems

/-- `SessionState`. -/
inductive SessionState
  | disconnected
  | connecting
  | connected
  | disconnecting
  deriving DecidableEq, Repr

/-- What a frame of a datagram turns out to be. -/
inductive Packet
  /-- A `SendReplyType` packet with `LoginPacketSequence`. -/
  | loginReply
  /-- A packet that lets this many calls of `OnRecvPacket` be queued. -/
  | data (actions : Nat)
  /-- Any other reply, or an unknown type. -/
  | other
  deriving DecidableEq, Repr

/-- An entry of `recvProcessingChannel`. -/
inductive QueuedAction
  | onConnected
  | onRecvPacket
  deriving DecidableEq, Repr

/-- What happens in the life of a session. -/
inductive Event
  /-- `OnSendReply` is called for the CONNECT packet. -/
  | loginReplied
  /-- `isConnected` becomes true. -/
  | becameConnected
  /-- `SessionState` becomes `Connected`. -/
  | stateConnected
  | aliveCheckStarted
  | onConnectedQueued
  | onConnectedStarted
  /-- `Cleanup` wins its compare-and-swap. -/
  | cleanupStarted
  | onDisconnected
  | onSessionDisconnected
  deriving DecidableEq, Repr

/-- Where the receive task stands; it has the frames of its datagram that are
left. -/
inductive Receiver
  /-- About to test the token. -/
  | looping
  /-- In `ReceiveAsync`. -/
  | receiving
  /-- About to test `AesGcm` for the next packet. -/
  | framing (packets : List Packet)
  /-- About to decode the packet. -/
  | decoding (packet : Packet) (packets : List Packet)
  /-- `OnSendReply` is about to set `isConnected`. -/
  | connecting (packets : List Packet)
  /-- It is about to set `SessionState`. -/
  | connected (packets : List Packet)
  /-- It is about to start the server-alive check. -/
  | stated (packets : List Packet)
  /-- It is about to queue `OnConnected`. -/
  | checking (packets : List Packet)
  | ended
  deriving DecidableEq, Repr

/-- Where the packet processor stands. -/
inductive Processor
  | waiting
  | running (action : QueuedAction)
  | ended
  deriving DecidableEq, Repr

/-- Where a task stands that may call `DisconnectAsync`. -/
inductive Watcher
  /-- Waiting for its timer. -/
  | waiting
  /-- About to reset `isConnected`. -/
  | leaving
  /-- About to set `SessionState`. -/
  | left
  /-- About to call `Cleanup`, with the DISCONNECT packet sent or not. -/
  | disconnecting
  | ended
  deriving DecidableEq, Repr

/-- Where `Cleanup` stands. -/
inductive Cleanup
  | outside
  /-- About to reset `isConnected`. -/
  | begun
  /-- About to complete the channel. -/
  | unset
  /-- About to cancel the token. -/
  | completed
  /-- About to call `OnDisconnected`. -/
  | cancelled
  /-- About to dispose the token. -/
  | notified
  /-- About to close the socket. -/
  | disposed
  /-- About to set `SessionState` and to forget the session. -/
  | closed
  /-- About to dispose `AesGcm`. -/
  | forgotten
  /-- About to call `OnSessionDisconnected`. -/
  | cleared
  | finished
  /-- `OnDisconnected` has thrown. -/
  | thrown
  deriving DecidableEq, Repr

/-- A session with its tasks. -/
structure State where
  isConnected : Bool
  sessionState : SessionState
  isDisposed : Bool
  /-- The token source is cancelled. -/
  isCancelled : Bool
  /-- The token source is disposed. -/
  tokenDisposed : Bool
  socketOpen : Bool
  hasAesGcm : Bool
  /-- `OnSessionDisconnected` has been assigned. -/
  hasHandler : Bool
  channel : List QueuedAction
  channelCompleted : Bool
  receiver : Receiver
  processor : Processor
  retransmission : Watcher
  /-- The server-alive checks that have been started. -/
  aliveChecks : List Watcher
  cleanup : Cleanup
  /-- What has happened, latest first. -/
  events : List Event
  deriving DecidableEq, Repr

/-- One step of one task. -/
inductive Label
  /-- A datagram arrives. -/
  | receive (datagram : List Packet)
  /-- `ReceiveAsync` throws. -/
  | interrupt
  /-- The receive task moves on; the packet can be decoded or not. -/
  | receiver (decoded : Bool)
  /-- The packet processor takes the next action. -/
  | take
  /-- The action returns. -/
  | finish
  /-- The packet processor ends. -/
  | endProcessor
  /-- The retransmission task finds its limit exceeded, or moves on. -/
  | retransmission
  | endRetransmission
  /-- A server-alive check finds the server silent, or moves on. -/
  | aliveCheck (index : Nat)
  | endAliveCheck (index : Nat)
  /-- A thread calls `Disconnect`. -/
  | disconnect
  /-- `OnSessionDisconnected` is assigned. -/
  | assign
  /-- `Cleanup` moves on; `OnDisconnected` returns or throws. -/
  | cleanup (returns : Bool)
  deriving DecidableEq, Repr

namespace State

/-- Something happens. -/
def record (state : State) (event : Event) : State :=
  { state with events := event :: state.events }

/-- `Cleanup` up to its compare-and-swap. -/
def beginCleanup (state : State) : State :=
  if state.isDisposed then state
  else
    { state with isDisposed := true, cleanup := .begun }.record
      .cleanupStarted

/-- `isConnected = true`. -/
def setConnected (state : State) : State :=
  if state.isConnected then state
  else { state with isConnected := true }.record .becameConnected

/-- `SessionInfo.SessionState = SessionState.Connected`. -/
def setStateConnected (state : State) : State :=
  if state.sessionState = .connected then state
  else { state with sessionState := .connected }.record .stateConnected

/-- `recvProcessingChannel.Writer.TryWrite`. -/
def tryWrite (state : State) (actions : List QueuedAction) : State :=
  if state.channelCompleted then state
  else { state with channel := state.channel ++ actions }

/-- The call of `TryWrite` for `OnConnected`. -/
def queueOnConnected (state : State) : State :=
  if state.channelCompleted then state
  else (state.tryWrite [.onConnected]).record .onConnectedQueued

/-- The next step of the receive task. -/
def receiverStep (state : State) (decoded : Bool) : Option State :=
  match state.receiver with
  | .looping =>
      some { state with
        receiver :=
          if state.tokenDisposed || state.isCancelled then .ended
          else .receiving }
  | .receiving | .ended => none
  | .framing [] => some { state with receiver := .looping }
  | .framing (packet :: packets) =>
      some { state with
        receiver :=
          if state.hasAesGcm then .decoding packet packets
          else .framing packets }
  | .decoding packet packets =>
      -- Decoding without `AesGcm` throws, which abandons the datagram.
      if state.hasAesGcm = false then
        some { state with receiver := .looping }
      else if decoded = false then
        some { state with receiver := .framing packets }
      else
        match packet with
        | .loginReply =>
            some ({ state with receiver := .connecting packets }.record
              .loginReplied)
        | .data actions =>
            some ({ state with receiver := .framing packets }.tryWrite
              (List.replicate actions .onRecvPacket))
        | .other => some { state with receiver := .framing packets }
  | .connecting packets =>
      some { state.setConnected with receiver := .connected packets }
  | .connected packets =>
      some { state.setStateConnected with receiver := .stated packets }
  | .stated packets =>
      some ({ state with
        aliveChecks := state.aliveChecks ++ [Watcher.waiting]
        receiver := .checking packets }.record .aliveCheckStarted)
  | .checking packets =>
      some { state.queueOnConnected with receiver := .framing packets }

/-- The next step of `DisconnectAsync`, and where its task stands after it. -/
def watcherStep (state : State) : Watcher → Option (State × Watcher)
  | .waiting => some (state, .leaving)
  | .leaving => some ({ state with isConnected := false }, .left)
  | .left =>
      some ({ state with sessionState := .disconnecting }, .disconnecting)
  | .disconnecting => some (state.beginCleanup, .ended)
  | .ended => none

/-- The next step of `Cleanup`. -/
def cleanupStep (state : State) (returns : Bool) : Option State :=
  match state.cleanup with
  | .outside | .finished | .thrown => none
  | .begun => some { state with isConnected := false, cleanup := .unset }
  | .unset => some { state with channelCompleted := true, cleanup := .completed }
  | .completed => some { state with isCancelled := true, cleanup := .cancelled }
  | .cancelled =>
      some ({ state with
        cleanup := if returns then .notified else .thrown }.record
        .onDisconnected)
  | .notified => some { state with tokenDisposed := true, cleanup := .disposed }
  | .disposed => some { state with socketOpen := false, cleanup := .closed }
  | .closed =>
      some { state with sessionState := .disconnected, cleanup := .forgotten }
  | .forgotten => some { state with hasAesGcm := false, cleanup := .cleared }
  | .cleared =>
      some (if state.hasHandler then
          { state with cleanup := .finished }.record .onSessionDisconnected
        else { state with cleanup := .finished })

end State

/-- The effect of a step. -/
def step (state : State) : Label → Option State
  | .receive datagram =>
      if state.receiver = .receiving ∧ state.socketOpen = true then
        some { state with receiver := .framing datagram }
      else none
  | .interrupt =>
      if state.receiver = .receiving then
        some { state with receiver := .ended }
      else none
  | .receiver decoded => state.receiverStep decoded
  | .take =>
      match state.processor, state.channel with
      | .waiting, .onConnected :: channel =>
          some ({ state with
            channel := channel
            processor := .running .onConnected }.record .onConnectedStarted)
      | .waiting, .onRecvPacket :: channel =>
          some { state with
            channel := channel
            processor := .running .onRecvPacket }
      | _, _ => none
  | .finish =>
      match state.processor with
      | .running _ => some { state with processor := .waiting }
      | _ => none
  | .endProcessor =>
      if state.processor = .waiting ∧
          (state.isCancelled = true ∨
            state.channelCompleted = true ∧ state.channel = []) then
        some { state with processor := .ended }
      else none
  | .retransmission =>
      (state.watcherStep state.retransmission).map fun (next, watcher) =>
        { next with retransmission := watcher }
  | .endRetransmission =>
      if state.retransmission = .waiting then
        some { state with retransmission := .ended }
      else none
  | .aliveCheck index =>
      match state.aliveChecks[index]? with
      | none => none
      | some watcher =>
          -- The check ends by itself once the session is not connected.
          if watcher = .waiting ∧ state.isConnected = false then none
          else
            (state.watcherStep watcher).map fun (next, watcher) =>
              { next with aliveChecks := next.aliveChecks.set index watcher }
  | .endAliveCheck index =>
      if state.aliveChecks[index]? = some .waiting ∧
          (state.isConnected = false ∨ state.isCancelled = true) then
        some { state with aliveChecks := state.aliveChecks.set index .ended }
      else none
  | .disconnect => some state.beginCleanup
  | .assign => some { state with hasHandler := true }
  | .cleanup returns => state.cleanupStep returns

/-- A session after its constructor. -/
def initial : State where
  isConnected := false
  sessionState := .connecting
  isDisposed := false
  isCancelled := false
  tokenDisposed := false
  socketOpen := true
  hasAesGcm := true
  hasHandler := false
  channel := []
  channelCompleted := false
  receiver := .looping
  processor := .waiting
  retransmission := .waiting
  aliveChecks := []
  cleanup := .outside
  events := []

/-- The session with all its tasks. -/
def system : TransitionSystem State Label where
  Initial state := state = initial
  step := step

/-! ## A one-way path -/

/-- The event belongs to a session that is getting connected. -/
def Event.connects : Event → Bool
  | .becameConnected | .stateConnected | .onConnectedStarted => true
  | .loginReplied | .aliveCheckStarted | .onConnectedQueued
  | .cleanupStarted | .onDisconnected | .onSessionDisconnected => false

/-- What has happened since `Cleanup` started. -/
def sinceCleanup (events : List Event) : List Event :=
  if .cleanupStarted ∈ events then
    events.takeWhile fun event => decide (event ≠ .cleanupStarted)
  else []

/-- A session is connected once and ends once, and it is not connected again when
it is ending. -/
structure OneWay (state : State) : Prop where
  queuedOnce : state.events.count .onConnectedQueued ≤ 1
  checkedOnce : state.events.count .aliveCheckStarted ≤ 1
  startedOnce : state.events.count .cleanupStarted ≤ 1
  disconnectedOnce : state.events.count .onDisconnected ≤ 1 ∧
    state.events.count .onSessionDisconnected ≤ 1
  disconnected : state.cleanup = .finished ∨ state.cleanup = .thrown →
    state.events.count .onDisconnected = 1 ∧
      state.events.count .onSessionDisconnected = 1
  stays : ∀ event ∈ sinceCleanup state.events, event.connects = false

end SessionLifecycle
end BotTester
end MultiSocketRudp
