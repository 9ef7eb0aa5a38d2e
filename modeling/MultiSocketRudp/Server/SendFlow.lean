import MultiSocketRudp.Common.FlowController
import MultiSocketRudp.Lib.TransitionSystem
import Mathlib.Data.List.Basic

/-!
# The send flow of a server session

Any number of threads are inside `SendPacket`, `SendHeartbeatPacket`,
`SendReplyToClient` and `OnSendReply` at once.  Each call advances by the atomic
steps that its loads, its counter increment and its lock sections define, and
`ProcessRetransmission` may shrink the window in between.

A sequence is allocated before the pending lock is taken.  Under the lock the
packet is sent at once when nothing is pending and the window admits it, and is
queued otherwise.  An acknowledgement removes the packet from the map, moves the
window and then flushes the queue from its front.
-/

namespace MultiSocketRudp
namespace SendFlow

open TransitionSystems

/-- A packet with the arguments that `SendPacketImmediate` receives for it. -/
structure Frame where
  packetType : PacketType
  packetSequence : PacketSequence
  isReplyType : Bool
  isCorePacket : Bool
  deriving DecidableEq, Repr

/-- An entry of the pending queue: the sequence and the buffer, of which only
the type matters here.  The packet class is not stored. -/
structure PendingItem where
  packetSequence : PacketSequence
  packetType : PacketType
  deriving DecidableEq, Repr

/-- Where one call stands. -/
inductive CallState
  /-- No call is in progress. -/
  | idle
  /-- `SendPacket(IPacket&)` has found the session connected. -/
  | connectedTested
  /-- `NeedToSendHeartbeat` has returned true. -/
  | heartbeatNeeded
  /-- The window admits the sequence behind the last one. -/
  | heartbeatChecked
  /-- The sequence is allocated and the pending lock is not yet taken. -/
  | allocated (frame : Frame)
  /-- `SendPacketImmediate` has begun; the rest is left of a flush. -/
  | immediate (frame : Frame) (rest : List PendingItem)
  /-- The packet has been registered in the map, unless it is a reply. -/
  | inserted (frame : Frame) (rest : List PendingItem)
  /-- The packet has passed `EncodePacket`. -/
  | encoded (frame : Frame) (rest : List PendingItem)
  /-- `OnSendReply` has erased the sequence from the map. -/
  | acked (packetSequence : PacketSequence)
  /-- `OnSendReply` has moved the window. -/
  | ackReceived
  /-- The call is about to disconnect the session with an error. -/
  | failing
  deriving DecidableEq, Repr

/-- The session's send state and the calls in progress. -/
structure Session where
  state : SessionState
  nowInReleaseThread : Bool
  lastSendPacketSequence : PacketSequence
  flowController : RudpFlowController
  /-- The pending queue, front first. -/
  pendingPacketQueue : List PendingItem
  /-- Keys of `sendPacketInfoMap`. -/
  sendPacketInfoMap : List PacketSequence
  /-- Every call of `EncodePacket`, latest first. -/
  encodeLog : List Frame
  /-- The calls in progress, by thread. -/
  calls : Nat → CallState

/-- The atomic steps, with the call that makes them. -/
inductive Label
  /-- `SendPacket(IPacket&)` tests `IsConnected`. -/
  | beginSendPacket (call : Nat)
  /-- It increments the sequence and fills the buffer. -/
  | allocateData (call : Nat)
  /-- `NeedToSendHeartbeat` returns true. -/
  | beginHeartbeat (call : Nat)
  /-- `SendHeartbeatPacket` tests the window. -/
  | checkHeartbeat (call : Nat)
  /-- It increments the sequence and fills the buffer. -/
  | allocateHeartbeat (call : Nat)
  /-- `NetBuffer::Alloc` fails in either of the two. -/
  | allocFails (call : Nat)
  /-- `SendReplyToClient` fills its buffer. -/
  | beginReply (call : Nat) (packetSequence : PacketSequence)
  /-- The section of `SendPacket(NetBuffer&)` under the pending lock. -/
  | enterLock (call : Nat) (frame : Frame)
  /-- The pool has no `SendPacketInfo` left. -/
  | infoAllocFails (call : Nat) (frame : Frame) (rest : List PendingItem)
  /-- `InsertSendPacketInfo`. -/
  | insert (call : Nat) (frame : Frame) (rest : List PendingItem)
  /-- `EncodePacket`. -/
  | encode (call : Nat) (frame : Frame) (rest : List PendingItem)
  /-- `MultiSocketRUDPCore::SendPacket`, with its result. -/
  | coreSendPacket
      (call : Nat) (frame : Frame) (rest : List PendingItem) (sent : Bool)
  /-- `OnSendReply` finds and erases the sequence. -/
  | ackErase (call : Nat) (packetSequence : PacketSequence)
  /-- `OnAckReceived`. -/
  | ackUpdate (call : Nat) (packetSequence : PacketSequence)
  /-- The section of `TryFlushPendingQueue` under the pending lock. -/
  | flush (call : Nat)
  /-- `OnRetransmissionTimeout` shrinks the window. -/
  | timeout
  /-- A failed call disconnects the session. -/
  | failDisconnect (call : Nat)
  /-- `DoDisconnect` from outside of these calls. -/
  | disconnect
  deriving DecidableEq, Repr

/-- `DoDisconnect`, as far as senders notice it. -/
def doDisconnect (session : Session) : Session :=
  match session.state.tryTransitionToReleasing with
  | (true, state) => { session with state, nowInReleaseThread := true }
  | (false, state) => { session with state }

/-- `InsertSendPacketInfo`: `try_emplace` leaves a present key alone, and
replies are not registered. -/
def insertSendPacketInfo
    (map : List PacketSequence) (frame : Frame) : List PacketSequence :=
  if frame.isReplyType ∨ frame.packetSequence ∈ map then map
  else frame.packetSequence :: map

/-- A call goes on with the rest of a flush.  `TryFlushPendingQueue` passes
`isCorePacket = false` for every buffer. -/
def sendNext : List PendingItem → CallState
  | [] => .idle
  | item :: rest =>
      .immediate ⟨item.packetType, item.packetSequence, false, false⟩ rest

/-- The section of `SendPacket(NetBuffer&)` under the pending lock. -/
def enterPendingLock
    (pendingQueueCapacity : Nat)
    (session : Session)
    (call : Nat)
    (frame : Frame) : Session :=
  if session.pendingPacketQueue ≠ [] ∨
      session.flowController.canSend frame.packetSequence = false then
    if session.pendingPacketQueue.length = pendingQueueCapacity then
      { session with calls := Function.update session.calls call .failing }
    else
      { session with
        pendingPacketQueue :=
          session.pendingPacketQueue ++
            [⟨frame.packetSequence, frame.packetType⟩]
        calls := Function.update session.calls call .idle }
  else
    { session with
      calls := Function.update session.calls call (.immediate frame []) }

/-- The items that the loop of `TryFlushPendingQueue` pops. -/
def sendable (session : Session) (item : PendingItem) : Bool :=
  session.flowController.canSend item.packetSequence

/-- One atomic step. -/
def step
    (pendingQueueCapacity : Nat) (session : Session) : Label → Option Session
  | .beginSendPacket call =>
      if session.calls call = .idle ∧ session.state = .connected then
        some
          { session with
            calls := Function.update session.calls call .connectedTested }
      else none
  | .allocateData call =>
      if session.calls call = .connectedTested then
        let packetSequence := session.lastSendPacketSequence + 1
        some
          { session with
            lastSendPacketSequence := packetSequence
            calls :=
              Function.update session.calls call
                (.allocated ⟨.sendType, packetSequence, false, false⟩) }
      else none
  | .beginHeartbeat call =>
      if session.calls call = .idle ∧ session.nowInReleaseThread = false ∧
          session.state = .connected then
        some
          { session with
            calls := Function.update session.calls call .heartbeatNeeded }
      else none
  | .checkHeartbeat call =>
      if session.calls call = .heartbeatNeeded then
        let admitted :=
          session.flowController.canSend (session.lastSendPacketSequence + 1)
        some
          { session with
            calls :=
              Function.update session.calls call
                (if admitted then .heartbeatChecked else .idle) }
      else none
  | .allocateHeartbeat call =>
      if session.calls call = .heartbeatChecked then
        let packetSequence := session.lastSendPacketSequence + 1
        some
          { session with
            lastSendPacketSequence := packetSequence
            calls :=
              Function.update session.calls call
                (.allocated ⟨.heartbeatType, packetSequence, false, true⟩) }
      else none
  | .allocFails call =>
      if session.calls call = .connectedTested ∨
          session.calls call = .heartbeatChecked then
        some
          { session with calls := Function.update session.calls call .failing }
      else none
  | .beginReply call packetSequence =>
      if session.calls call = .idle then
        some
          { session with
            calls :=
              Function.update session.calls call
                (.immediate ⟨.sendReplyType, packetSequence, true, true⟩ []) }
      else none
  | .enterLock call frame =>
      if session.calls call = .allocated frame then
        some (enterPendingLock pendingQueueCapacity session call frame)
      else none
  | .infoAllocFails call frame rest =>
      if session.calls call = .immediate frame rest then
        some
          { session with calls := Function.update session.calls call .failing }
      else none
  | .insert call frame rest =>
      if session.calls call = .immediate frame rest then
        some
          { session with
            sendPacketInfoMap :=
              insertSendPacketInfo session.sendPacketInfoMap frame
            calls :=
              Function.update session.calls call (.inserted frame rest) }
      else none
  | .encode call frame rest =>
      if session.calls call = .inserted frame rest then
        some
          { session with
            encodeLog := frame :: session.encodeLog
            calls := Function.update session.calls call (.encoded frame rest) }
      else none
  | .coreSendPacket call frame rest true =>
      if session.calls call = .encoded frame rest ∧
          session.nowInReleaseThread = false then
        some
          { session with
            calls := Function.update session.calls call (sendNext rest) }
      else none
  | .coreSendPacket call frame rest false =>
      if session.calls call = .encoded frame rest then
        some
          { session with
            sendPacketInfoMap :=
              if frame.isReplyType then session.sendPacketInfoMap
              else session.sendPacketInfoMap.erase frame.packetSequence
            calls := Function.update session.calls call .failing }
      else none
  | .ackErase call packetSequence =>
      if session.calls call = .idle ∧
          ¬ session.lastSendPacketSequence < packetSequence ∧
          packetSequence ∈ session.sendPacketInfoMap then
        some
          { session with
            sendPacketInfoMap := session.sendPacketInfoMap.erase packetSequence
            calls :=
              Function.update session.calls call (.acked packetSequence) }
      else none
  | .ackUpdate call packetSequence =>
      if session.calls call = .acked packetSequence then
        some
          { session with
            flowController :=
              session.flowController.onAckReceived packetSequence
            calls := Function.update session.calls call .ackReceived }
      else none
  | .flush call =>
      if session.calls call = .ackReceived then
        some
          { session with
            pendingPacketQueue :=
              session.pendingPacketQueue.dropWhile (sendable session)
            calls :=
              Function.update session.calls call
                (sendNext
                  (session.pendingPacketQueue.takeWhile (sendable session))) }
      else none
  | .timeout =>
      some { session with flowController := session.flowController.onTimeout }
  | .failDisconnect call =>
      if session.calls call = .failing then
        some
          (doDisconnect
            { session with calls := Function.update session.calls call .idle })
      else none
  | .disconnect => some (doDisconnect session)

/-- A session on which `TryConnect` has just succeeded. -/
def connectedSession : Session where
  state := .connected
  nowInReleaseThread := false
  lastSendPacketSequence := 0
  flowController := .reset
  pendingPacketQueue := []
  sendPacketInfoMap := []
  encodeLog := []
  calls _ := .idle

/-- The send flow from a fresh connection on. -/
def system (pendingQueueCapacity : Nat) : TransitionSystem Session Label where
  Initial session := session = connectedSession
  step := step pendingQueueCapacity

/-! ## What the claimed properties are about -/

/-- The client decodes SEND packets in one layout and all others in the other;
every packet is encoded in the layout of its type. -/
def LayoutsAgree (session : Session) : Prop :=
  ∀ frame ∈ session.encodeLog,
    frame.isCorePacket = (frame.packetType != .sendType)

/-- None of the calls is in progress. -/
def Quiescent (session : Session) : Prop :=
  ∀ call, session.calls call = .idle

/-- Pending packets wait for an acknowledgement that can still come. -/
def NotStranded (session : Session) : Prop :=
  Quiescent session →
  session.state = .connected →
  session.nowInReleaseThread = false →
  session.pendingPacketQueue ≠ [] →
  session.sendPacketInfoMap ≠ []

end SendFlow
end MultiSocketRudp
