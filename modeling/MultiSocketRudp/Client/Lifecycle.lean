import MultiSocketRudp.Client.SendPath
import MultiSocketRudp.Client.HoldingQueue
import MultiSocketRudp.Lib.TransitionSystem

/-!
# Starting and stopping a client

`Start` obtains a session, launches the receive, send and retransmission threads
and sends the CONNECT packet.  `Stop` ends the threads and empties the map of
unacknowledged packets and the pending queue.  The same object can be started
again.

A `Start` begins when the `Stop` before it has returned.  Putting a packet into
the send queue and releasing the semaphore is one step.
-/

namespace MultiSocketRudp

/-- The receive thread is not inside `OnSendReply`. -/
def SendPath.Receiver.isIdle {Payload : Type} :
    SendPath.Receiver Payload → Bool
  | .idle => true
  | .windowStored _ | .erased | .flushing _ | .flushRegistering _ _
  | .flushRegistered _ _ => false

namespace ClientLifecycle

open TransitionSystems SendPath ReceivePath HoldingQueue

/-- A payload, with the session in which it was sent. -/
structure Tagged (Payload : Type) where
  session : Nat
  content : Payload
  deriving DecidableEq, Repr

/-- What the client puts into `sendBufferQueue`. -/
inductive Packet (Payload : Type)
  | frame (frame : ClientFrame (Tagged Payload))
  | reply (packetSequence : PacketSequence) (packetType : PacketType)
  | disconnect (packetSequence : PacketSequence)
  deriving DecidableEq, Repr

/-- An encoded packet, with the session whose key it was encoded with. -/
structure SendBuffer (Payload : Type) where
  session : Nat
  packet : Packet Payload
  deriving DecidableEq, Repr

/-- Where the thread that called `Start` stands. -/
inductive Starter
  | outside
  /-- The threads are launched. -/
  | launched
  /-- The CONNECT packet is registered. -/
  | registered
  /-- The CONNECT packet is enqueued. -/
  | enqueued
  deriving DecidableEq, Repr

/-- Where the thread that called `Stop` stands. -/
inductive Stopper
  | outside
  /-- `JoinThreads`. -/
  | joining
  /-- It is about to empty `sendPacketInfoMap`. -/
  | joined
  /-- It is about to empty `pendingPacketQueue`. -/
  | cleared
  deriving DecidableEq, Repr

/-- Where the send thread stands. -/
inductive SendThread
  | ended
  /-- In `WaitForMultipleObjects`. -/
  | waiting
  /-- In `DoSend`; the last call follows the stop event. -/
  | sending (last : Bool)
  deriving DecidableEq, Repr

/-- Where the send thread goes from `DoSend`. -/
def SendThread.after (last : Bool) : SendThread :=
  if last then .ended else .waiting

/-- What has happened to a client since its construction. -/
inductive Event
  /-- A sequence was allocated. -/
  | allocated
  /-- A data or heartbeat packet was received. -/
  | held
  /-- A reply has set the remote window. -/
  | windowStored (window : Byte)
  /-- A packet was left in the send queue with no send thread to take it. -/
  | stranded
  deriving DecidableEq, Repr

/-- The protocol state of a client. -/
structure Protocol (Payload : Type) where
  lastSendPacketSequence : PacketSequence
  nextRecvPacketSequence : PacketSequence
  remoteAdvertisedWindow : Byte
  sendPacketInfoMap : List (SendPacketInfo (Tagged Payload))
  pendingPacketQueue : List (DataFrame (Tagged Payload))
  recvPacketHoldingQueue : List (RecvPacketInfo (Tagged Payload))
  sendBufferQueue : List (SendBuffer Payload)
  deriving DecidableEq, Repr

/-- The protocol state of a newly constructed client. -/
def Protocol.constructed {Payload : Type} : Protocol Payload :=
  ⟨0, 1, 1, [], [], [], []⟩

/-- `RUDPClientCore`. -/
structure ClientCore (Payload : Type) where
  client : Client (Tagged Payload)
  nextRecvPacketSequence : PacketSequence
  recvPacketHoldingQueue : List (RecvPacketInfo (Tagged Payload))
  sendBufferQueue : List (SendBuffer Payload)
  sessionId : SessionIdType
  isStopped : Bool
  /-- The socket is open. -/
  rudpSocket : Bool
  /-- The count of the semaphore, while the handles exist. -/
  sendEvents : Option Nat
  stopEvent : Bool
  starter : Starter
  stopper : Stopper
  sendThread : SendThread
  recvThread : Bool
  retransmissionThread : Bool
  /-- The reply that the receive thread is about to enqueue. -/
  replying : Option (PacketSequence × PacketType)
  /-- The number of sessions that `Start` has obtained. -/
  session : Nat
  /-- What has happened, latest first. -/
  history : List Event
  /-- The protocol states in which threads were launched. -/
  launches : List (Protocol Payload)
  /-- The first sequence that was allocated in a session. -/
  firstSequence : Nat → Option PacketSequence
  /-- For each delivered packet its session and the one at that time. -/
  delivered : List (Nat × Nat)
  /-- For each transmitted packet its session and the one at that time. -/
  transmitted : List (Nat × Nat)

/-- One step of one thread. -/
inductive Label (Payload : Type)
  /-- `Start` obtains a session and launches the threads. -/
  | start (sessionId : SessionIdType)
  /-- `Start` fails before that. -/
  | startFails
  /-- `SendConnectPacket` registers its packet. -/
  | connectRegister
  /-- It enqueues the packet. -/
  | connectEnqueue
  /-- `Start` returns. -/
  | startReturns
  /-- `Stop` closes the socket and tells the threads. -/
  | stop
  /-- `JoinThreads` has returned. -/
  | join
  /-- `Stop` empties `sendPacketInfoMap`. -/
  | clearMap
  /-- `Stop` empties `pendingPacketQueue` and returns. -/
  | clearPending
  /-- A step of the send path. -/
  | send (label : ClientLabel (Tagged Payload))
  /-- The receive thread holds a packet, to which it replies or not. -/
  | receive (info : RecvPacketInfo (Tagged Payload)) (replies : Bool)
  /-- It enqueues the reply. -/
  | reply
  | getReceivedPacket
  | disconnect
  /-- The semaphore wakes the send thread. -/
  | wake
  /-- The stop event wakes it. -/
  | wakeToStop
  /-- It takes the next packet in `DoSend`. -/
  | doSend
  | recvEnds
  | retransmissionEnds

variable {Payload : Type}

/-- A newly constructed client. -/
def constructed : ClientCore Payload where
  client :=
    { lastSendPacketSequence := 0
      sendPacketInfoMap := []
      pendingPacketQueue := []
      remoteAdvertisedWindow := 1
      isConnected := false
      threadStopFlag := false
      calls _ := .idle
      receiver := .idle
      retransmission := none
      sent := []
      dropped := [] }
  nextRecvPacketSequence := 1
  recvPacketHoldingQueue := []
  sendBufferQueue := []
  sessionId := 0
  isStopped := true
  rudpSocket := false
  sendEvents := none
  stopEvent := false
  starter := .outside
  stopper := .outside
  sendThread := .ended
  recvThread := false
  retransmissionThread := false
  replying := none
  session := 0
  history := []
  launches := []
  firstSequence _ := none
  delivered := []
  transmitted := []

namespace ClientCore

variable (core : ClientCore Payload)

/-- The protocol state. -/
def protocol : Protocol Payload where
  lastSendPacketSequence := core.client.lastSendPacketSequence
  nextRecvPacketSequence := core.nextRecvPacketSequence
  remoteAdvertisedWindow := core.client.remoteAdvertisedWindow
  sendPacketInfoMap := core.client.sendPacketInfoMap
  pendingPacketQueue := core.client.pendingPacketQueue
  recvPacketHoldingQueue := core.recvPacketHoldingQueue
  sendBufferQueue := core.sendBufferQueue

/-- Nothing of `Start` or `Stop` is under way. -/
def isAtRest : Bool :=
  core.isStopped && core.starter = .outside && core.stopper = .outside

/-- The session in which a packet was encoded; the CONNECT packet belongs to the
session that is being connected. -/
def sessionOf : ClientFrame (Tagged Payload) → Nat
  | .connect _ _ => core.session
  | .send frame => frame.payload.session

/-- `sendBufferQueue.Enqueue` and `ReleaseSemaphore`. -/
def enqueue (session : Nat) (packet : Packet Payload) : ClientCore Payload :=
  { core with
    sendBufferQueue := core.sendBufferQueue ++ [⟨session, packet⟩]
    sendEvents := core.sendEvents.map (· + 1)
    history :=
      if core.sendThread = .ended then .stranded :: core.history
      else core.history }

/-- Packets of the send path are enqueued. -/
def enqueueAll
    (frames : List (ClientFrame (Tagged Payload))) : ClientCore Payload :=
  frames.foldl (fun core frame => core.enqueue (core.sessionOf frame)
    (.frame frame)) core

/-- A sequence is allocated. -/
def noteSequence (packetSequence : PacketSequence) : ClientCore Payload :=
  { core with
    history := .allocated :: core.history
    firstSequence :=
      Function.update core.firstSequence core.session
        (some ((core.firstSequence core.session).getD packetSequence)) }

/-- What a step of the send path adds to the records. -/
def note : ClientLabel (Tagged Payload) → ClientCore Payload
  | .allocate _ _ =>
      core.noteSequence (core.client.lastSendPacketSequence + 1)
  | .onSendReply reply =>
      if core.client.lastSendPacketSequence < reply.packetSequence then core
      else
        { core with
          history := .windowStored reply.advertiseWindow :: core.history }
  | _ => core

/-- The thread of a step of the send path is there to take it. -/
def mayTake : ClientLabel (Tagged Payload) → Bool
  | .allocate _ payload => payload.session = core.session
  | .onSendReply _ => core.recvThread && core.replying.isNone
  | .retransmitCount _ => core.retransmissionThread
  | _ => true

/-- A step of the send path. -/
def sendStep
    [DecidableEq Payload]
    (maxPacketRetransmissionCount : Nat)
    (label : ClientLabel (Tagged Payload)) : Option (ClientCore Payload) :=
  if core.mayTake label then
    (clientStep maxPacketRetransmissionCount core.client label).map
      fun (client, frames) =>
        { core.note label with client }.enqueueAll frames
  else none

/-- `ProcessRecvPacket` holds a packet. -/
def receive
    (info : RecvPacketInfo (Tagged Payload)) (replies : Bool) :
    Option (ClientCore Payload) :=
  if core.recvThread = true ∧ core.client.receiver.isIdle = true ∧
      core.replying = none ∧ info.buffer.session = core.session then
    some
      { core with
        recvPacketHoldingQueue := emplace info core.recvPacketHoldingQueue
        replying :=
          if replies then
            some (info.packetSequence,
              if info.packetType = .heartbeatType then .heartbeatReplyType
              else .sendReplyType)
          else none
        history := .held :: core.history }
  else none

/-- `SendReplyToServer`. -/
def reply : Option (ClientCore Payload) :=
  core.replying.map fun (packetSequence, packetType) =>
    { core with replying := none }.enqueue core.session
      (.reply packetSequence packetType)

/-- `GetReceivedPacket`. -/
def getReceivedPacket : ClientCore Payload :=
  let result := HoldingQueue.getReceivedPacket core.recvPacketHoldingQueue
    core.nextRecvPacketSequence
  { core with
    recvPacketHoldingQueue := result.2.1
    nextRecvPacketSequence := result.2.2
    delivered :=
      match result.1 with
      | some info => (info.buffer.session, core.session) :: core.delivered
      | none => core.delivered }

/-- `Disconnect`. -/
def disconnect : Option (ClientCore Payload) :=
  if core.isStopped = false then
    let packetSequence := core.client.lastSendPacketSequence + 1
    let allocated :=
      { core.noteSequence packetSequence with
        client :=
          { core.client with
            lastSendPacketSequence := packetSequence
            isConnected := false } }
    some
      (if core.sendEvents.isSome then
        allocated.enqueue core.session (.disconnect packetSequence)
      else allocated)
  else none

/-- One round of the loop in `DoSend`. -/
def doSend : Option (ClientCore Payload) :=
  match core.sendThread, core.sendBufferQueue with
  | .sending last, [] =>
      some { core with sendThread := .after last }
  | .sending last, packet :: rest =>
      some
        (if core.rudpSocket then
          { core with
            sendBufferQueue := rest
            transmitted := (packet.session, core.session) :: core.transmitted }
        else
          { core with
            sendBufferQueue := rest
            sendThread := .after last
            history :=
              if last ∧ rest ≠ [] then .stranded :: core.history
              else core.history })
  | .ended, _ | .waiting, _ => none

/-- The threads are launched in a new session. -/
def start (sessionId : SessionIdType) : ClientCore Payload :=
  { core with
    client :=
      { core.client with threadStopFlag := false, isConnected := false }
    sessionId
    rudpSocket := true
    sendEvents := some 0
    stopEvent := false
    starter := .launched
    sendThread := .waiting
    recvThread := true
    retransmissionThread := true
    session := core.session + 1
    launches := core.protocol :: core.launches }

/-- The first part of `Stop`. -/
def stop : ClientCore Payload :=
  { core with
    client := { core.client with threadStopFlag := true }
    isStopped := true
    rudpSocket := false
    stopEvent := true
    stopper := .joining }

end ClientCore

open ClientCore

/-- The effect of a step. -/
def step
    [DecidableEq Payload]
    (maxPacketRetransmissionCount : Nat)
    (core : ClientCore Payload) : Label Payload → Option (ClientCore Payload)
  | .start sessionId =>
      if core.isAtRest then some (core.start sessionId) else none
  | .startFails =>
      if core.isAtRest then
        some
          { core with
            client :=
              { core.client with
                threadStopFlag := false, isConnected := false } }
      else none
  | .connectRegister =>
      if core.starter = .launched then
        some
          { core with
            client :=
              { core.client with
                sendPacketInfoMap :=
                  insertSendPacketInfo core.client.sendPacketInfoMap
                    (.connect loginPacketSequence core.sessionId) }
            starter := .registered }
      else none
  | .connectEnqueue =>
      if core.starter = .registered then
        some
          ({ core with starter := .enqueued }.enqueue core.session
            (.frame (.connect loginPacketSequence core.sessionId)))
      else none
  | .startReturns =>
      if core.starter = .launched ∨ core.starter = .enqueued then
        some { core with starter := .outside, isStopped := false }
      else none
  | .stop =>
      if core.isStopped = false then some core.stop else none
  | .join =>
      if core.stopper = .joining ∧ core.retransmissionThread = false ∧
          core.sendThread = .ended ∧ core.recvThread = false then
        some { core with stopper := .joined, sendEvents := none }
      else none
  | .clearMap =>
      if core.stopper = .joined then
        some
          { core with
            client := { core.client with sendPacketInfoMap := [] }
            stopper := .cleared }
      else none
  | .clearPending =>
      if core.stopper = .cleared ∧
          core.client.receiver.holdsPendingLock = false then
        some
          { core with
            client := { core.client with pendingPacketQueue := [] }
            stopper := .outside }
      else none
  | .send label => core.sendStep maxPacketRetransmissionCount label
  | .receive info replies => core.receive info replies
  | .reply => core.reply
  | .getReceivedPacket => some core.getReceivedPacket
  | .disconnect => core.disconnect
  | .wake =>
      match core.sendThread, core.sendEvents with
      | .waiting, some (count + 1) =>
          some { core with sendThread := .sending false, sendEvents := some count }
      | _, _ => none
  | .wakeToStop =>
      if core.sendThread = .waiting ∧ core.sendEvents = some 0 ∧
          core.stopEvent = true then
        some { core with sendThread := .sending true }
      else none
  | .doSend => core.doSend
  | .recvEnds =>
      if core.recvThread = true ∧ core.client.threadStopFlag = true ∧
          core.client.receiver.isIdle = true ∧ core.replying = none then
        some { core with recvThread := false }
      else none
  | .retransmissionEnds =>
      if core.retransmissionThread = true ∧
          core.client.threadStopFlag = true ∧
          core.client.retransmission.isNone = true then
        some { core with retransmissionThread := false }
      else none

/-- A client from its construction on. -/
def system
    [DecidableEq Payload]
    (maxPacketRetransmissionCount : Nat) :
    TransitionSystem (ClientCore Payload) (Label Payload) where
  Initial core := core = constructed
  step := step maxPacketRetransmissionCount

/-- Whenever threads were launched the protocol state was that of a new client;
every session begins with sequence 1, and no packet of another session was
delivered or transmitted. -/
structure RestartsFresh (core : ClientCore Payload) : Prop where
  launches : ∀ launch ∈ core.launches, launch = .constructed
  first : ∀ session packetSequence,
    core.firstSequence session = some packetSequence → packetSequence = 1
  delivered : ∀ entry ∈ core.delivered, entry.1 = entry.2
  transmitted : ∀ entry ∈ core.transmitted, entry.1 = entry.2

/-! ## The condition -/

/-- The remote window after what has happened. -/
def lastWindow : List Event → Byte
  | [] => 1
  | .windowStored window :: _ => window
  | .allocated :: history | .held :: history | .stranded :: history =>
      lastWindow history

/-- No sequence was allocated, no packet was received or left behind in the send
queue, and the last reply has left the remote window at 1. -/
def Unused (history : List Event) : Prop :=
  .allocated ∉ history ∧ .held ∉ history ∧ .stranded ∉ history ∧
    lastWindow history = 1

instance (history : List Event) : Decidable (Unused history) :=
  inferInstanceAs (Decidable (_ ∧ _))

/-- The step launches the threads. -/
def Label.isStart : Label Payload → Bool
  | .start _ => true
  | .startFails | .connectRegister | .connectEnqueue | .startReturns | .stop
  | .join | .clearMap | .clearPending | .send _ | .receive _ _ | .reply
  | .getReceivedPacket | .disconnect | .wake | .wakeToStop | .doSend
  | .recvEnds | .retransmissionEnds => false

/-- A client is started only when it has not been used since its
construction. -/
def StartsUnused (core : ClientCore Payload) (label : Label Payload) : Prop :=
  label.isStart = true → Unused core.history

instance (core : ClientCore Payload) (label : Label Payload) :
    Decidable (StartsUnused core label) :=
  inferInstanceAs (Decidable (_ → _))

end ClientLifecycle
end MultiSocketRudp
