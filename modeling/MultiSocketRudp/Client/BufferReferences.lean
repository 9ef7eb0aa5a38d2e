import MultiSocketRudp.Client.HoldingQueue
import MultiSocketRudp.Lib.ReferenceCounting
import MultiSocketRudp.Lib.TransitionSystem

/-!
# Who refers to the buffers of a client

A `NetBuffer` is handed from the thread that allocates it to a queue, to another
thread or to the application, and whoever holds it frees it.  A `SendPacketInfo`
keeps its own reference to the buffer of its packet, and is itself referred to by
`sendPacketInfoMap` and by the list of the retransmission thread.

The calls of `SendPacket`, the three threads, `GetReceivedPacket` and `Stop`
advance by their loads, their stores and their lock sections.  What the network
delivers, which packets are due and whether a `SendPacketInfo` can be allocated is
left open.
-/

namespace MultiSocketRudp
namespace BufferReferences

open TransitionSystems ReferenceCounting HoldingQueue

/-- Tells the buffers apart. -/
abbrev BufferId := Nat

/-- Tells the objects of `SendPacketInfo` apart. -/
abbrev InfoId := Nat

/-- `SendPacketInfo`, but for its reference count. -/
structure SendPacketInfo where
  buffer : BufferId := 0
  sendPacketSequence : PacketSequence := 0
  retransmissionCount : Nat := 0
  deriving DecidableEq

/-! ## Threads -/

/-- Where a call of `SendPacket` stands. -/
inductive CallPhase
  /-- The packet has been encoded; it is about to load the window. -/
  | allocated
  | windowLoaded (window : Byte)
  /-- The packet has to wait. -/
  | toPending
  /-- `RegisterSendPacketInfo` has been called. -/
  | registering
  /-- The packet is about to be put into `sendBufferQueue`. -/
  | registered
  /-- `ReleaseSemaphore`. -/
  | signalling
  deriving DecidableEq

/-- A running call of `SendPacket`. -/
structure Call where
  buffer : BufferId
  packetSequence : PacketSequence
  phase : CallPhase
  deriving DecidableEq

/-- The buffer that the call refers to. -/
def Call.held (call : Call) : Option BufferId :=
  match call.phase with
  | .signalling => none
  | .allocated | .windowLoaded _ | .toPending | .registering | .registered =>
      some call.buffer

/-- Where the thread that has called `Start` stands, after `RunThreads`. -/
inductive Starter
  | launched
  /-- Inside `SendConnectPacket`. -/
  | connecting (buffer : BufferId)
  | returned
  deriving DecidableEq

/-- What is done with a received packet. -/
inductive PacketPhase
  /-- Its header has been read. -/
  | processing
  /-- It has been decoded, and `AddRefCount` called. -/
  | emplacing (packetSequence : PacketSequence) (packetType : PacketType)
  /-- It is in `recvPacketHoldingQueue`. -/
  | emplaced
  /-- `SendReplyToServer` has made a reply. -/
  | replying (reply : BufferId)
  | signalling
  /-- `OnSendReply` has stored the window. -/
  | erasing (packetSequence : PacketSequence)
  /-- `TryFlushPendingQueue` is called. -/
  | erased
  /-- It holds `pendingPacketQueueLock`. -/
  | flushing (window : Byte)
  | flushRegistering (window : Byte) (entry : PacketSequence × BufferId)
  | flushRegistered (window : Byte) (buffer : BufferId)
  | flushSignalling (window : Byte)
  /-- It is about to be freed. -/
  | done
  deriving DecidableEq

/-- The buffers that this refers to, apart from the packet itself. -/
def PacketPhase.held (recvPacketBuffer : BufferId) :
    PacketPhase → List BufferId
  | .emplacing _ _ => [recvPacketBuffer]
  | .replying reply => [reply]
  | .flushRegistering _ entry => [entry.2]
  | .flushRegistered _ buffer => [buffer]
  | .processing | .emplaced | .signalling | .erasing _ | .erased | .flushing _
  | .flushSignalling _ | .done => []

/-- The receive thread holds `pendingPacketQueueLock`. -/
def PacketPhase.holdsPendingLock : PacketPhase → Bool
  | .flushing _ | .flushRegistering _ _ | .flushRegistered _ _
  | .flushSignalling _ => true
  | .processing | .emplacing _ _ | .emplaced | .replying _ | .signalling
  | .erasing _ | .erased | .done => false

/-- Where the receive thread stands. -/
inductive Receiver
  | starting
  /-- In `recvfrom`, or at the condition of its loop. -/
  | receiving (buffer : BufferId)
  /-- In the loop of `OnRecvStream`. -/
  | stream (buffer : BufferId)
  | packet (buffer recvPacketBuffer : BufferId) (phase : PacketPhase)
  | ended
  deriving DecidableEq

def Receiver.held : Receiver → List BufferId
  | .starting | .ended => []
  | .receiving buffer | .stream buffer => [buffer]
  | .packet buffer recvPacketBuffer phase =>
      buffer :: recvPacketBuffer :: phase.held recvPacketBuffer

def Receiver.holdsPendingLock : Receiver → Bool
  | .packet _ _ phase => phase.holdsPendingLock
  | .starting | .receiving _ | .stream _ | .ended => false

/-- Where the send thread stands. -/
inductive Sender
  /-- In `WaitForMultipleObjects`. -/
  | waiting
  /-- In `DoSend`; the last call follows the stop event. -/
  | sending (last : Bool)
  | dequeued (packet : BufferId) (last : Bool)
  | ended
  deriving DecidableEq

def Sender.held : Sender → List BufferId
  | .dequeued packet _ => [packet]
  | .waiting | .sending _ | .ended => []

/-- Where the send thread goes from `DoSend`. -/
def Sender.after (last : Bool) : Sender := if last then .ended else .waiting

/-- Where the retransmission thread stands. -/
inductive Retransmission
  | looping
  /-- It is about to collect what is due. -/
  | collecting
  /-- In the loop over `retransmitTargets`. -/
  | processing
  /-- It is about to test `threadStopFlag`. -/
  | checking (info : InfoId)
  /-- It is about to look for the packet in the map. -/
  | finding (info : InfoId)
  /-- The packet has been retransmitted too often. -/
  | exceeded (info : InfoId)
  /-- `SendPacket` is called. -/
  | resending (info : InfoId)
  | enqueueing (info : InfoId) (buffer : BufferId)
  | signalling (info : InfoId)
  | freeing (info : InfoId)
  | ended
  deriving DecidableEq

def Retransmission.held : Retransmission → List BufferId
  | .enqueueing _ buffer => [buffer]
  | .looping | .collecting | .processing | .checking _ | .finding _ | .exceeded _
  | .resending _ | .signalling _ | .freeing _ | .ended => []

/-- The element of `retransmitTargets` that is being processed. -/
def Retransmission.info : Retransmission → List InfoId
  | .checking info | .finding info | .exceeded info | .resending info
  | .enqueueing info _ | .signalling info | .freeing info => [info]
  | .looping | .collecting | .processing | .ended => []

/-- Where `Stop` stands. -/
inductive Stopper
  | running
  /-- `threadStopFlag` is set. -/
  | signalling
  /-- The stop event is set. -/
  | closing
  /-- The socket is closed; in `JoinThreads`. -/
  | joining
  /-- It is about to empty `sendPacketInfoMap`. -/
  | joined
  /-- It is about to empty `pendingPacketQueue`. -/
  | cleared
  | returned
  deriving DecidableEq

/-! ## The client -/

/-- `RUDPClientCore`, from `RunThreads` on. -/
structure State where
  buffers : Pool BufferId := .empty
  buffersMade : Nat := 0
  infoPool : Pool InfoId := .empty
  infosMade : Nat := 0
  infos : InfoId → SendPacketInfo := fun _ => {}
  /-- What `sendPacketInfoPool` has handed out. -/
  liveInfos : List InfoId := []
  lastSendPacketSequence : PacketSequence := 0
  nextRecvPacketSequence : PacketSequence := 1
  remoteAdvertisedWindow : Byte := 1
  sendPacketInfoMap : List (PacketSequence × InfoId) := []
  /-- In no particular order. -/
  pendingPacketQueue : List (PacketSequence × BufferId) := []
  sendBufferQueue : List BufferId := []
  recvPacketHoldingQueue : List (RecvPacketInfo BufferId) := []
  /-- The buffers that the application has received and not freed. -/
  application : List BufferId := []
  calls : List Call := []
  /-- A call of `GetReceivedPacket` holds `recvPacketHoldingQueueLock`. -/
  polling : Bool := false
  receiver : Receiver := .starting
  sender : Sender := .waiting
  retransmission : Retransmission := .looping
  retransmitTargets : List InfoId := []
  threadStopFlag : Bool := false
  /-- The count of the semaphore. -/
  sendEvents : Nat := 0
  stopEvent : Bool := false
  socketOpen : Bool := true
  starter : Starter := .launched
  stopper : Stopper := .running

namespace State

variable (state : State)

/-- The references to a buffer. -/
def bufferReferences (buffer : BufferId) : Nat :=
  (state.liveInfos.map fun info => (state.infos info).buffer).count buffer +
    (state.pendingPacketQueue.map Prod.snd).count buffer +
    state.sendBufferQueue.count buffer +
    (state.recvPacketHoldingQueue.map RecvPacketInfo.buffer).count buffer +
    state.application.count buffer +
    (state.calls.filterMap Call.held).count buffer +
    state.receiver.held.count buffer + state.sender.held.count buffer +
    state.retransmission.held.count buffer

/-- The references to a `SendPacketInfo`. -/
def infoReferences (info : InfoId) : Nat :=
  (state.sendPacketInfoMap.map Prod.snd).count info +
    state.retransmission.info.count info + state.retransmitTargets.count info

/-- The entry of the map with that key. -/
def registered (packetSequence : PacketSequence) :
    Option (PacketSequence × InfoId) :=
  state.sendPacketInfoMap.find? fun entry => entry.1 = packetSequence

/-- `static_cast<BYTE>(sendPacketInfoMap.size())`. -/
def outstanding : Byte := BitVec.ofNat 8 state.sendPacketInfoMap.length

/-- `NetBuffer::Alloc`. -/
def allocBuffer : State :=
  { state with
    buffers := state.buffers.make state.buffersMade
    buffersMade := state.buffersMade + 1 }

/-- `NetBuffer::Free`. -/
def freeBuffer (buffer : BufferId) : State :=
  { state with buffers := state.buffers.free buffer }

/-- `SendPacketInfo::Free`. -/
def freeInfo (info : InfoId) : State :=
  if state.infoPool.refCount info = 1 then
    { state with
      infoPool := state.infoPool.free info
      liveInfos := state.liveInfos.erase info
      buffers := state.buffers.free (state.infos info).buffer }
  else { state with infoPool := state.infoPool.free info }

/-- `SendPacketInfo::Initialize` and `sendPacketInfoMap.insert`, which leaves a
present key alone.  Nobody else knows the new object in between. -/
def registerSendPacketInfo
    (buffer : BufferId) (packetSequence : PacketSequence) : State :=
  { state with
    buffers := state.buffers.add buffer
    infoPool := state.infoPool.make state.infosMade
    infosMade := state.infosMade + 1
    infos :=
      Function.update state.infos state.infosMade
        { buffer, sendPacketSequence := packetSequence }
    liveInfos := state.infosMade :: state.liveInfos
    sendPacketInfoMap :=
      if (state.registered packetSequence).isSome then state.sendPacketInfoMap
      else (packetSequence, state.infosMade) :: state.sendPacketInfoMap }

/-- The section of `OnSendReply` under `sendPacketInfoMapLock`. -/
def eraseAcked (packetSequence : PacketSequence) : State :=
  match state.registered packetSequence with
  | none => state
  | some entry =>
      { state with
        sendPacketInfoMap := state.sendPacketInfoMap.erase entry }.freeInfo
        entry.2

/-- A call of `SendPacket` moves on. -/
def setCall (call : Call) (phase : CallPhase) : State :=
  { state with calls := { call with phase } :: state.calls.erase call }

/-- It returns. -/
def endCall (call : Call) : State :=
  { state with calls := state.calls.erase call }

end State

/-! ## Steps -/

/-- `SendPacket` is called: of a packet of the application, or, as a core packet,
which does not wait for the window, by `SendConnectPacket`. -/
def begin (state : State) (packetSequence : PacketSequence) (phase : CallPhase) :
    State :=
  { state.allocBuffer with
    calls := ⟨state.buffersMade, packetSequence, phase⟩ :: state.calls }

/-- The next step of a call of `SendPacket`. -/
def callStep (state : State) (call : Call) : Option State :=
  match call.phase with
  | .allocated =>
      some (state.setCall call
        (if state.remoteAdvertisedWindow = 0 then .toPending
          else .windowLoaded state.remoteAdvertisedWindow))
  | .windowLoaded window =>
      some (state.setCall call
        (if window ≤ state.outstanding then .toPending else .registering))
  | .toPending =>
      if state.receiver.holdsPendingLock = false then
        some { state.endCall call with
          pendingPacketQueue :=
            (call.packetSequence, call.buffer) :: state.pendingPacketQueue }
      else none
  | .registering =>
      some ((state.registerSendPacketInfo call.buffer
        call.packetSequence).setCall call .registered)
  | .registered =>
      some { state.setCall call .signalling with
        sendBufferQueue := state.sendBufferQueue ++ [call.buffer] }
  | .signalling =>
      some { state.endCall call with sendEvents := state.sendEvents + 1 }

/-- A round of the loop of `GetReceivedPacket`. -/
def round (state : State) : State :=
  match state.recvPacketHoldingQueue with
  | [] => { state with polling := false }
  | top :: rest =>
      if top.packetSequence < state.nextRecvPacketSequence then
        { state with recvPacketHoldingQueue := rest }.freeBuffer top.buffer
      else if top.packetSequence ≠ state.nextRecvPacketSequence then
        { state with polling := false }
      else if top.packetType = .heartbeatType then
        { state with
          nextRecvPacketSequence := state.nextRecvPacketSequence + 1
          recvPacketHoldingQueue := rest }.freeBuffer top.buffer
      else
        { state with
          nextRecvPacketSequence := state.nextRecvPacketSequence + 1
          recvPacketHoldingQueue := rest
          application := top.buffer :: state.application
          polling := false }

/-- What the steps of the receive thread leave open. -/
inductive Choice
  | next
  /-- `recvfrom` returns a datagram. -/
  | datagram
  /-- The datagram has another packet. -/
  | another
  /-- The length of the packet is invalid. -/
  | invalidLength
  /-- The type of the packet is invalid, or it cannot be decoded. -/
  | undecodable
  /-- A data or heartbeat packet. -/
  | received (packetSequence : PacketSequence) (packetType : PacketType)
  /-- `ShouldSendReplyToServer` is false. -/
  | silent
  | replied (packetSequence : PacketSequence) (remoteWindow : Byte)
  /-- The pending packet with the least sequence. -/
  | pop (entry : PacketSequence × BufferId)
  /-- `sendPacketInfoPool` has no object. -/
  | poolIsEmpty
  deriving DecidableEq

/-- The receive thread processes a packet. -/
def packetStep
    (state : State) (buffer recvPacketBuffer : BufferId)
    (phase : PacketPhase) :
    Choice → Option State :=
  let goOn (state : State) (phase : PacketPhase) : State :=
    { state with receiver := .packet buffer recvPacketBuffer phase }
  match phase with
  | .processing => fun
      | .invalidLength =>
          some ({ state with receiver := .receiving buffer }.freeBuffer
            recvPacketBuffer)
      | .undecodable => some (goOn state .done)
      | .received packetSequence packetType =>
          if packetType = .sendType ∨ packetType = .heartbeatType then
            some (goOn { state with buffers := state.buffers.add recvPacketBuffer }
              (.emplacing packetSequence packetType))
          else none
      | .replied packetSequence remoteWindow =>
          if state.lastSendPacketSequence < packetSequence then
            some (goOn state .done)
          else
            some (goOn { state with remoteAdvertisedWindow := remoteWindow }
              (.erasing packetSequence))
      | _ => none
  | .emplacing packetSequence packetType => fun
      | .next =>
          if state.polling = false then
            some (goOn { state with
              recvPacketHoldingQueue :=
                emplace ⟨recvPacketBuffer, packetSequence, packetType⟩
                  state.recvPacketHoldingQueue } .emplaced)
          else none
      | _ => none
  | .emplaced => fun
      | .next => some (goOn state.allocBuffer (.replying state.buffersMade))
      | .silent => some (goOn state .done)
      | _ => none
  | .replying reply => fun
      | .next =>
          some (goOn { state with
            sendBufferQueue := state.sendBufferQueue ++ [reply] } .signalling)
      | _ => none
  | .signalling => fun
      | .next =>
          some (goOn { state with sendEvents := state.sendEvents + 1 } .done)
      | _ => none
  | .erasing packetSequence => fun
      | .next => some (goOn (state.eraseAcked packetSequence) .erased)
      | _ => none
  | .erased => fun
      | .next =>
          some (goOn state
            (if state.remoteAdvertisedWindow = 0 then .done
              else .flushing state.remoteAdvertisedWindow))
      | _ => none
  | .flushing window => fun
      | .next =>
          if state.pendingPacketQueue = [] ∨ window ≤ state.outstanding then
            some (goOn state .done)
          else none
      | .pop entry =>
          if ¬ window ≤ state.outstanding ∧ entry ∈ state.pendingPacketQueue ∧
              ∀ other ∈ state.pendingPacketQueue, entry.1 ≤ other.1 then
            some (goOn { state with
              pendingPacketQueue := state.pendingPacketQueue.erase entry }
              (.flushRegistering window entry))
          else none
      | _ => none
  | .flushRegistering window entry => fun
      | .next =>
          some (goOn (state.registerSendPacketInfo entry.2 entry.1)
            (.flushRegistered window entry.2))
      | .poolIsEmpty =>
          some (goOn (state.freeBuffer entry.2) (.flushing window))
      | _ => none
  | .flushRegistered window buffer => fun
      | .next =>
          some (goOn { state with
            sendBufferQueue := state.sendBufferQueue ++ [buffer] }
            (.flushSignalling window))
      | _ => none
  | .flushSignalling window => fun
      | .next =>
          some (goOn { state with sendEvents := state.sendEvents + 1 }
            (.flushing window))
      | _ => none
  | .done => fun
      | .next =>
          some ({ state with receiver := .stream buffer }.freeBuffer
            recvPacketBuffer)
      | _ => none

/-- The next step of the receive thread. -/
def receiverStep (state : State) (choice : Choice) : Option State :=
  match state.receiver, choice with
  | .starting, .next =>
      some { state.allocBuffer with receiver := .receiving state.buffersMade }
  | .receiving buffer, .next =>
      if state.threadStopFlag = true then
        some ({ state with receiver := .ended }.freeBuffer buffer)
      else none
  | .receiving buffer, .datagram =>
      if state.socketOpen = true then
        some { state with receiver := .stream buffer }
      else none
  | .stream buffer, .next => some { state with receiver := .receiving buffer }
  | .stream buffer, .another =>
      some { state.allocBuffer with
        receiver := .packet buffer state.buffersMade .processing }
  | .packet buffer recvPacketBuffer phase, choice =>
      packetStep state buffer recvPacketBuffer phase choice
  | _, _ => none

/-- The next step of the send thread. -/
def senderStep (state : State) : Option State :=
  match state.sender with
  | .waiting =>
      match state.sendEvents with
      | count + 1 =>
          some { state with sender := .sending false, sendEvents := count }
      | 0 =>
          if state.stopEvent = true then
            some { state with sender := .sending true }
          else none
  | .sending last =>
      match state.sendBufferQueue with
      | [] => some { state with sender := .after last }
      | packet :: rest =>
          some { state with
            sender := .dequeued packet last
            sendBufferQueue := rest }
  | .dequeued packet last =>
      some ({ state with
        sender := if state.socketOpen then .sending last else .after last
        }.freeBuffer packet)
  | .ended => none

/-- The next step of the retransmission thread, with the packets that are due when
it collects them. -/
def retransmissionStep
    (maxPacketRetransmissionCount : Nat) (state : State) (due : List InfoId) :
    Option State :=
  match state.retransmission with
  | .looping =>
      some { state with
        retransmission := if state.threadStopFlag then .ended else .collecting }
  | .collecting =>
      if due.Sublist (state.sendPacketInfoMap.map Prod.snd) then
        some { state with
          infoPool := state.infoPool.addAll due
          retransmission := .processing
          retransmitTargets := due }
      else none
  | .processing =>
      match state.retransmitTargets with
      | [] => some { state with retransmission := .looping }
      | info :: rest =>
          some { state with
            retransmission := .checking info
            retransmitTargets := rest }
  | .checking info =>
      some { state with
        retransmission :=
          if state.threadStopFlag then .freeing info else .finding info }
  | .finding info =>
      let found := state.infos info
      match state.registered found.sendPacketSequence with
      | none => some { state with retransmission := .freeing info }
      | some _ =>
          let retransmissionCount := found.retransmissionCount + 1
          some { state with
            infos :=
              Function.update state.infos info { found with retransmissionCount }
            retransmission :=
              if maxPacketRetransmissionCount ≤ retransmissionCount then
                .exceeded info
              else .resending info }
  | .exceeded info =>
      some { state with threadStopFlag := true, retransmission := .freeing info }
  | .resending info =>
      some { state with
        buffers := state.buffers.add (state.infos info).buffer
        retransmission := .enqueueing info (state.infos info).buffer }
  | .enqueueing info buffer =>
      some { state with
        sendBufferQueue := state.sendBufferQueue ++ [buffer]
        retransmission := .signalling info }
  | .signalling info =>
      some { state with
        sendEvents := state.sendEvents + 1
        retransmission := .freeing info }
  | .freeing info =>
      some ({ state with retransmission := .processing }.freeInfo info)
  | .ended => none

/-- The next step of `Stop`. -/
def stopStep (state : State) : Option State :=
  match state.stopper with
  | .running =>
      if state.starter = .returned then
        some { state with threadStopFlag := true, stopper := .signalling }
      else none
  | .signalling => some { state with stopEvent := true, stopper := .closing }
  | .closing => some { state with socketOpen := false, stopper := .joining }
  | .joining =>
      if state.retransmission = .ended ∧ state.sender = .ended ∧
          state.receiver = .ended then
        some { state with stopper := .joined }
      else none
  | .joined =>
      some { (state.sendPacketInfoMap.map Prod.snd).foldl State.freeInfo state with
        sendPacketInfoMap := []
        stopper := .cleared }
  | .cleared =>
      some { state with
        buffers := state.buffers.freeAll (state.pendingPacketQueue.map Prod.snd)
        pendingPacketQueue := []
        stopper := .returned }
  | .returned => none

/-- An atomic step. -/
inductive Label
  /-- `SendConnectPacket` is called. -/
  | connect
  /-- `Start` returns. -/
  | startReturns
  /-- The application calls `SendPacket`. -/
  | sendPacket
  | call (call : Call)
  /-- `sendPacketInfoPool` has no object for the call. -/
  | callFails (call : Call)
  /-- The application calls `GetReceivedPacket`. -/
  | getReceivedPacket
  | round
  /-- The application frees a buffer that it has received. -/
  | applicationFrees (buffer : BufferId)
  | receive (choice : Choice)
  | send
  | retransmit (due : List InfoId)
  | stop
  deriving DecidableEq

/-- The step of a label. -/
def step (maxPacketRetransmissionCount : Nat) (state : State) :
    Label → Option State
  | .connect =>
      if state.starter = .launched then
        some { begin state 0 .registering with
          starter := .connecting state.buffersMade }
      else none
  | .startReturns =>
      match state.starter with
      | .launched => some { state with starter := .returned }
      | .connecting buffer =>
          if ∀ call ∈ state.calls, call.buffer ≠ buffer then
            some { state with starter := .returned }
          else none
      | .returned => none
  | .sendPacket =>
      let packetSequence := state.lastSendPacketSequence + 1
      some { begin state packetSequence .allocated with
        lastSendPacketSequence := packetSequence }
  | .call call => if call ∈ state.calls then callStep state call else none
  | .callFails call =>
      if call ∈ state.calls ∧ call.phase = .registering then
        some ((state.endCall call).freeBuffer call.buffer)
      else none
  | .getReceivedPacket =>
      if state.polling = false then some { state with polling := true } else none
  | .round => if state.polling = true then some (round state) else none
  | .applicationFrees buffer =>
      if buffer ∈ state.application then
        some ({ state with
          application := state.application.erase buffer }.freeBuffer buffer)
      else none
  | .receive choice => receiverStep state choice
  | .send => senderStep state
  | .retransmit due => retransmissionStep maxPacketRetransmissionCount state due
  | .stop => stopStep state

/-- A client whose threads have just been launched. -/
def system (maxPacketRetransmissionCount : Nat) :
    TransitionSystem State Label where
  Initial state := state = {}
  step := step maxPacketRetransmissionCount

/-! ## Conservation -/

/-- All counts are exact, nothing that is referred to has been returned, and after
`Stop` only the application refers to buffers. -/
structure ReferencesConserved (state : State) : Prop where
  buffers : Conserved state.buffers state.bufferReferences
  infos : Conserved state.infoPool state.infoReferences
  /-- The live objects are those that are referred to. -/
  live : ∀ info, state.liveInfos.count info =
    if state.infoReferences info = 0 then 0 else 1
  stopped : state.stopper = .returned →
    (∀ buffer,
      state.bufferReferences buffer = state.application.count buffer) ∧
    ∀ info, state.infoReferences info = 0

end BufferReferences
end MultiSocketRudp
