import MultiSocketRudp.Lib.ReferenceCounting
import MultiSocketRudp.Server.Generations

/-!
# Reference counts of packets

A `SendPacketInfo` is shared by the call that makes it, the map, the send queue,
the reserved slot, the heap of the retransmission scheduler and its list of due
packets, and by the calls that are working with it.  Each of them counts its
reference and frees it.

The model has one session object for its whole life, with any number of calls of
`SendPacketImmediate`, `OnSendReply` and `DoSend`, and each thread advances by its
loads, stores and lock sections.  Sizes, duplicates within a datagram, deadlines
and the limit of retransmissions are left open.
-/

namespace MultiSocketRudp
namespace ReferenceCounts

open TransitionSystems ReferenceCounting
open Generations (Stage AfterRelease CompletionPhase)

/-- Tells the objects of `SendPacketInfo` apart. -/
abbrev PacketId := Nat

/-- `SendPacketInfo`, but for its reference count. -/
structure SendPacketInfo where
  sendPacketSequence : PacketSequence
  isReplyType : Bool
  ownerGeneration : BitVec 32
  isErasedPacketInfo : Bool := false
  scheduleVersion : Nat := 0
  deriving DecidableEq, Repr

/-- `RetransmissionHeapEntry`. -/
structure HeapEntry where
  version : Nat
  info : PacketId
  deriving DecidableEq, Repr

/-! ## Threads -/

/-- Where a call of `SendPacketImmediate` stands. -/
inductive CallPhase
  /-- The packet has been initialized. -/
  | created
  /-- `MultiSocketRUDPCore::SendPacket` is about to test the generation. -/
  | inserted
  /-- It is about to test the release flag. -/
  | validated
  /-- It is about to push the packet. -/
  | ready
  /-- It is inside `DoSend`. -/
  | sending
  /-- It has returned false. -/
  | failed
  /-- The packet has been marked as erased. -/
  | marked
  /-- About to free its own reference. -/
  | freeing
  deriving DecidableEq, Repr

/-- A running call of `SendPacketImmediate`. -/
structure Call where
  packet : PacketId
  phase : CallPhase
  deriving DecidableEq, Repr

/-- The callers of `DoSend`. -/
inductive SendCaller
  | call (packet : PacketId)
  | retransmission
  | completion
  deriving DecidableEq, Repr

/-- Where a caller stands inside `DoSend`. -/
inductive SendPc
  | outside
  /-- About to test `IsReleasing`. -/
  | entering
  /-- About to compare and swap the IO mode. -/
  | contending
  /-- The send path is taken; about to test `IsReleasing` again. -/
  | testing
  /-- About to look for something to send. -/
  | looking
  /-- Inside `MakeSendStream`. -/
  | streaming
  /-- `MakeSendStream` has returned success. -/
  | built
  /-- About to free the send path. -/
  | releasing (after : AfterRelease)
  /-- About to look again after the send path has been freed. -/
  | rechecking
  | returned (result : Bool)
  deriving DecidableEq, Repr

/-- Where `DoSend` goes once it has freed the send path. -/
def SendPc.resume : AfterRelease → SendPc
  | .return result => .returned result
  | .recheck => .rechecking
  | .retry => .contending

/-- Where a call of `MakeSendStream` stands. -/
inductive StreamPhase
  /-- About to take the reserved packet. -/
  | starting
  /-- About to take the next packet from the queue. -/
  | looping
  /-- A packet has been taken from the reserved slot or from the queue. -/
  | taken (packet : PacketId) (reserved : Bool)
  /-- `RefreshRetransmissionSendPacketInfo` is about to take the lock. -/
  | refreshing (packet : PacketId)
  /-- About to free the packet, and to go on or to fail. -/
  | freeing (packet : PacketId) (goesOn : Bool)
  deriving DecidableEq, Repr

/-- The packet that the call refers to. -/
def StreamPhase.held : StreamPhase → Option PacketId
  | .starting | .looping => none
  | .taken packet _ | .refreshing packet | .freeing packet _ => some packet

/-- A running call of `MakeSendStream`. -/
structure Stream where
  caller : SendCaller
  phase : StreamPhase
  deriving DecidableEq, Repr

/-- Where the retransmission thread stands. -/
inductive RetransmissionPhase
  | waiting
  /-- It holds the scheduler lock and collects what is due. -/
  | collecting
  /-- It is about to take the next due packet. -/
  | processing
  /-- `ProcessRetransmission` has begun. -/
  | checking (packet : PacketId)
  /-- The packet has been retransmitted too often. -/
  | exceeded (packet : PacketId)
  /-- `MultiSocketRUDPCore::SendPacket` is about to test the generation. -/
  | calling (packet : PacketId)
  /-- It is about to test the release flag. -/
  | validated (packet : PacketId)
  /-- It is about to push the packet. -/
  | ready (packet : PacketId)
  /-- It is inside `DoSend`. -/
  | sending (packet : PacketId)
  /-- It has returned false. -/
  | failing (packet : PacketId)
  /-- About to free the packet. -/
  | freeing (packet : PacketId)
  /-- The heap has been drained. -/
  | stopped
  deriving DecidableEq, Repr

/-- The packet that the thread refers to. -/
def RetransmissionPhase.held : RetransmissionPhase → Option PacketId
  | .waiting | .collecting | .processing | .stopped => none
  | .checking packet | .exceeded packet | .calling packet
  | .validated packet | .ready packet | .sending packet | .failing packet
  | .freeing packet => some packet

/-- What the steps inside `DoSend` leave open. -/
inductive SendChoice
  | next
  /-- `MakeSendContext` fails. -/
  | contextFails
  /-- The datagram is handed to the network. -/
  | transmit
  /-- It is empty, lost or refused. -/
  | abandon (after : AfterRelease)
  deriving DecidableEq, Repr

/-- What the steps of `MakeSendStream` leave open. -/
inductive StreamChoice
  | next
  /-- The measured number of packets has been taken. -/
  | stop
  /-- The datagram has a packet with this key already. -/
  | duplicate
  /-- The size of the packet is invalid. -/
  | oversize
  /-- The packet does not fit. -/
  | reserve
  deriving DecidableEq, Repr

/-! ## The session -/

/-- A session object, its scheduler and everything that sends on it. -/
structure State where
  stage : Stage
  sessionGeneration : BitVec 32
  pool : Pool PacketId
  /-- How many packets have been made. -/
  packetsMade : Nat
  infos : PacketId → SendPacketInfo
  sendPacketInfoMap : List (PacketSequence × PacketId)
  /-- The send queue, front first. -/
  sendPacketInfoQueue : List PacketId
  reservedSendPacketInfo : Option PacketId
  ioMode : IoMode
  /-- Generations of the datagrams handed to the network. -/
  sendsInFlight : List (BitVec 32)
  calls : List Call
  /-- Packets that running calls of `OnSendReply` have taken from the map. -/
  acked : List PacketId
  doSends : SendCaller → SendPc
  streams : List Stream
  heap : List HeapEntry
  dueList : List PacketId
  retransmission : RetransmissionPhase
  completion : CompletionPhase

namespace State

/-- The release flag, which `IsReleasing` loads. -/
def nowInReleaseThread (state : State) : Bool :=
  state.stage.nowInReleaseThread

/-- `IsOwnerValid`. -/
def isOwnerValid (state : State) (packet : PacketId) : Bool :=
  state.sessionGeneration = (state.infos packet).ownerGeneration

/-- `isErasedPacketInfo`. -/
def isErased (state : State) (packet : PacketId) : Bool :=
  (state.infos packet).isErasedPacketInfo

/-- `IsNothingToSend`. -/
def isNothingToSend (state : State) : Bool :=
  state.sendPacketInfoQueue.isEmpty && state.reservedSendPacketInfo.isNone

/-- No thread is inside its section under the scheduler lock. -/
def schedulerLockFree (state : State) : Bool :=
  state.retransmission ≠ .collecting

/-- The entry of the map with that key. -/
def registered (state : State) (packetSequence : PacketSequence) :
    Option (PacketSequence × PacketId) :=
  state.sendPacketInfoMap.find? fun entry => entry.1 = packetSequence

/-- The session moves on. -/
def setStage (state : State) (stage : Stage) : State :=
  { state with stage := stage }

/-- A call of `SendPacketImmediate` moves on. -/
def setCall (state : State) (call : Call) (phase : CallPhase) : State :=
  { state with calls := ⟨call.packet, phase⟩ :: state.calls.erase call }

/-- A caller moves on inside `DoSend`. -/
def setSend (state : State) (caller : SendCaller) (pc : SendPc) : State :=
  { state with doSends := Function.update state.doSends caller pc }

/-- A call of `MakeSendStream` moves on. -/
def setStream (state : State) (stream : Stream) (phase : StreamPhase) :
    State :=
  { state with
    streams := ⟨stream.caller, phase⟩ :: state.streams.erase stream }

/-- A call of `MakeSendStream` returns to `DoSend`. -/
def endStream (state : State) (stream : Stream) (pc : SendPc) : State :=
  { state with streams := state.streams.erase stream }.setSend stream.caller pc

/-- The retransmission thread moves on. -/
def setRetransmission (state : State) (phase : RetransmissionPhase) : State :=
  { state with retransmission := phase }

/-- A reference to a packet is counted. -/
def addRefCount (state : State) (packet : PacketId) : State :=
  { state with pool := state.pool.add packet }

/-- `SendPacketInfo::Free`. -/
def free (state : State) (packet : PacketId) : State :=
  { state with pool := state.pool.free packet }

/-- `MarkSendPacketInfoErased`. -/
def markErased (state : State) (packet : PacketId) : State :=
  { state with
    infos :=
      Function.update state.infos packet
        { state.infos packet with isErasedPacketInfo := true } }

/-- `DoDisconnect`, up to the store of the release flag. -/
def doDisconnect (state : State) : State :=
  if state.stage = .reserved ∨ state.stage = .connected then
    state.setStage .releasing
  else state

/-- `InsertSendPacketInfo`: `try_emplace` leaves a present key alone, and
replies are not registered. -/
def insertSendPacketInfo (state : State) (packet : PacketId) : State :=
  let packetSequence := (state.infos packet).sendPacketSequence
  if (state.infos packet).isReplyType then state
  else if (state.registered packetSequence).isSome then state
  else
    { state with
      sendPacketInfoMap :=
        (packetSequence, packet) :: state.sendPacketInfoMap }.addRefCount
      packet

/-- `EraseSendPacketInfo`, in the failure path of `SendPacketImmediate`. -/
def eraseSendPacketInfo (state : State) (packet : PacketId) : State :=
  if (state.infos packet).isReplyType then state
  else
    match state.registered (state.infos packet).sendPacketSequence with
    | none => state
    | some entry =>
        { state with
          sendPacketInfoMap := state.sendPacketInfoMap.erase entry }.free
          entry.2

/-- The end of `MultiSocketRUDPCore::SendPacket`: the packet is pushed with a
reference of its own, and `DoSend` is called. -/
def pushSendPacketInfo
    (state : State) (caller : SendCaller) (packet : PacketId) : State :=
  { state.addRefCount packet with
    sendPacketInfoQueue := state.sendPacketInfoQueue ++ [packet] }.setSend
    caller .entering

/-- `PushRetransmissionSchedule`. -/
def pushRetransmissionSchedule (state : State) (packet : PacketId) : State :=
  let info := state.infos packet
  let version := info.scheduleVersion + 1
  { state.addRefCount packet with
    infos :=
      Function.update state.infos packet
        { info with scheduleVersion := version }
    heap := ⟨version, packet⟩ :: state.heap }

/-- `ForEachAndClearSendPacketInfoMap`, in `Disconnect`. -/
def clearSendPacketInfoMap (state : State) : State :=
  let packets := state.sendPacketInfoMap.map Prod.snd
  { state with
    pool := state.pool.freeAll packets
    infos := fun packet =>
      if packet ∈ packets then
        { state.infos packet with isErasedPacketInfo := true }
      else state.infos packet
    sendPacketInfoMap := [] }

/-- The section of `SessionSendContext::Reset` under the queue lock. -/
def clearSendPacketInfoQueue (state : State) : State :=
  { state with
    pool := state.pool.freeAll
      (state.reservedSendPacketInfo.toList ++ state.sendPacketInfoQueue)
    sendPacketInfoQueue := []
    reservedSendPacketInfo := none }

/-! ## Steps -/

/-- The next step of a release that has been won: the rest of `DoDisconnect`,
the drain test, which is left open but for the IO mode, the rest of
`Disconnect`, and `ReleaseSession` with `InitializeSession`. -/
def releaseStep (state : State) : Option State :=
  match state.stage with
  | .releasing => some (state.setStage .flagged)
  | .flagged => some (state.setStage .listed)
  | .listed => some (state.setStage .receivesDrained)
  | .receivesDrained =>
      if state.ioMode = .ioNoneSending then
        some (state.setStage .modeDrained)
      else none
  | .modeDrained => some (state.setStage .completionsDrained)
  | .completionsDrained => some (state.setStage .cleaned)
  | .cleaned =>
      if state.schedulerLockFree then
        some (state.clearSendPacketInfoMap.setStage .cleared)
      else none
  | .cleared =>
      some { state with
        stage := .incremented
        sessionGeneration := state.sessionGeneration + 1 }
  | .incremented => some (state.setStage .lowered)
  | .lowered =>
      some { state with stage := .modeReset, ioMode := .ioNoneSending }
  | .modeReset => some (state.setStage .sequenceReset)
  | .sequenceReset => some (state.clearSendPacketInfoQueue.setStage .queueReset)
  | .queueReset => some (state.setStage .pendingReset)
  | .pendingReset => some (state.setStage .disconnected)
  | .disconnected => some (state.setStage .pooled)
  | _ => none

/-- A call of `SendPacketImmediate` begins. -/
def make
    (state : State) (packetSequence : PacketSequence) (isReplyType : Bool) :
    State :=
  let packet := state.packetsMade
  { state with
    pool := state.pool.make packet
    packetsMade := packet + 1
    infos :=
      Function.update state.infos packet
        { sendPacketSequence := packetSequence
          isReplyType
          ownerGeneration := state.sessionGeneration }
    calls := ⟨packet, .created⟩ :: state.calls }

/-- The next step of a call of `SendPacketImmediate`. -/
def callStep (state : State) (call : Call) : Option State :=
  match call.phase with
  | .created =>
      some ((state.insertSendPacketInfo call.packet).setCall call .inserted)
  | .inserted =>
      some (state.setCall call
        (if state.isOwnerValid call.packet then .validated else .failed))
  | .validated =>
      some (state.setCall call
        (if state.nowInReleaseThread then .failed else .ready))
  | .ready =>
      some ((state.pushSendPacketInfo (.call call.packet) call.packet).setCall
        call .sending)
  | .sending =>
      match state.doSends (.call call.packet) with
      | .returned result =>
          some ((state.setSend (.call call.packet) .outside).setCall call
            (if result then .freeing else .failed))
      | _ => none
  | .failed =>
      if (state.infos call.packet).isReplyType || state.schedulerLockFree then
        some ((state.markErased call.packet).setCall call .marked)
      else none
  | .marked =>
      some ((state.eraseSendPacketInfo call.packet).setCall call .freeing)
  | .freeing =>
      some ({ state with calls := state.calls.erase call }.free call.packet)

/-- The next step of a caller inside `DoSend`. -/
def sendStep (state : State) (caller : SendCaller) (choice : SendChoice) :
    Option State :=
  match state.doSends caller with
  | .outside | .returned _ | .streaming => none
  | .entering =>
      some (state.setSend caller
        (if state.nowInReleaseThread then .returned true else .contending))
  | .contending =>
      some (if state.ioMode = .ioNoneSending then
          { state with ioMode := .ioSending }.setSend caller .testing
        else state.setSend caller (.returned true))
  | .testing =>
      some (state.setSend caller
        (if state.nowInReleaseThread then .releasing (.return true)
          else .looking))
  | .looking =>
      some (if state.isNothingToSend then
          state.setSend caller (.releasing .recheck)
        else if choice = .contextFails then
          state.setSend caller (.releasing (.return false))
        else
          { state with
            streams := ⟨caller, .starting⟩ :: state.streams }.setSend caller
            .streaming)
  | .built =>
      match choice with
      | .transmit =>
          some ({ state with
            sendsInFlight :=
              state.sessionGeneration :: state.sendsInFlight }.setSend caller
            (.returned true))
      | .abandon after => some (state.setSend caller (.releasing after))
      | _ => none
  | .releasing after =>
      some ({ state with ioMode := .ioNoneSending }.setSend caller
        (.resume after))
  | .rechecking =>
      some (state.setSend caller
        (if state.isNothingToSend then .returned true else .contending))

/-- `ReservedSendPacketInfoToStream` and `StoredSendPacketInfoToStream` with the
packet taken, up to the first load of its erased flag. -/
def takenStep
    (state : State) (stream : Stream) (packet : PacketId) (reserved : Bool) :
    StreamChoice → Option State
  | .duplicate =>
      if reserved then none
      else some (state.setStream stream (.freeing packet true))
  | .oversize =>
      some (state.doDisconnect.setStream stream (.freeing packet false))
  | .reserve =>
      if reserved then none
      else
        some ({ state with reservedSendPacketInfo := some packet }.endStream
          stream .built)
  | .next =>
      some (state.setStream stream
        (if state.isErased packet || (state.infos packet).isReplyType then
          .freeing packet true
        else .refreshing packet))
  | .stop => none

/-- The next step of a call of `MakeSendStream`. -/
def streamStep (state : State) (stream : Stream) (choice : StreamChoice) :
    Option State :=
  match stream.phase with
  | .starting =>
      some (match state.reservedSendPacketInfo with
        | none => state.setStream stream .looping
        | some packet =>
            { state with reservedSendPacketInfo := none }.setStream stream
              (.taken packet true))
  | .looping =>
      some (if choice = .stop then state.endStream stream .built
        else
          match state.sendPacketInfoQueue with
          | [] => state.setStream stream .looping
          | packet :: queue =>
              { state with sendPacketInfoQueue := queue }.setStream stream
                (.taken packet false))
  | .taken packet reserved => state.takenStep stream packet reserved choice
  | .refreshing packet =>
      if state.schedulerLockFree then
        some ((if state.isErased packet then state
          else state.pushRetransmissionSchedule packet).setStream stream
          (.freeing packet true))
      else none
  | .freeing packet goesOn =>
      some (if goesOn then (state.setStream stream .looping).free packet
        else
          (state.endStream stream (.releasing (.return false))).free packet)

/-- The next step of `ProcessRetransmission`. -/
def retransmissionStep (state : State) (exceeded : Bool) : Option State :=
  match state.retransmission with
  | .checking packet =>
      if state.isErased packet then
        some ((state.setRetransmission .processing).free packet)
      else
        some (state.setRetransmission
          (if exceeded then .exceeded packet else .calling packet))
  | .exceeded packet =>
      some ((if state.isOwnerValid packet then state.doDisconnect
        else state).setRetransmission (.freeing packet))
  | .calling packet =>
      some (state.setRetransmission
        (if state.isOwnerValid packet then .validated packet
          else .failing packet))
  | .validated packet =>
      some (state.setRetransmission
        (if state.nowInReleaseThread then .failing packet else .ready packet))
  | .ready packet =>
      some ((state.pushSendPacketInfo .retransmission
        packet).setRetransmission (.sending packet))
  | .sending packet =>
      match state.doSends .retransmission with
      | .returned result =>
          some ((state.setSend .retransmission .outside).setRetransmission
            (if result then .freeing packet else .failing packet))
      | _ => none
  | .failing packet =>
      some ((if state.isOwnerValid packet then state.doDisconnect
        else state).setRetransmission (.freeing packet))
  | .freeing packet =>
      some ((state.setRetransmission .processing).free packet)
  | .waiting | .collecting | .processing | .stopped => none

/-- The next step of the worker that completes sends. -/
def completionStep (state : State) (succeeded : Bool) : Option State :=
  match state.completion with
  | .waiting => none
  | .dequeued generation =>
      some { state with
        completion :=
          if generation = state.sessionGeneration then .storing
          else .waiting }
  | .storing =>
      some { state with
        ioMode := .ioNoneSending
        completion := if succeeded then .testing else .waiting }
  | .testing =>
      some (if state.nowInReleaseThread then
          { state with completion := .waiting }
        else
          { state with completion := .sending }.setSend .completion .entering)
  | .sending =>
      match state.doSends .completion with
      | .returned _ =>
          some ({ state with completion := .waiting }.setSend .completion
            .outside)
      | _ => none

end State

/-- One step of one thread. -/
inductive Label
  /-- The broker takes the session from the pool. -/
  | acquire
  /-- The broker reserves the session. -/
  | reserve
  /-- `TryConnect` succeeds. -/
  | connect
  /-- Some thread disconnects the session. -/
  | disconnect
  /-- The release moves on. -/
  | release
  /-- `SendPacketImmediate` is called. -/
  | make (packetSequence : PacketSequence) (isReplyType : Bool)
  | call (call : Call)
  /-- `OnSendReply` takes a packet out of the map. -/
  | ackErase (packetSequence : PacketSequence)
  | ackMark (packet : PacketId)
  | ackFree (packet : PacketId)
  | send (caller : SendCaller) (choice : SendChoice)
  | stream (stream : Stream) (choice : StreamChoice)
  /-- The retransmission thread takes the scheduler lock. -/
  | collect
  | popStale (entry : HeapEntry)
  | popDue (entry : HeapEntry)
  | stopCollecting
  | takeDue
  | finishDue
  | retransmit (exceeded : Bool)
  /-- The retransmission thread drains the heap and ends. -/
  | stopRetransmission
  /-- A send completes. -/
  | dequeue (generation : BitVec 32)
  | complete (succeeded : Bool)
  deriving DecidableEq, Repr

/-- The effect of a step. -/
def step (state : State) : Label → Option State
  | .acquire =>
      if state.stage = .pooled then some (state.setStage .handedOut) else none
  | .reserve =>
      if state.stage = .handedOut then some (state.setStage .reserved)
      else none
  | .connect =>
      if state.stage = .reserved then some (state.setStage .connected)
      else none
  | .disconnect => some state.doDisconnect
  | .release => state.releaseStep
  | .make packetSequence isReplyType =>
      some (state.make packetSequence isReplyType)
  | .call call => if call ∈ state.calls then state.callStep call else none
  | .ackErase packetSequence =>
      match state.registered packetSequence with
      | none => none
      | some entry =>
          some { state with
            sendPacketInfoMap := state.sendPacketInfoMap.erase entry
            acked := entry.2 :: state.acked }
  | .ackMark packet =>
      if packet ∈ state.acked ∧ state.schedulerLockFree then
        some (state.markErased packet)
      else none
  | .ackFree packet =>
      if packet ∈ state.acked ∧ state.isErased packet then
        some ({ state with acked := state.acked.erase packet }.free packet)
      else none
  | .send caller choice => state.sendStep caller choice
  | .stream stream choice =>
      if stream ∈ state.streams then state.streamStep stream choice else none
  | .collect =>
      if state.retransmission = .waiting then
        some (state.setRetransmission .collecting)
      else none
  | .popStale entry =>
      if state.retransmission = .collecting ∧ entry ∈ state.heap ∧
          (state.isErased entry.info ∨
            entry.version ≠ (state.infos entry.info).scheduleVersion) then
        some ({ state with heap := state.heap.erase entry }.free entry.info)
      else none
  | .popDue entry =>
      if state.retransmission = .collecting ∧ entry ∈ state.heap ∧
          ¬ (state.isErased entry.info ∨
            entry.version ≠ (state.infos entry.info).scheduleVersion) then
        some { state with
          heap := state.heap.erase entry
          dueList := state.dueList ++ [entry.info] }
      else none
  | .stopCollecting =>
      if state.retransmission = .collecting then
        some (state.setRetransmission .processing)
      else none
  | .takeDue =>
      match state.retransmission, state.dueList with
      | .processing, packet :: dueList =>
          some ({ state with dueList := dueList }.setRetransmission
            (.checking packet))
      | _, _ => none
  | .finishDue =>
      if state.retransmission = .processing ∧ state.dueList = [] then
        some (state.setRetransmission .waiting)
      else none
  | .retransmit exceeded => state.retransmissionStep exceeded
  | .stopRetransmission =>
      if state.retransmission = .waiting then
        some { state with
          pool := state.pool.freeAll (state.heap.map HeapEntry.info)
          heap := []
          retransmission := .stopped }
      else none
  | .dequeue generation =>
      if generation ∈ state.sendsInFlight ∧ state.completion = .waiting then
        some { state with
          sendsInFlight := state.sendsInFlight.erase generation
          completion := .dequeued generation }
      else none
  | .complete succeeded => state.completionStep succeeded

/-- A session that `CreateSessionPool` has initialized. -/
def initial : State where
  stage := .pooled
  sessionGeneration := 1
  pool := .empty
  packetsMade := 0
  infos := fun _ =>
    { sendPacketSequence := 0, isReplyType := false, ownerGeneration := 0 }
  sendPacketInfoMap := []
  sendPacketInfoQueue := []
  reservedSendPacketInfo := none
  ioMode := .ioNoneSending
  sendsInFlight := []
  calls := []
  acked := []
  doSends := fun _ => .outside
  streams := []
  heap := []
  dueList := []
  retransmission := .waiting
  completion := .waiting

/-- A session object with all threads that send on it. -/
def system : TransitionSystem State Label where
  Initial state := state = initial
  step := step

/-! ## Conservation -/

/-- How many references to a packet there are, in containers and in the local
variables of running calls. -/
def State.references (state : State) (packet : PacketId) : Nat :=
  (state.sendPacketInfoMap.map Prod.snd).count packet +
    state.sendPacketInfoQueue.count packet +
    state.reservedSendPacketInfo.toList.count packet +
    (state.heap.map HeapEntry.info).count packet +
    state.dueList.count packet +
    (state.calls.map Call.packet).count packet +
    state.acked.count packet +
    (state.streams.filterMap fun stream => stream.phase.held).count packet +
    state.retransmission.held.toList.count packet

/-- Each reference count is the number of references to the packet, and a packet
has been returned to the pool once if none is left, and else not at all. -/
def ReferencesConserved (state : State) : Prop :=
  Conserved state.pool state.references

end ReferenceCounts
end MultiSocketRudp
