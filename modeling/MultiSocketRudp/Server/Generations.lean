import MultiSocketRudp.Lib.TransitionSystem
import MultiSocketRudp.Protocol

/-!
# The generations of a session object

A session object serves one client after another.  `InitializeSession`
increments its generation when it is released, and every `SendPacketInfo`
records the generation that its session had when the packet was made.  The
model has one session object for its whole life, the send calls of its
application and heartbeat threads, the worker that handles acknowledgements, the
worker that completes sends, the retransmission thread and the release thread.

Each thread advances by its loads, stores and lock sections.  What
`MakeSendStream` puts into a datagram, what `CanSend` answers and how often a
packet has been retransmitted are left open.  Replies to received packets belong
to the receive path and are left out.
-/

namespace MultiSocketRudp
namespace Generations

open TransitionSystems

/-! ## Packets -/

/-- `SendPacketInfo`, as far as it is fixed when the packet is made. -/
structure SendPacketInfo where
  /-- Tells the objects apart. -/
  number : Nat
  sendPacketSequence : PacketSequence
  ownerGeneration : BitVec 32
  /-- The turn of the session in which the send call began. -/
  origin : Nat
  deriving DecidableEq, Repr

/-- A buffer in the pending queue. -/
structure PendingPacket where
  packetSequence : PacketSequence
  /-- The turn of the session in which the send call began. -/
  origin : Nat
  deriving DecidableEq, Repr

/-! ## Where the session stands -/

/-- Where the session stands between two turns in the pool. -/
inductive Stage
  /-- In the list of unused sessions. -/
  | pooled
  /-- `AcquireSession` has returned it. -/
  | handedOut
  /-- `InitReserveSession` has reserved it. -/
  | reserved
  /-- `TryConnect` has succeeded. -/
  | connected
  /-- `DoDisconnect` or `AbortReservedSession` has won. -/
  | releasing
  /-- The release flag is set. -/
  | flagged
  /-- In the release list. -/
  | listed
  /-- `CanFinalizeIO` has found no receive. -/
  | receivesDrained
  /-- It has found the send path free. -/
  | modeDrained
  /-- It has found no active completion. -/
  | completionsDrained
  /-- `FinalizeRIOCleanup` has run. -/
  | cleaned
  /-- `ForEachAndClearSendPacketInfoMap` has run. -/
  | cleared
  /-- `InitializeSession` has incremented the generation. -/
  | incremented
  /-- It has lowered the release flag. -/
  | lowered
  /-- `SessionSendContext::Reset` has freed the send path. -/
  | modeReset
  /-- It has reset the send sequence. -/
  | sequenceReset
  /-- It has emptied the reserved slot and the send queue. -/
  | queueReset
  /-- It has emptied the pending queue. -/
  | pendingReset
  /-- The state machine is back at DISCONNECTED. -/
  | disconnected
  deriving DecidableEq, Repr

namespace Stage

/-- Value of the state machine. -/
def sessionState : Stage → SessionState
  | .pooled | .handedOut | .disconnected => .disconnected
  | .reserved => .reserved
  | .connected => .connected
  | _ => .releasing

/-- Value of the release flag, which `IsReleasing` loads. -/
def nowInReleaseThread : Stage → Bool
  | .flagged | .listed | .receivesDrained | .modeDrained
  | .completionsDrained | .cleaned | .cleared | .incremented => true
  | _ => false

/-- The socket is open and a receive may be posted. -/
def acceptsReceives : Stage → Bool
  | .reserved | .connected | .releasing => true
  | _ => false

/-- The generation is new and the queue is not yet emptied. -/
def keepsQueue : Stage → Bool
  | .incremented | .lowered | .modeReset | .sequenceReset => true
  | _ => false

/-- The generation is new and the session is not yet initialized for it. -/
def beingInitialized : Stage → Bool
  | .queueReset => true
  | stage => stage.keepsQueue

end Stage

/-! ## Threads -/

/-- The threads that run `SendPacketImmediate`. -/
inductive Caller
  /-- An application or heartbeat thread. -/
  | sender (index : Nat)
  /-- The worker that runs `OnSendReply`. -/
  | receiver
  deriving DecidableEq, Repr

/-- Where a caller stands. -/
inductive CallState
  | idle
  /-- The session has been found connected. -/
  | tested (origin : Nat)
  /-- The send sequence has been incremented. -/
  | allocated (packetSequence : PacketSequence) (origin : Nat)
  /-- `SendPacketImmediate` has begun, with more buffers to follow. -/
  | creating
      (packetSequence : PacketSequence) (origin : Nat)
      (rest : List PendingPacket)
  /-- The packet has been initialized. -/
  | created (info : SendPacketInfo) (rest : List PendingPacket)
  /-- `MultiSocketRUDPCore::SendPacket` is about to test the generation. -/
  | calling (info : SendPacketInfo) (rest : List PendingPacket)
  /-- It is about to test the release flag. -/
  | validated (info : SendPacketInfo) (rest : List PendingPacket)
  /-- It is about to push the packet. -/
  | ready (info : SendPacketInfo) (rest : List PendingPacket)
  /-- It is inside `DoSend`. -/
  | sending (info : SendPacketInfo) (rest : List PendingPacket)
  /-- It has returned false. -/
  | failed (info : SendPacketInfo)
  /-- The packet has been marked as erased. -/
  | marked (info : SendPacketInfo)
  /-- A received packet is about to be handled. -/
  | handling
  /-- `OnSendReply` has taken the packet from the map. -/
  | acknowledged (info : SendPacketInfo)
  /-- `TryFlushPendingQueue` has been called. -/
  | flushing
  /-- The received packet has been handled. -/
  | handled
  deriving DecidableEq, Repr

/-- What the steps of a caller leave open. -/
inductive CallChoice
  | next
  /-- The pending queue is passed by. -/
  | bypass
  /-- The buffer is put into the pending queue. -/
  | store
  /-- A heartbeat finds no window, or the pending queue is full. -/
  | giveUp
  /-- The received packet acknowledges a sequence. -/
  | acknowledge (packetSequence : PacketSequence)
  /-- `CanSend` is true of so many pending buffers. -/
  | flush (count : Nat)
  deriving DecidableEq, Repr

/-- Where a caller goes when it has nothing more to send. -/
def Caller.resting : Caller → CallState
  | .sender _ => .idle
  | .receiver => .handled

/-- The next buffer to send, if any. -/
def Caller.resume (caller : Caller) : List PendingPacket → CallState
  | [] => caller.resting
  | packet :: rest =>
      .creating packet.packetSequence packet.origin rest

/-- Where the retransmission thread stands. -/
inductive RetransmissionPhase
  | waiting
  /-- It is about to test whether the due packet has been erased. -/
  | taken (info : SendPacketInfo)
  /-- `MultiSocketRUDPCore::SendPacket` is about to test the generation. -/
  | calling (info : SendPacketInfo)
  /-- It is about to test the release flag. -/
  | validated (info : SendPacketInfo)
  /-- It is about to push the packet. -/
  | ready (info : SendPacketInfo)
  /-- It is inside `DoSend`. -/
  | sending (info : SendPacketInfo)
  deriving DecidableEq, Repr

/-- Where the worker that completes sends stands. -/
inductive CompletionPhase
  | waiting
  /-- `BeginIOCompletion` has counted a send of this generation. -/
  | dequeued (generation : BitVec 32)
  /-- `SendIOCompleted` is about to free the send path. -/
  | storing
  /-- It is about to test `IsReleasing`. -/
  | testing
  /-- It is inside `DoSend`. -/
  | sending
  deriving DecidableEq, Repr

/-- The threads that call `DoSend`. -/
inductive Thread
  | call (caller : Caller)
  | retransmission
  | completion
  deriving DecidableEq, Repr

/-- What `DoSend` does once it has freed the send path. -/
inductive AfterRelease
  | return (result : Bool)
  | recheck
  | retry
  deriving DecidableEq, Repr

/-- Where a thread stands inside `DoSend`. -/
inductive SendPc
  | outside
  /-- About to test `IsReleasing`. -/
  | entering
  /-- About to compare and swap the IO mode. -/
  | contending
  /-- The send path is taken; about to test `IsReleasing` again. -/
  | testing
  /-- About to look for something to send. -/
  | looking
  /-- `MakeSendStream` is about to take the reserved packet. -/
  | starting
  /-- `MakeSendStream` holds this packet. -/
  | building (held : Option SendPacketInfo)
  /-- The last packet did not fit and has been reserved. -/
  | full
  /-- About to free the send path. -/
  | releasing (after : AfterRelease)
  /-- About to look again after the send path has been freed. -/
  | rechecking
  | returned (result : Bool)
  deriving DecidableEq, Repr

/-- Where `DoSend` goes once it has freed the send path. -/
def AfterRelease.resume : AfterRelease → SendPc
  | .return result => .returned result
  | .recheck => .rechecking
  | .retry => .contending

/-- What the steps inside `DoSend` leave open. -/
inductive SendChoice
  | next
  /-- The held packet is a duplicate or has been found erased. -/
  | drop
  /-- The held packet does not fit. -/
  | reserve
  /-- The datagram is handed to the network. -/
  | transmit
  /-- The datagram is given up. -/
  | abandon (after : AfterRelease)
  deriving DecidableEq, Repr

/-! ## The session -/

/-- A session object and everything that sends on it. -/
structure State where
  stage : Stage
  sessionGeneration : BitVec 32
  /-- Which turn of the object this is; the generation is its residue. -/
  epoch : Nat
  /-- `TryConnect` has succeeded in this turn. -/
  connectedOnce : Bool
  lastSendPacketSequence : PacketSequence
  sendPacketInfoMap : PacketSequence → Option SendPacketInfo
  /-- The send queue, front first. -/
  sendPacketInfoQueue : List SendPacketInfo
  reservedSendPacketInfo : Option SendPacketInfo
  /-- The pending queue, front first. -/
  pendingPacketQueue : List PendingPacket
  /-- The erased flag, by number of the packet. -/
  isErasedPacketInfo : Nat → Bool
  /-- How many packets have been made. -/
  packetsMade : Nat
  ioMode : IoMode
  /-- Generations of the datagrams handed to the network. -/
  sendsInFlight : List (BitVec 32)
  /-- Receives that are posted or wait for the logic worker. -/
  receives : Nat
  calls : Caller → CallState
  doSends : Thread → SendPc
  /-- Packets of the heap entries. -/
  scheduled : List SendPacketInfo
  retransmission : RetransmissionPhase
  completion : CompletionPhase

namespace State

/-- The release flag, which `IsReleasing` loads. -/
def nowInReleaseThread (state : State) : Bool :=
  state.stage.nowInReleaseThread

/-- `IsOwnerValid`. -/
def isOwnerValid (state : State) (info : SendPacketInfo) : Bool :=
  state.sessionGeneration = info.ownerGeneration

/-- `IsNothingToSend`. -/
def isNothingToSend (state : State) : Bool :=
  state.sendPacketInfoQueue.isEmpty && state.reservedSendPacketInfo.isNone

/-- The session moves on. -/
def setStage (state : State) (stage : Stage) : State :=
  { state with stage := stage }

/-- A caller moves on. -/
def setCall (state : State) (caller : Caller) (call : CallState) : State :=
  { state with calls := Function.update state.calls caller call }

@[simp] theorem calls_setCall_self
    (state : State) (caller : Caller) (call : CallState) :
    (state.setCall caller call).calls caller = call :=
  Function.update_self _ _ _

theorem calls_setCall_of_ne
    (state : State) {caller other : Caller} (call : CallState)
    (distinct : other ≠ caller) :
    (state.setCall caller call).calls other = state.calls other :=
  Function.update_of_ne distinct _ _

/-- A thread moves on inside `DoSend`. -/
def setSend (state : State) (thread : Thread) (pc : SendPc) : State :=
  { state with doSends := Function.update state.doSends thread pc }

@[simp] theorem doSends_setSend_self
    (state : State) (thread : Thread) (pc : SendPc) :
    (state.setSend thread pc).doSends thread = pc :=
  Function.update_self _ _ _

theorem doSends_setSend_of_ne
    (state : State) {thread other : Thread} (pc : SendPc)
    (distinct : other ≠ thread) :
    (state.setSend thread pc).doSends other = state.doSends other :=
  Function.update_of_ne distinct _ _

/-- `MarkSendPacketInfoErased`. -/
def markErased (state : State) (info : SendPacketInfo) : State :=
  { state with
    isErasedPacketInfo :=
      Function.update state.isErasedPacketInfo info.number true }

/-- `InsertSendPacketInfo`: `try_emplace` leaves a present key alone. -/
def insertSendPacketInfo (state : State) (info : SendPacketInfo) : State :=
  { state with
    sendPacketInfoMap :=
      if state.sendPacketInfoMap info.sendPacketSequence = none then
        Function.update state.sendPacketInfoMap info.sendPacketSequence
          (some info)
      else state.sendPacketInfoMap }

/-- `EraseSendPacketInfo`. -/
def eraseSendPacketInfo
    (state : State) (packetSequence : PacketSequence) : State :=
  { state with
    sendPacketInfoMap :=
      Function.update state.sendPacketInfoMap packetSequence none }

/-- `PushSendPacketInfo`. -/
def pushSendPacketInfo (state : State) (info : SendPacketInfo) : State :=
  { state with
    sendPacketInfoQueue := state.sendPacketInfoQueue ++ [info] }

/-- `PushToPendingQueue`, on a queue that is not full. -/
def pushToPendingQueue
    (state : State) (packetSequence : PacketSequence) (origin : Nat) : State :=
  { state with
    pendingPacketQueue :=
      state.pendingPacketQueue ++ [PendingPacket.mk packetSequence origin] }

/-- The packet that `SendPacketImmediate` makes. -/
def makeInfo
    (state : State) (packetSequence : PacketSequence) (origin : Nat) :
    SendPacketInfo :=
  { number := state.packetsMade
    sendPacketSequence := packetSequence
    ownerGeneration := state.sessionGeneration
    origin := origin }

/-! ## Release and initialization -/

/-- The next step of a release that has been won: the rest of `DoDisconnect`,
the drain test and the rest of `Disconnect`, and `ReleaseSession` with
`InitializeSession`. -/
def releaseStep (state : State) : Option State :=
  match state.stage with
  | .releasing => some (state.setStage .flagged)
  | .flagged => some (state.setStage .listed)
  | .listed =>
      if state.receives = 0 ∧ state.calls .receiver = .idle then
        some (state.setStage .receivesDrained)
      else none
  | .receivesDrained =>
      if state.ioMode = .ioNoneSending then
        some (state.setStage .modeDrained)
      else none
  | .modeDrained =>
      if state.completion = .waiting then
        some (state.setStage .completionsDrained)
      else none
  | .completionsDrained =>
      if state.calls .receiver = .idle then some (state.setStage .cleaned)
      else none
  | .cleaned =>
      some { state with
        stage := .cleared
        sendPacketInfoMap := fun _ => none }
  | .cleared =>
      some { state with
        stage := .incremented
        sessionGeneration := state.sessionGeneration + 1
        epoch := state.epoch + 1
        connectedOnce := false }
  | .incremented => some (state.setStage .lowered)
  | .lowered =>
      some { state with stage := .modeReset, ioMode := .ioNoneSending }
  | .modeReset =>
      some { state with stage := .sequenceReset, lastSendPacketSequence := 0 }
  | .sequenceReset =>
      some { state with
        stage := .queueReset
        sendPacketInfoQueue := []
        reservedSendPacketInfo := none }
  | .queueReset =>
      some { state with stage := .pendingReset, pendingPacketQueue := [] }
  | .pendingReset => some (state.setStage .disconnected)
  | .disconnected => some (state.setStage .pooled)
  | _ => none

/-! ## Send calls and acknowledgements -/

/-- The next step of a caller: `SendPacket` and `SendPacketImmediate`, and on
the logic worker `OnSendReply` and `TryFlushPendingQueue`. -/
def callStep
    (state : State) (caller : Caller) (choice : CallChoice) : Option State :=
  match state.calls caller with
  | .idle => none
  | .tested origin =>
      let packetSequence := state.lastSendPacketSequence + 1
      some (if choice = .giveUp then state.setCall caller caller.resting
        else { state with lastSendPacketSequence := packetSequence }.setCall
          caller (.allocated packetSequence origin))
  | .allocated packetSequence origin =>
      match choice with
      | .bypass =>
          if state.pendingPacketQueue = [] then
            some (state.setCall caller (.creating packetSequence origin []))
          else none
      | .store =>
          some ((state.pushToPendingQueue packetSequence origin).setCall caller
            caller.resting)
      | .giveUp => some (state.setCall caller caller.resting)
      | _ => none
  | .creating packetSequence origin rest =>
      some ({ state with packetsMade := state.packetsMade + 1 }.setCall caller
        (.created (state.makeInfo packetSequence origin) rest))
  | .created info rest =>
      some ((state.setCall caller (.calling info rest)).insertSendPacketInfo
        info)
  | .calling info rest =>
      some (state.setCall caller
        (if state.isOwnerValid info then .validated info rest
          else .failed info))
  | .validated info rest =>
      some (state.setCall caller
        (if state.nowInReleaseThread then .failed info else .ready info rest))
  | .ready info rest =>
      some (((state.setCall caller (.sending info rest)).pushSendPacketInfo
        info).setSend (.call caller) .entering)
  | .sending info rest =>
      match state.doSends (.call caller) with
      | .returned true =>
          some ((state.setSend (.call caller) .outside).setCall caller
            (caller.resume rest))
      | .returned false =>
          some ((state.setSend (.call caller) .outside).setCall caller
            (.failed info))
      | _ => none
  | .failed info =>
      some ((state.markErased info).setCall caller (.marked info))
  | .marked info =>
      some ((state.eraseSendPacketInfo info.sendPacketSequence).setCall caller
        caller.resting)
  | .handling =>
      match choice with
      | .acknowledge packetSequence =>
          match state.sendPacketInfoMap packetSequence with
          | some info =>
              if state.lastSendPacketSequence < packetSequence then none
              else
                some ((state.eraseSendPacketInfo packetSequence).setCall
                  caller (.acknowledged info))
          | none => none
      | _ => some (state.setCall caller .handled)
  | .acknowledged info =>
      some ((state.markErased info).setCall caller .flushing)
  | .flushing =>
      match choice with
      | .flush count =>
          some ({ state with
            pendingPacketQueue := state.pendingPacketQueue.drop count }.setCall
            caller (caller.resume (state.pendingPacketQueue.take count)))
      | _ => none
  | .handled => some (state.setCall caller .idle)

/-! ## The send path -/

/-- What follows `MakeSendStream`: the datagram goes out or is given up. -/
def finishStep (state : State) (thread : Thread) : SendChoice → Option State
  | .transmit =>
      some ({ state with
        sendsInFlight :=
          state.sessionGeneration :: state.sendsInFlight }.setSend thread
        (.returned true))
  | .abandon after => some (state.setSend thread (.releasing after))
  | .next => none
  | .drop => none
  | .reserve => none

/-- The next step of `MakeSendStream`, which may hold a packet. -/
def buildStep (state : State) (thread : Thread) :
    Option SendPacketInfo → SendChoice → Option State
  | none, .next =>
      match state.sendPacketInfoQueue with
      | [] => none
      | info :: queue =>
          some ({ state with sendPacketInfoQueue := queue }.setSend thread
            (.building (some info)))
  | none, choice => state.finishStep thread choice
  | some info, .next =>
      -- `RefreshRetransmissionSendPacketInfo` schedules what it lets pass.
      if state.isErasedPacketInfo info.number then none
      else
        some ({ state with scheduled := info :: state.scheduled }.setSend
          thread (.building none))
  | some _, .drop => some (state.setSend thread (.building none))
  | some info, .reserve =>
      some ({ state with reservedSendPacketInfo := some info }.setSend thread
        .full)
  | some _, .abandon after => some (state.setSend thread (.releasing after))
  | some _, .transmit => none

/-- The next step of a thread inside `DoSend`. -/
def sendStep
    (state : State) (thread : Thread) (choice : SendChoice) : Option State :=
  match state.doSends thread with
  | .outside | .returned _ => none
  | .entering =>
      some (state.setSend thread
        (if state.nowInReleaseThread then .returned true else .contending))
  | .contending =>
      some (if state.ioMode = .ioNoneSending then
          { state with ioMode := .ioSending }.setSend thread .testing
        else state.setSend thread (.returned true))
  | .testing =>
      some (state.setSend thread
        (if state.nowInReleaseThread then .releasing (.return true)
          else .looking))
  | .looking =>
      some (state.setSend thread
        (if state.isNothingToSend then .releasing .recheck else .starting))
  | .starting =>
      some ({ state with reservedSendPacketInfo := none }.setSend thread
        (.building state.reservedSendPacketInfo))
  | .building held => state.buildStep thread held choice
  | .full => state.finishStep thread choice
  | .releasing after =>
      some ({ state with ioMode := .ioNoneSending }.setSend thread
        after.resume)
  | .rechecking =>
      some (state.setSend thread
        (if state.isNothingToSend then .returned true else .contending))

/-- The next step of the retransmission thread: `ProcessRetransmission` and
`MultiSocketRUDPCore::SendPacket`. -/
def retransmissionStep (state : State) (exceeded : Bool) : Option State :=
  match state.retransmission with
  | .waiting => none
  | .taken info =>
      some { state with
        retransmission :=
          if state.isErasedPacketInfo info.number || exceeded then .waiting
          else .calling info }
  | .calling info =>
      some { state with
        retransmission :=
          if state.isOwnerValid info then .validated info else .waiting }
  | .validated info =>
      some { state with
        retransmission :=
          if state.nowInReleaseThread then .waiting else .ready info }
  | .ready info =>
      some ({ (state.pushSendPacketInfo info) with
        retransmission := .sending info }.setSend .retransmission .entering)
  | .sending _ =>
      match state.doSends .retransmission with
      | .returned _ =>
          some ({ state with retransmission := .waiting }.setSend
            .retransmission .outside)
      | _ => none

/-- The next step of the worker that completes sends: `IOCompleted` and
`SendIOCompleted`. -/
def completionStep (state : State) (succeeded : Bool) : Option State :=
  match state.completion with
  | .waiting => none
  | .dequeued generation =>
      some { state with
        completion :=
          if generation = state.sessionGeneration then .storing
          else .waiting }
  | .storing =>
      some { state with
        ioMode := .ioNoneSending
        completion := if succeeded then .testing else .waiting }
  | .testing =>
      some (if state.nowInReleaseThread then
          { state with completion := .waiting }
        else
          { state with completion := .sending }.setSend .completion .entering)
  | .sending =>
      match state.doSends .completion with
      | .returned _ =>
          some ({ state with completion := .waiting }.setSend .completion
            .outside)
      | _ => none

end State

/-! ## The transition system -/

/-- One step of one thread. -/
inductive Label
  /-- The broker takes the session from the pool. -/
  | acquire
  /-- The broker reserves the session. -/
  | reserve
  /-- `TryConnect` succeeds. -/
  | connect
  /-- Some thread disconnects the session. -/
  | disconnect
  /-- The release moves on. -/
  | release
  /-- `DoRecv` posts a receive. -/
  | post
  /-- A receive ends without a packet to handle. -/
  | discard
  /-- `TryDispatchRecvPacket` finds the session not releasing. -/
  | dispatch
  /-- A send call finds the session connected. -/
  | begin (index : Nat)
  | call (caller : Caller) (choice : CallChoice)
  | send (thread : Thread) (choice : SendChoice)
  /-- The retransmission thread takes a due packet. -/
  | takeDue (info : SendPacketInfo)
  | retransmit (exceeded : Bool)
  /-- A send completes. -/
  | dequeue (generation : BitVec 32)
  | complete (succeeded : Bool)
  deriving DecidableEq, Repr

/-- The effect of a step. -/
def step (state : State) : Label → Option State
  | .acquire =>
      if state.stage = .pooled then some (state.setStage .handedOut) else none
  | .reserve =>
      if state.stage = .handedOut then some (state.setStage .reserved)
      else none
  | .connect =>
      if state.stage = .reserved ∧ state.calls .receiver = .handling then
        some ({ state with stage := .connected, connectedOnce := true }.setCall
          .receiver .handled)
      else none
  | .disconnect =>
      if state.stage = .reserved ∨ state.stage = .connected then
        some (state.setStage .releasing)
      else none
  | .release => state.releaseStep
  | .post =>
      if state.stage.acceptsReceives then
        some { state with receives := state.receives + 1 }
      else none
  | .discard =>
      if state.receives ≠ 0 then
        some { state with receives := state.receives - 1 }
      else none
  | .dispatch =>
      if state.receives ≠ 0 ∧ state.calls .receiver = .idle ∧
          state.nowInReleaseThread = false then
        some ({ state with receives := state.receives - 1 }.setCall .receiver
          .handling)
      else none
  | .begin index =>
      if state.stage = .connected ∧ state.calls (.sender index) = .idle then
        some (state.setCall (.sender index) (.tested state.epoch))
      else none
  | .call caller choice => state.callStep caller choice
  | .send thread choice => state.sendStep thread choice
  | .takeDue info =>
      if info ∈ state.scheduled ∧ state.retransmission = .waiting then
        some { state with
          scheduled := state.scheduled.erase info
          retransmission := .taken info }
      else none
  | .retransmit exceeded => state.retransmissionStep exceeded
  | .dequeue generation =>
      if generation ∈ state.sendsInFlight ∧ state.completion = .waiting then
        some { state with
          sendsInFlight := state.sendsInFlight.erase generation
          completion := .dequeued generation }
      else none
  | .complete succeeded => state.completionStep succeeded

/-- A session that `CreateSessionPool` has initialized. -/
def initial : State where
  stage := .pooled
  sessionGeneration := 1
  epoch := 1
  connectedOnce := false
  lastSendPacketSequence := 0
  sendPacketInfoMap := fun _ => none
  sendPacketInfoQueue := []
  reservedSendPacketInfo := none
  pendingPacketQueue := []
  isErasedPacketInfo := fun _ => false
  packetsMade := 0
  ioMode := .ioNoneSending
  sendsInFlight := []
  receives := 0
  calls := fun _ => .idle
  doSends := fun _ => .outside
  scheduled := []
  retransmission := .waiting
  completion := .waiting

/-- A session object with all threads that send on it. -/
def system : TransitionSystem State Label where
  Initial state := state = initial
  step := step

/-! ## Isolation -/

/-- The packet belongs to the present turn of the session. -/
def State.Owns (state : State) (info : SendPacketInfo) : Prop :=
  info.ownerGeneration = state.sessionGeneration ∧
    info.origin = state.epoch

/-- Nothing is kept of packets that are sent. -/
structure State.Untouched (state : State) : Prop where
  sendPacketInfoMap : state.sendPacketInfoMap = fun _ => none
  sendPacketInfoQueue : state.sendPacketInfoQueue = []
  reservedSendPacketInfo : state.reservedSendPacketInfo = none
  pendingPacketQueue : state.pendingPacketQueue = []
  lastSendPacketSequence : state.lastSendPacketSequence = 0

/-- Only packets of the present turn are kept, and none before the session is
connected in it. -/
structure Isolated (state : State) : Prop where
  registered : ∀ packetSequence info,
    state.sendPacketInfoMap packetSequence = some info → state.Owns info
  queued : ∀ info ∈ state.sendPacketInfoQueue, state.Owns info
  reserved : ∀ info ∈ state.reservedSendPacketInfo, state.Owns info
  untouched :
    state.stage.beingInitialized = false →
    state.connectedOnce = false →
    state.Untouched

end Generations
end MultiSocketRudp
