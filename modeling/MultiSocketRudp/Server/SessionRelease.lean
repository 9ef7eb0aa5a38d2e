import MultiSocketRudp.Lib.TransitionSystem
import MultiSocketRudp.Protocol

/-!
# Release of sessions

A session is released in two parts.  `DoDisconnect` and `AbortReservedSession`
win the state machine, raise the release flag and put the session into the
release list.  The release thread takes the list, shuts the session down, tests
whether its IO has drained, tests both again in `Disconnect`, and returns the
session to the pool.

Every load, store, compare-and-swap and lock section is one step.  Each session
has its own IO worker and logic worker, its broker, and any number of threads
that call `DoSend`; the release thread serves all sessions.  What is received,
sent and waited for, and when a free receive context is left, are left open.
-/

namespace MultiSocketRudp
namespace SessionRelease

open TransitionSystems

/-- `SessionIdType`. -/
abbrev SessionId := Nat

/-! ## Threads of one session -/

/-- The threads that call `DoRecv`. -/
inductive RecvCaller
  /-- The broker, from `InitReserveSession`. -/
  | broker
  /-- The IO worker, from `RecvIOCompleted`. -/
  | worker
  deriving DecidableEq, Repr

/-- Where a thread stands inside `DoRecv`. -/
inductive RecvPc
  | outside
  /-- About to take the shared socket lock. -/
  | entering
  /-- About to test `IsReleasing`. -/
  | locked
  /-- About to test the socket. -/
  | tested
  /-- About to acquire a free receive context. -/
  | looping
  /-- `BeginRecvIo` has counted a receive that is about to be posted. -/
  | posting (generation : BitVec 32)
  deriving DecidableEq, Repr

/-- The threads that call `DoSend`. -/
inductive SendCaller
  /-- A thread that runs `MultiSocketRUDPCore::SendPacket`. -/
  | thread (index : Nat)
  /-- The IO worker, from `SendIOCompleted`. -/
  | worker
  deriving DecidableEq, Repr

/-- Where a thread stands inside `DoSend`. -/
inductive SendPc
  | outside
  /-- About to test `IsReleasing`. -/
  | entering
  /-- About to compare and swap the IO mode. -/
  | contending
  /-- The send path is taken; about to test `IsReleasing` again. -/
  | testing
  /-- Making a datagram. -/
  | streaming
  /-- About to free the send path, and to try again or not. -/
  | releasing (again : Bool)
  deriving DecidableEq, Repr

/-- Where the IO worker stands. -/
inductive IoPc
  | idle
  /-- `BeginIOCompletion` has counted a receive of this generation. -/
  | received (generation : BitVec 32)
  /-- `EnqueueContextResult` is about to hand the packet over. -/
  | delivering (generation : BitVec 32)
  /-- `ReleaseRecvContext` is about to count the receive as ended. -/
  | releasing (again : Bool)
  /-- Inside `DoRecv`. -/
  | receiving
  /-- `BeginIOCompletion` has counted a send of this generation. -/
  | sent (generation : BitVec 32)
  /-- About to free the send path. -/
  | storing (succeeded : Bool)
  /-- `SendIOCompleted` is about to test `IsReleasing`. -/
  | testing
  /-- Inside `DoSend`. -/
  | sending
  /-- About to run `CompleteIOCompletion`. -/
  | ending
  deriving DecidableEq, Repr

/-- Where the logic worker stands. -/
inductive LogicPc
  | idle
  /-- `TryDispatchRecvPacket` is about to compare the generation. -/
  | dequeued (generation : BitVec 32)
  /-- It is about to test `IsReleasing`. -/
  | tested
  /-- It is about to store that a packet is processed. -/
  | starting
  /-- Inside `OnRecvPacket`. -/
  | processing
  /-- About to run `CompleteRecvLogic`. -/
  | completing
  deriving DecidableEq, Repr

/-- Where the thread stands that has won the release. -/
inductive ReleaserPc
  | idle
  /-- `DoDisconnect` is about to store the reason. -/
  | won (reason : DisconnectReason)
  /-- `DoDisconnect` is about to raise the flag. -/
  | reasoned
  /-- `AbortReservedSession` is about to raise the flag. -/
  | aborted
  /-- `AbortReservedSession` is about to store the reason. -/
  | flagged
  /-- `PushToDisconnectTargetSession` is about to take the list lock. -/
  | pushing
  deriving DecidableEq, Repr

/-- Who has the session. -/
inductive Place
  | unused
  /-- The broker, before it reserves the session. -/
  | handedOut
  | inUse
  deriving DecidableEq, Repr

/-! ## Hooks -/

/-- What happens to a session once in every turn. -/
inductive Hook
  | onDisconnected
  | socketClosed
  | rioCleaned
  | onReleased
  | returned
  deriving DecidableEq, Repr

/-- Why a turn ends, and what has happened in it, in order. -/
structure Turn where
  reason : DisconnectReason
  hooks : List Hook
  deriving DecidableEq, Repr

/-- Hooks up to the closed socket. -/
def shutdownHooks (reason : DisconnectReason) : List Hook :=
  if reason = .byAbortReserved then [.socketClosed]
  else [.onDisconnected, .socketClosed]

/-- Hooks from the cleanup to the return to the pool. -/
def releaseHooks (reason : DisconnectReason) : List Hook :=
  if reason = .byAbortReserved then [.rioCleaned, .returned]
  else [.rioCleaned, .onReleased, .returned]

/-- Hooks of a whole turn. -/
def allHooks (reason : DisconnectReason) : List Hook :=
  shutdownHooks reason ++ releaseHooks reason

/-! ## One session -/

/-- A session with the threads that work for it. -/
structure Session where
  place : Place
  sessionState : SessionState
  nowInReleaseThread : Bool
  disconnectedReason : DisconnectReason
  ioShutdownStarted : Bool
  socketOpen : Bool
  sessionGeneration : BitVec 32
  outstandingRecvIo : Nat
  pendingRecvLogic : Nat
  nowInProcessingRecvPacket : Bool
  activeIOCompletions : Nat
  ioMode : IoMode
  /-- Generations of the posted receives. -/
  receivesPosted : List (BitVec 32)
  /-- Generations of the datagrams handed to the network. -/
  sendsInFlight : List (BitVec 32)
  /-- Generations of the packets that wait for the logic worker. -/
  recvLogicQueue : List (BitVec 32)
  doRecvs : RecvCaller → RecvPc
  doSends : SendCaller → SendPc
  ioWorker : IoPc
  logicWorker : LogicPc
  releaser : ReleaserPc
  /-- The present turn. -/
  turn : Turn
  /-- The turns that have ended, latest first. -/
  turns : List Turn

/-- What one step of a session's threads does. -/
inductive Action
  /-- The broker takes the session from the pool. -/
  | acquire
  /-- `InitReserveSession` reserves it, up to the call of `DoRecv`. -/
  | reserve
  /-- `TryConnect` succeeds. -/
  | connect
  /-- `DoDisconnect` wins the state machine. -/
  | disconnect (reason : DisconnectReason)
  /-- `AbortReservedSession` wins the state machine. -/
  | abort
  /-- The winner stores the flag or the reason. -/
  | releaser
  /-- `DoRecv` moves on, and succeeds or not where that is open. -/
  | recv (caller : RecvCaller) (succeeds : Bool)
  /-- A thread calls `DoSend`. -/
  | enterSend (index : Nat)
  /-- `DoSend` moves on; a datagram goes out or the send path is freed. -/
  | send (caller : SendCaller) (transmits : Bool) (again : Bool)
  /-- A receive completes. -/
  | completeRecv (generation : BitVec 32)
  /-- A send completes. -/
  | completeSend (generation : BitVec 32)
  /-- The IO worker moves on; the operation succeeded or not, and a received
  datagram is dropped by the loss simulator or not. -/
  | io (succeeded : Bool) (dropped : Bool)
  /-- The logic worker takes a packet. -/
  | dequeue
  /-- The logic worker moves on. -/
  | logic
  deriving DecidableEq, Repr

namespace RecvPc

/-- The thread holds the shared socket lock. -/
def holdsLock : RecvPc → Bool
  | .outside | .entering => false
  | _ => true

end RecvPc

namespace Session

/-- A hook is called. -/
def call (session : Session) (hook : Hook) : Session :=
  { session with
    turn := { session.turn with hooks := session.turn.hooks ++ [hook] } }

/-- A thread moves on inside `DoRecv`. -/
def setRecv (session : Session) (caller : RecvCaller) (pc : RecvPc) :
    Session :=
  { session with doRecvs := Function.update session.doRecvs caller pc }

/-- A thread moves on inside `DoSend`. -/
def setSend (session : Session) (caller : SendCaller) (pc : SendPc) :
    Session :=
  { session with doSends := Function.update session.doSends caller pc }

/-- The next store of the thread that has won the release. -/
def releaserStep (session : Session) : Option Session :=
  match session.releaser with
  | .won reason =>
      some { session with
        disconnectedReason := reason
        turn := { session.turn with reason := reason }
        releaser := .reasoned }
  | .reasoned =>
      some { session with nowInReleaseThread := true, releaser := .pushing }
  | .aborted =>
      some { session with nowInReleaseThread := true, releaser := .flagged }
  | .flagged =>
      some { session with
        disconnectedReason := .byAbortReserved
        turn := { session.turn with reason := .byAbortReserved }
        releaser := .pushing }
  | _ => none

/-- The next step of a thread inside `DoRecv`. -/
def recvStep
    (session : Session) (caller : RecvCaller) (succeeds : Bool) :
    Option Session :=
  match session.doRecvs caller with
  | .outside => none
  | .entering => some (session.setRecv caller .locked)
  | .locked =>
      some (session.setRecv caller
        (if session.nowInReleaseThread then .outside else .tested))
  | .tested =>
      some (session.setRecv caller
        (if session.socketOpen then .looping else .outside))
  | .looping =>
      some (if succeeds then
          { session with
            outstandingRecvIo := session.outstandingRecvIo + 1 }.setRecv caller
            (.posting session.sessionGeneration)
        else session.setRecv caller .outside)
  | .posting generation =>
      some (if succeeds then
          { session with
            receivesPosted := generation :: session.receivesPosted }.setRecv
            caller .looping
        else
          { session with
            outstandingRecvIo := session.outstandingRecvIo - 1 }.setRecv caller
            .outside)

/-- The next step of a thread inside `DoSend`. -/
def sendStep
    (session : Session) (caller : SendCaller) (transmits again : Bool) :
    Option Session :=
  match session.doSends caller with
  | .outside => none
  | .entering =>
      some (session.setSend caller
        (if session.nowInReleaseThread then .outside else .contending))
  | .contending =>
      some (if session.ioMode = .ioNoneSending then
          { session with ioMode := .ioSending }.setSend caller .testing
        else session.setSend caller .outside)
  | .testing =>
      some (session.setSend caller
        (if session.nowInReleaseThread then .releasing false
          else .streaming))
  | .streaming =>
      -- `TryRIOSend` finds the socket closed, or the datagram goes out.
      some (if transmits && session.socketOpen then
          { session with
            sendsInFlight :=
              session.sessionGeneration :: session.sendsInFlight }.setSend
            caller .outside
        else session.setSend caller (.releasing again))
  | .releasing again =>
      some ({ session with ioMode := .ioNoneSending }.setSend caller
        (if again then .contending else .outside))

/-- The next step of the IO worker. -/
def ioStep (session : Session) (succeeded dropped : Bool) : Option Session :=
  match session.ioWorker with
  | .idle => none
  | .received generation =>
      some { session with
        ioWorker :=
          if generation ≠ session.sessionGeneration ∨ succeeded = false then
            .releasing false
          else if dropped then .releasing true
          else .delivering generation }
  | .delivering generation =>
      some { session with
        pendingRecvLogic := session.pendingRecvLogic + 1
        recvLogicQueue := session.recvLogicQueue ++ [generation]
        ioWorker := .releasing true }
  | .releasing again =>
      some (if again then
          { session with
            outstandingRecvIo := session.outstandingRecvIo - 1
            ioWorker := .receiving }.setRecv .worker .entering
        else
          { session with
            outstandingRecvIo := session.outstandingRecvIo - 1
            ioWorker := .ending })
  | .receiving =>
      if session.doRecvs .worker = .outside then
        some { session with ioWorker := .ending }
      else none
  | .sent generation =>
      some { session with
        ioWorker :=
          if generation ≠ session.sessionGeneration then .ending
          else .storing succeeded }
  | .storing succeeded =>
      some { session with
        ioMode := .ioNoneSending
        ioWorker := if succeeded then .testing else .ending }
  | .testing =>
      some (if session.nowInReleaseThread then
          { session with ioWorker := .ending }
        else { session with ioWorker := .sending }.setSend .worker .entering)
  | .sending =>
      if session.doSends .worker = .outside then
        some { session with ioWorker := .ending }
      else none
  | .ending =>
      some { session with
        activeIOCompletions := session.activeIOCompletions - 1
        ioWorker := .idle }

/-- The next step of the logic worker: `TryDispatchRecvPacket` and
`CompleteRecvIOCompletedContext`. -/
def logicStep (session : Session) : Option Session :=
  match session.logicWorker with
  | .idle => none
  | .dequeued generation =>
      some { session with
        logicWorker :=
          if generation = session.sessionGeneration then .tested
          else .completing }
  | .tested =>
      some { session with
        logicWorker :=
          if session.nowInReleaseThread then .completing else .starting }
  | .starting =>
      some { session with
        nowInProcessingRecvPacket := true
        logicWorker := .processing }
  | .processing =>
      some { session with
        nowInProcessingRecvPacket := false
        logicWorker := .completing }
  | .completing =>
      some { session with
        pendingRecvLogic := session.pendingRecvLogic - 1
        logicWorker := .idle }

/-- The effect of one step of the session's threads. -/
def act (session : Session) : Action → Option Session
  | .acquire =>
      if session.place = .unused then
        some { session with place := .handedOut }
      else none
  | .reserve =>
      if session.place = .handedOut ∧ session.doRecvs .broker = .outside then
        some ({ session with
          place := .inUse
          sessionState := .reserved
          socketOpen := true }.setRecv .broker .entering)
      else none
  | .connect =>
      if session.logicWorker = .processing ∧
          session.sessionState.tryTransitionToConnected.1 then
        some { session with
          sessionState := session.sessionState.tryTransitionToConnected.2 }
      else none
  | .disconnect reason =>
      if session.sessionState.tryTransitionToReleasing.1 then
        some { session with
          sessionState := session.sessionState.tryTransitionToReleasing.2
          releaser := .won reason }
      else none
  | .abort =>
      if session.sessionState.tryAbortReserved.1 then
        some { session with
          sessionState := session.sessionState.tryAbortReserved.2
          releaser := .aborted }
      else none
  | .releaser => session.releaserStep
  | .recv caller succeeds => session.recvStep caller succeeds
  | .enterSend index =>
      if session.doSends (.thread index) = .outside then
        some (session.setSend (.thread index) .entering)
      else none
  | .send caller transmits again => session.sendStep caller transmits again
  | .completeRecv generation =>
      if generation ∈ session.receivesPosted ∧ session.ioWorker = .idle then
        some { session with
          receivesPosted := session.receivesPosted.erase generation
          activeIOCompletions := session.activeIOCompletions + 1
          ioWorker := .received generation }
      else none
  | .completeSend generation =>
      if generation ∈ session.sendsInFlight ∧ session.ioWorker = .idle then
        some { session with
          sendsInFlight := session.sendsInFlight.erase generation
          activeIOCompletions := session.activeIOCompletions + 1
          ioWorker := .sent generation }
      else none
  | .io succeeded dropped => session.ioStep succeeded dropped
  | .dequeue =>
      match session.recvLogicQueue, session.logicWorker with
      | generation :: queue, .idle =>
          some { session with
            recvLogicQueue := queue
            logicWorker := .dequeued generation }
      | _, _ => none
  | .logic => session.logicStep

end Session

/-! ## The release thread -/

/-- `TryFinalizeSessionRelease` shuts down and tests the session, and
`Disconnect` does both again. -/
inductive Round
  | first
  | second
  deriving DecidableEq, Repr

/-- Where the release thread stands with a session. -/
inductive ReleasePc
  /-- `GetReleasingSession` is about to test `IsReleasing`. -/
  | finding
  /-- `BeginIOShutdown` is about to test whether it has already begun. -/
  | shutdownStarted (round : Round)
  /-- It is about to look for receive logic. -/
  | shutdownLogic (round : Round)
  /-- It is about to look for a packet that is processed. -/
  | shutdownProcessing (round : Round)
  /-- It is about to compare and swap. -/
  | shutdownSwapping (round : Round)
  /-- It is about to call `OnDisconnected`. -/
  | shutdownNotifying (round : Round)
  /-- It is about to close the socket. -/
  | shutdownClosing (round : Round)
  /-- `CanFinalizeIO` is about to load the outstanding receives. -/
  | drainReceives (round : Round)
  /-- It is about to load the pending receive logic. -/
  | drainLogic (round : Round)
  /-- It is about to load the IO mode. -/
  | drainMode (round : Round)
  /-- It is about to load the active completions. -/
  | drainCompletions (round : Round)
  /-- It is about to look for a packet that is processed. -/
  | drainProcessing (round : Round)
  /-- `Disconnect` is about to test the state machine. -/
  | stateTest
  /-- `FinalizeRIOCleanup` is about to run. -/
  | cleaning
  /-- `OnReleased` is about to be called. -/
  | releasing
  /-- `ReleaseSession` is about to test the state machine and the pool. -/
  | poolTest
  /-- `InitializeSession` is about to increment the generation. -/
  | incrementing
  /-- It is about to lower the release flag. -/
  | lowering
  /-- It is about to reset the flags and the count of the IO. -/
  | resetting
  /-- `SessionSendContext::Reset` is about to free the send path. -/
  | resettingMode
  /-- `InitializeSession` is about to reset the reason. -/
  | resettingReason
  /-- It is about to reset the state machine. -/
  | resettingState
  /-- `ReleaseSession` is about to put the session into the pool. -/
  | returning
  deriving DecidableEq, Repr

/-- How the release thread goes on with a session. -/
inductive Verdict
  | next (pc : ReleasePc)
  /-- `TryFinalizeSessionRelease` returns true. -/
  | settled
  /-- `TryFinalizeSessionRelease` returns false. -/
  | remaining
  deriving DecidableEq, Repr

/-- What follows a failed drain test. -/
def Round.undrained : Round → Verdict
  | .first => .remaining
  | .second => .settled

/-- What follows a passed drain test. -/
def Round.drained : Round → ReleasePc
  | .first => .stateTest
  | .second => .cleaning

namespace Session

/-- `CloseSocket`, under the exclusive socket lock. -/
def closeSocket (session : Session) : Session :=
  if session.socketOpen then
    { session with socketOpen := false }.call .socketClosed
  else session

/-- The hook is called unless the session was aborted. -/
def callUnlessAborted (session : Session) (hook : Hook) : Session :=
  if session.disconnectedReason = .byAbortReserved then session
  else session.call hook

/-- The next step of the release thread with a session. -/
def releaseStep (session : Session) : ReleasePc → Option (Session × Verdict)
  | .finding =>
      some (session,
        if session.nowInReleaseThread then .next (.shutdownStarted .first)
        else .settled)
  | .shutdownStarted round =>
      some (session,
        if session.ioShutdownStarted then .next (.drainReceives round)
        else .next (.shutdownLogic round))
  | .shutdownLogic round =>
      some (session,
        if session.pendingRecvLogic ≠ 0 then .next (.drainReceives round)
        else .next (.shutdownProcessing round))
  | .shutdownProcessing round =>
      some (session,
        if session.nowInProcessingRecvPacket then .next (.drainReceives round)
        else .next (.shutdownSwapping round))
  | .shutdownSwapping round =>
      if session.ioShutdownStarted then
        some (session, .next (.drainReceives round))
      else
        some ({ session with ioShutdownStarted := true },
          .next (.shutdownNotifying round))
  | .shutdownNotifying round =>
      some (session.callUnlessAborted .onDisconnected,
        .next (.shutdownClosing round))
  | .shutdownClosing round =>
      if (session.doRecvs .broker).holdsLock ||
          (session.doRecvs .worker).holdsLock then none
      else some (session.closeSocket, .next (.drainReceives round))
  | .drainReceives round =>
      some (session,
        if session.outstandingRecvIo = 0 then .next (.drainLogic round)
        else round.undrained)
  | .drainLogic round =>
      some (session,
        if session.pendingRecvLogic = 0 then .next (.drainMode round)
        else round.undrained)
  | .drainMode round =>
      some (session,
        if session.ioMode = .ioNoneSending then .next (.drainCompletions round)
        else round.undrained)
  | .drainCompletions round =>
      some (session,
        if session.activeIOCompletions = 0 then .next (.drainProcessing round)
        else round.undrained)
  | .drainProcessing round =>
      some (session,
        if session.nowInProcessingRecvPacket then round.undrained
        else .next round.drained)
  | .stateTest =>
      some (session,
        if session.sessionState = .releasing then
          .next (.shutdownStarted .second)
        else .settled)
  | .cleaning => some (session.call .rioCleaned, .next .releasing)
  | .releasing => some (session.callUnlessAborted .onReleased, .next .poolTest)
  | .poolTest =>
      some (session,
        if session.sessionState = .releasing ∧ session.place ≠ .unused then
          .next .incrementing
        else .settled)
  | .incrementing =>
      some ({ session with
        sessionGeneration := session.sessionGeneration + 1 }, .next .lowering)
  | .lowering =>
      some ({ session with nowInReleaseThread := false }, .next .resetting)
  | .resetting =>
      some ({ session with
        nowInProcessingRecvPacket := false
        ioShutdownStarted := false
        activeIOCompletions := 0 }, .next .resettingMode)
  | .resettingMode =>
      some ({ session with ioMode := .ioNoneSending }, .next .resettingReason)
  | .resettingReason =>
      some ({ session with disconnectedReason := .notDisconnected },
        .next .resettingState)
  | .resettingState =>
      some ({ session with sessionState := .disconnected }, .next .returning)
  | .returning =>
      some ({ session with
        place := .unused
        turn := ⟨.notDisconnected, []⟩
        turns := (session.call .returned).turn :: session.turns }, .settled)

end Session

/-- Where the release thread stands. -/
inductive ThreadPc
  /-- Waiting for the release event. -/
  | waiting
  /-- About to take the next session of the batch. -/
  | choosing
  /-- Dealing with the first session of the batch. -/
  | dealing (pc : ReleasePc)
  /-- `RequeueReleaseSessionIds` is about to take the list lock. -/
  | requeuing
  deriving DecidableEq, Repr

/-! ## All sessions -/

/-- The sessions of a server and its release thread. -/
structure State where
  sessions : SessionId → Session
  releaseSessionIdList : List SessionId
  /-- What is left of the batch, the present session first. -/
  batch : List SessionId
  remainList : List SessionId
  pc : ThreadPc

namespace State

/-- A session changes. -/
def setSession (state : State) (id : SessionId) (session : Session) : State :=
  { state with sessions := Function.update state.sessions id session }

/-- Where the release thread stands with this session. -/
def pcOf (state : State) (id : SessionId) : Option ReleasePc :=
  match state.pc with
  | .dealing pc => if state.batch.head? = some id then some pc else none
  | _ => none

/-- `PushToDisconnectTargetSession`. -/
def push (state : State) (id : SessionId) : Option State :=
  if (state.sessions id).releaser = .pushing then
    some { (state.setSession id
      { state.sessions id with
        nowInReleaseThread := true
        releaser := .idle }) with
      releaseSessionIdList := state.releaseSessionIdList ++ [id] }
  else none

/-- The release thread goes on with the first session of the batch. -/
def proceed
    (state : State) (id : SessionId) (rest : List SessionId) :
    Session × Verdict → State
  | (session, .next pc) =>
      { (state.setSession id session) with pc := .dealing pc }
  | (session, .settled) =>
      { (state.setSession id session) with batch := rest, pc := .choosing }
  | (session, .remaining) =>
      { (state.setSession id session) with
        batch := rest
        remainList := state.remainList ++ [id]
        pc := .choosing }

/-- The next step of the release thread. -/
def releaseThread (state : State) : Option State :=
  match state.pc with
  | .waiting =>
      some { state with
        batch := state.releaseSessionIdList
        releaseSessionIdList := []
        pc := .choosing }
  | .choosing =>
      match state.batch with
      | [] => some { state with pc := .requeuing }
      | _ :: _ => some { state with pc := .dealing .finding }
  | .dealing pc =>
      match state.batch with
      | [] => none
      | id :: rest =>
          ((state.sessions id).releaseStep pc).map (state.proceed id rest)
  | .requeuing =>
      some { state with
        releaseSessionIdList := state.releaseSessionIdList ++ state.remainList
        remainList := []
        pc := .waiting }

end State

/-- One step of one thread. -/
inductive Label
  | act (id : SessionId) (action : Action)
  | push (id : SessionId)
  | release
  deriving DecidableEq, Repr

/-- The effect of a step. -/
def step (state : State) : Label → Option State
  | .act id action =>
      ((state.sessions id).act action).map (state.setSession id)
  | .push id => state.push id
  | .release => state.releaseThread

/-- A session that `CreateSessionPool` has initialized. -/
def initialSession : Session where
  place := .unused
  sessionState := .disconnected
  nowInReleaseThread := false
  disconnectedReason := .notDisconnected
  ioShutdownStarted := false
  socketOpen := false
  sessionGeneration := 1
  outstandingRecvIo := 0
  pendingRecvLogic := 0
  nowInProcessingRecvPacket := false
  activeIOCompletions := 0
  ioMode := .ioNoneSending
  receivesPosted := []
  sendsInFlight := []
  recvLogicQueue := []
  doRecvs := fun _ => .outside
  doSends := fun _ => .outside
  ioWorker := .idle
  logicWorker := .idle
  releaser := .idle
  turn := ⟨.notDisconnected, []⟩
  turns := []

/-- A server with an idle release thread. -/
def initial : State where
  sessions := fun _ => initialSession
  releaseSessionIdList := []
  batch := []
  remainList := []
  pc := .waiting

/-- The sessions of a server with all threads that work for them. -/
def system : TransitionSystem State Label where
  Initial state := state = initial
  step := step

/-! ## What the release promises -/

/-- Every releasing session whose push has completed is where the release thread
will find it. -/
def NothingForgotten (state : State) : Prop :=
  ∀ id, (state.sessions id).sessionState = .releasing →
    (state.sessions id).releaser = .idle →
    id ∈ state.releaseSessionIdList ∨ id ∈ state.batch ∨
      id ∈ state.remainList

/-- No operation of the session is under way. -/
structure Session.Drained (session : Session) : Prop where
  outstandingRecvIo : session.outstandingRecvIo = 0
  receivesPosted : session.receivesPosted = []
  pendingRecvLogic : session.pendingRecvLogic = 0
  recvLogicQueue : session.recvLogicQueue = []
  logicWorker : session.logicWorker = .idle
  activeIOCompletions : session.activeIOCompletions = 0
  ioWorker : session.ioWorker = .idle
  ioMode : session.ioMode = .ioNoneSending
  sendsInFlight : session.sendsInFlight = []

/-- A session is cleaned up only when it is drained, and in every turn the hooks
are called once each in their order. -/
structure ReleasedInOrder (state : State) : Prop where
  drained : ∀ id, state.pcOf id = some .cleaning →
    (state.sessions id).Drained
  present : ∀ id,
    (state.sessions id).turn.hooks <+:
      allHooks (state.sessions id).turn.reason
  ended : ∀ id, ∀ turn ∈ (state.sessions id).turns,
    turn.hooks = allHooks turn.reason

end SessionRelease
end MultiSocketRudp
