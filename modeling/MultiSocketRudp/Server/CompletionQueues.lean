import MultiSocketRudp.Server.ReceiveSlots
import MultiSocketRudp.Server.SessionRelease
import Mathlib.Algebra.BigOperators.Group.Finset.Basic

/-!
# Completion queues

`RIOManager::Initialize` gives every IO worker a completion queue and sizes it
for the sessions of the worker.  A queue holds every receive and every send that
is posted by one of these sessions and not dequeued yet.

The sessions and their release are those of `SessionRelease`, with the free
receive contexts of each session beside them.  A context leaves the free queue
before its receive is posted.  It is back in the free queue at the earliest moment
at which the source can put it back, and a thread may find the queue empty at any
time, so that a thread which puts the context back later is covered.
-/

namespace MultiSocketRudp
namespace CompletionQueues

open TransitionSystems
open SessionRelease hiding State step initial system

/-! ## The size of a queue -/

/-- `size_t`. -/
abbrev Size := BitVec 64

/-- `MAX_COMPLETIONS_PER_SESSION`. -/
def maxCompletionsPerSession : Size :=
  BitVec.ofNat 64 (ReceiveSlots.recvOutstandingCount + 1)

/-- `(std::numeric_limits<ULONG>::max)()`. -/
def ulongMax : Size := 0xFFFFFFFF

/-- `sessionsPerWorker`. -/
def sessionsPerWorker (numOfSockets numOfWorkerThreads : Size) : Size :=
  numOfSockets / numOfWorkerThreads +
    if numOfSockets % numOfWorkerThreads ≠ 0 then 1 else 0

/-- `RIOManager::Initialize`: the `ULONG` that becomes the size of each queue. -/
def rioManagerInitialize
    (numOfSockets numOfWorkerThreads : Size) : Option (BitVec 32) :=
  if numOfSockets = 0 ∨ numOfWorkerThreads = 0 then none
  else if sessionsPerWorker numOfSockets numOfWorkerThreads >
      ulongMax / maxCompletionsPerSession then none
  else
    some ((sessionsPerWorker numOfSockets numOfWorkerThreads *
      maxCompletionsPerSession).setWidth 32)

/-! ## Posted requests -/

/-- The sessions of a server, and how many receive contexts of each are free. -/
structure State where
  server : SessionRelease.State
  freeRecvContexts : SessionId → Nat

/-- The free contexts of a session after a step of one of its threads. -/
def contextsAfter (session : Session) (free : Nat) : Action → Option Nat
  | .reserve => some ReceiveSlots.recvOutstandingCount
  | .recv caller succeeds =>
      match session.doRecvs caller with
      | .looping =>
          if succeeds then if free = 0 then none else some (free - 1)
          else some free
      | .posting _ => some (if succeeds then free else free + 1)
      | _ => some free
  | .io succeeded dropped =>
      match session.ioWorker with
      | .received generation =>
          some (if generation ≠ session.sessionGeneration ∨
              succeeded = false ∨ dropped = true then free + 1
            else free)
      | .delivering _ => some (free + 1)
      | _ => some free
  | _ => some free

/-- The effect of a step. -/
def step (state : State) : Label → Option State
  | .act id action =>
      (contextsAfter (state.server.sessions id) (state.freeRecvContexts id)
        action).bind fun free =>
          (SessionRelease.step state.server (.act id action)).map fun server =>
            { server := server
              freeRecvContexts :=
                Function.update state.freeRecvContexts id free }
  | label =>
      (SessionRelease.step state.server label).map fun server =>
        { state with server := server }

/-- A server before its first reservation. -/
def initial : State where
  server := SessionRelease.initial
  freeRecvContexts _ := 0

/-- The sessions of a server with all threads that work for them. -/
def system : TransitionSystem State Label where
  Initial state := state = initial
  step := step

/-- The requests of a session that are posted and not dequeued. -/
def requests (session : Session) : Nat :=
  session.receivesPosted.length + session.sendsInFlight.length

/-- The requests on a completion queue; `CreateSessionPool` gives a session the
worker of its index modulo the number of workers. -/
def posted
    (state : State) (numOfSockets numOfWorkerThreads queue : Nat) : Nat :=
  ∑ id ∈ (Finset.range numOfSockets).filter
      (fun id => id % numOfWorkerThreads = queue),
    requests (state.server.sessions id)

/-- With queues of the size that `Initialize` gives them, no queue has more
requests than it can hold, and its size is computed without overflow. -/
structure Fits
    (state : State) (numOfSockets numOfWorkerThreads : Size)
    (size : BitVec 32) : Prop where
  exact : size.toNat =
    (numOfSockets.toNat / numOfWorkerThreads.toNat +
        if numOfSockets.toNat % numOfWorkerThreads.toNat ≠ 0 then 1 else 0) *
      (ReceiveSlots.recvOutstandingCount + 1)
  capacity : ∀ queue,
    posted state numOfSockets.toNat numOfWorkerThreads.toNat queue ≤
      size.toNat

/-- No completion queue overflows, however many sessions and workers there are. -/
def NeverOverflows (state : State) : Prop :=
  ∀ numOfSockets numOfWorkerThreads size,
    rioManagerInitialize numOfSockets numOfWorkerThreads = some size →
      Fits state numOfSockets numOfWorkerThreads size

end CompletionQueues
end MultiSocketRudp
