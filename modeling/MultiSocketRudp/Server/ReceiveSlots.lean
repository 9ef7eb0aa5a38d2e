import MultiSocketRudp.Lib.Tally
import MultiSocketRudp.Lib.TransitionSystem
import MultiSocketRudp.Protocol
import Mathlib.Data.List.Count
import Mathlib.Data.Fintype.Basic
import Mathlib.Data.List.FinRange

/-!
# The receive contexts of a session

A session has a fixed number of receive contexts.  A context waits in the free
queue, or is posted as a receive, or is in the hands of a thread: one that has
taken it in `DoRecv`, or one that handles the completion of its receive.  The
counter of outstanding receives is changed before a context is posted and after
it is put back.

The model begins when the contexts have been put into the free queue and ends
when they are taken away.  Any number of threads run `DoRecv` and completions.
Whether a post succeeds, with what status a receive completes, and which part of
the handling fails, is left open.  The return of the session to the pool
increments its generation and lowers its flag while receives may still be under
way, so that their completions are stale.
-/

namespace MultiSocketRudp
namespace ReceiveSlots

open TransitionSystems Tally

/-- `RECV_OUTSTANDING_COUNT`. -/
def recvOutstandingCount : Nat := 8

/-- A receive context. -/
abbrev Context := Fin recvOutstandingCount

/-- `sessionGeneration`. -/
abbrev Generation := BitVec 32

/-- How the handling of a completed receive ends. -/
inductive Exit
  /-- `HandleStaleCompletion`. -/
  | stale
  /-- `HandleFailedCompletion`; the operation was cancelled or not. -/
  | failed (aborted : Bool)
  /-- The loss simulator drops the datagram. -/
  | dropped
  /-- `NetBuffer::Alloc` fails. -/
  | unallocated
  /-- `memcpy_s` fails. -/
  | uncopied
  /-- `EnqueueContextResult` fails. -/
  | unqueued
  | delivered
  deriving DecidableEq, Repr

/-- The exit belongs to `RecvIOCompleted`. -/
def Exit.ofRecvIoCompleted : Exit → Bool
  | .stale | .failed _ => false
  | .dropped | .unallocated | .uncopied | .unqueued | .delivered => true

/-- Where a thread stands. -/
inductive Call
  | outside
  /-- `DoRecv` is about to take the shared socket lock. -/
  | entering
  /-- It is about to test `IsReleasing`. -/
  | locked
  /-- It is about to test the socket. -/
  | tested
  /-- It is about to take a free context. -/
  | looping
  /-- It has a context and is about to call `BeginRecvIo`. -/
  | acquired (context : Context)
  /-- It is about to post the receive. -/
  | begun (context : Context)
  /-- The post has failed; it is about to put the context back. -/
  | rollingBack (context : Context)
  /-- `IOCompleted` is about to compare the generation. -/
  | completed (context : Context) (failure : Option Bool)
  /-- Inside `RecvIOCompleted`. -/
  | handling (context : Context)
  /-- `ReleaseRecvContext` is about to put the context back. -/
  | releasing (context : Context) (exit : Exit)
  /-- It is about to call `CompleteRecvIo`. -/
  | released (exit : Exit)
  /-- It has returned. -/
  | leaving (exit : Exit)
  /-- The thread is about to report a failure: `DoDisconnect` or the abortion of
  the reservation. -/
  | reporting
  deriving DecidableEq, Repr

namespace Call

/-- The context in the hands of the thread. -/
def context : Call → Option Context
  | .acquired context | .begun context | .rollingBack context
  | .completed context _ | .handling context | .releasing context _ =>
      some context
  | .outside | .entering | .locked | .tested | .looping | .released _
  | .leaving _ | .reporting => none

/-- How often the thread has the context. -/
def holds (context : Context) (call : Call) : Nat :=
  if call.context = some context then 1 else 0

/-- The thread has a context in a completion or past `BeginRecvIo`. -/
def holdsBegun : Call → Nat
  | .begun _ | .rollingBack _ | .completed _ _ | .handling _
  | .releasing _ _ => 1
  | .outside | .entering | .locked | .tested | .looping | .acquired _
  | .released _ | .leaving _ | .reporting => 0

/-- The thread has a context in a completion, or past `BeginRecvIo` and not past
the `CompleteRecvIo` of the rollback. -/
def holdsCounted : Call → Nat
  | .begun _ | .completed _ _ | .handling _ | .releasing _ _ => 1
  | .outside | .entering | .locked | .tested | .looping | .acquired _
  | .rollingBack _ | .released _ | .leaving _ | .reporting => 0

/-- The thread is between the two steps of `ReleaseRecvContext`. -/
def betweenSteps : Call → Nat
  | .released _ => 1
  | .outside | .entering | .locked | .tested | .looping | .acquired _
  | .begun _ | .rollingBack _ | .completed _ _ | .handling _
  | .releasing _ _ | .leaving _ | .reporting => 0

/-- The thread holds the shared socket lock. -/
def holdsLock : Call → Bool
  | .locked | .tested | .looping | .acquired _ | .begun _ | .rollingBack _ =>
      true
  | .outside | .entering | .completed _ _ | .handling _ | .releasing _ _
  | .released _ | .leaving _ | .reporting => false

end Call

/-- The receive side of a session. -/
structure State (Thread : Type) where
  freeRecvContexts : List Context
  /-- The contexts of the posted receives. -/
  posted : List Context
  ownerSessionGeneration : Context → Generation
  outstandingRecvIo : Nat
  /-- `CompleteRecvIo` has found the counter at 0. -/
  underflowed : Bool
  sessionGeneration : Generation
  nowInReleaseThread : Bool
  /-- `ReleaseSession` has called `InitializeSession`: the turn is over. -/
  returned : Bool
  socketOpen : Bool
  calls : Thread → Call
  /-- A call of `DoRecv` has succeeded. -/
  received : Bool
  failureReported : Bool

/-- One step of one thread. -/
inductive Label (Thread : Type)
  /-- A thread calls `DoRecv`. -/
  | doRecv (thread : Thread)
  /-- A posted receive completes and a thread takes the completion. -/
  | complete (thread : Thread) (context : Context) (failure : Option Bool)
  /-- `RecvIOCompleted` comes to one of its exits. -/
  | handle (thread : Thread) (exit : Exit)
  /-- A thread moves on; a post succeeds or not. -/
  | run (thread : Thread) (succeeds : Bool)
  /-- `DoDisconnect` of any thread raises the flag. -/
  | disconnect
  /-- `CloseSocket`, under the exclusive socket lock. -/
  | closeSocket
  /-- `InitializeSession` increments the generation. -/
  | increment
  /-- `InitializeSession` lowers the flag. -/
  | lower
  deriving DecidableEq, Repr

namespace State

variable {Thread : Type} [DecidableEq Thread]

/-- A thread moves on. -/
def setCall (state : State Thread) (thread : Thread) (call : Call) :
    State Thread :=
  { state with calls := Function.update state.calls thread call }

/-- `CompleteRecvIo`. -/
def completeRecvIo (state : State Thread) : State Thread :=
  { state with
    outstandingRecvIo := state.outstandingRecvIo - 1
    underflowed := state.underflowed || state.outstandingRecvIo == 0 }

/-- `RecvBuffer::ReleaseRecvContext`. -/
def releaseRecvContext (state : State Thread) (context : Context) :
    State Thread :=
  { state with freeRecvContexts := state.freeRecvContexts ++ [context] }

/-- The exit of a completed receive, unless `RecvIOCompleted` handles it. -/
def exitOf
    (state : State Thread) (context : Context) (failure : Option Bool) :
    Option Exit :=
  if state.ownerSessionGeneration context ≠ state.sessionGeneration then
    some .stale
  else failure.map .failed

/-- The next step of a thread. -/
def run (state : State Thread) (thread : Thread) (succeeds : Bool) :
    Option (State Thread) :=
  match state.calls thread with
  | .outside | .handling _ => none
  | .entering => some (state.setCall thread .locked)
  | .locked =>
      some (state.setCall thread
        (if state.nowInReleaseThread then .outside else .tested))
  | .tested =>
      some (state.setCall thread
        (if state.socketOpen then .looping else .reporting))
  | .looping =>
      match state.freeRecvContexts with
      | [] => some ({ state with received := true }.setCall thread .outside)
      | context :: rest =>
          some ({ state with freeRecvContexts := rest }.setCall thread
            (.acquired context))
  | .acquired context =>
      some ({ state with
        ownerSessionGeneration :=
          Function.update state.ownerSessionGeneration context
            state.sessionGeneration
        outstandingRecvIo := state.outstandingRecvIo + 1 }.setCall thread
        (.begun context))
  | .begun context =>
      some (if succeeds then
          { state with posted := context :: state.posted }.setCall thread
            .looping
        else state.completeRecvIo.setCall thread (.rollingBack context))
  | .rollingBack context =>
      some ((state.releaseRecvContext context).setCall thread .reporting)
  | .completed context failure =>
      some (state.setCall thread
        (match state.exitOf context failure with
        | some exit => .releasing context exit
        | none => .handling context))
  | .releasing context exit =>
      some ((state.releaseRecvContext context).setCall thread
        (.released exit))
  | .released exit =>
      some (state.completeRecvIo.setCall thread (.leaving exit))
  | .leaving .stale => some (state.setCall thread .outside)
  | .leaving (.failed aborted) =>
      some (state.setCall thread
        (if aborted && state.nowInReleaseThread then .outside else .reporting))
  | .leaving .dropped | .leaving .delivered =>
      some (state.setCall thread .entering)
  | .leaving .unallocated | .leaving .uncopied | .leaving .unqueued =>
      some (state.setCall thread .reporting)
  | .reporting =>
      some ({ state with failureReported := true }.setCall thread .outside)

end State

section System

variable {Thread : Type} [Fintype Thread] [DecidableEq Thread]

/-- The effect of a step. -/
def step (state : State Thread) : Label Thread → Option (State Thread)
  | .doRecv thread =>
      if state.calls thread = .outside then
        some (state.setCall thread .entering)
      else none
  | .complete thread context failure =>
      if state.calls thread = .outside ∧ context ∈ state.posted then
        some ({ state with posted := state.posted.erase context }.setCall thread
          (.completed context failure))
      else none
  | .handle thread exit =>
      match state.calls thread with
      | .handling context =>
          if exit.ofRecvIoCompleted then
            some (state.setCall thread (.releasing context exit))
          else none
      | _ => none
  | .run thread succeeds => state.run thread succeeds
  | .disconnect => some { state with nowInReleaseThread := true }
  | .closeSocket =>
      if ∀ thread, (state.calls thread).holdsLock = false then
        some { state with socketOpen := false }
      else none
  | .increment =>
      if state.nowInReleaseThread then
        some { state with
          sessionGeneration := state.sessionGeneration + 1, returned := true }
      else none
  | .lower =>
      if state.returned then some { state with nowInReleaseThread := false }
      else none

/-- The receive side after `SessionRecvContext::Initialize`. -/
def initial (generation : Generation) : State Thread where
  freeRecvContexts := List.finRange recvOutstandingCount
  posted := []
  ownerSessionGeneration _ := 0
  outstandingRecvIo := 0
  underflowed := false
  sessionGeneration := generation
  nowInReleaseThread := false
  returned := false
  socketOpen := true
  calls _ := .outside
  received := false
  failureReported := false

/-- The receive side of one turn of a session, with these threads. -/
def system (Thread : Type) [Fintype Thread] [DecidableEq Thread] :
    TransitionSystem (State Thread) (Label Thread) where
  Initial state := ∃ generation, state = initial generation
  step := step

/-- Each context is in one place, the counter counts by `counted` what is posted
or in the hands of a thread, and a session that receives without failure has all
its contexts posted while no call is under way. -/
structure ConservedBy (counted : Call → Nat) (state : State Thread) : Prop where
  custody : ∀ context,
    state.freeRecvContexts.count context + state.posted.count context +
      tally (Call.holds context) state.calls = 1
  outstanding : state.outstandingRecvIo =
    state.posted.length + tally counted state.calls +
      tally Call.betweenSteps state.calls
  noUnderflow : state.underflowed = false
  allPosted : state.returned = false → state.nowInReleaseThread = false →
    state.received = true → (∀ thread, state.calls thread = .outside) →
    state.failureReported = false →
    ∀ context, context ∈ state.posted

/-- The contexts are conserved when every context past `BeginRecvIo` counts, also
one that is being rolled back. -/
abbrev ConservedAsStated (state : State Thread) : Prop :=
  ConservedBy Call.holdsBegun state

/-- The contexts are conserved when a context past `BeginRecvIo` counts until
`CompleteRecvIo` takes it back. -/
abbrev Conserved (state : State Thread) : Prop :=
  ConservedBy Call.holdsCounted state

/-! ## The invariant -/

/-- What a call relies on about generations while the turn lasts. -/
def Call.Fresh
    (ownerSessionGeneration : Context → Generation)
    (sessionGeneration : Generation) : Call → Prop
  | .begun context | .completed context _ =>
      ownerSessionGeneration context = sessionGeneration
  | .releasing _ .stale | .released .stale | .leaving .stale => False
  | _ => True

/-- Nothing goes stale when contexts are given the present generation. -/
theorem Call.Fresh.owner
    {call : Call}
    {before after : Context → Generation}
    {sessionGeneration : Generation}
    (fresh : call.Fresh before sessionGeneration)
    (owner : ∀ context,
      after context = before context ∨ after context = sessionGeneration) :
    call.Fresh after sessionGeneration := by
  unfold Call.Fresh at fresh ⊢
  split at fresh
  · exact (owner _).elim (·.trans fresh) id
  · exact (owner _).elim (·.trans fresh) id
  · exact fresh
  · exact fresh
  · exact fresh
  · trivial

/-- The invariant behind the conservation. -/
structure Kept (state : State Thread) : Prop where
  custody : ∀ context,
    state.freeRecvContexts.count context + state.posted.count context +
      tally (Call.holds context) state.calls = 1
  outstanding : state.outstandingRecvIo =
    state.posted.length + tally Call.holdsCounted state.calls +
      tally Call.betweenSteps state.calls
  noUnderflow : state.underflowed = false
  postedFresh : state.returned = false → ∀ context ∈ state.posted,
    state.ownerSessionGeneration context = state.sessionGeneration
  callsFresh : state.returned = false → ∀ thread,
    (state.calls thread).Fresh state.ownerSessionGeneration
      state.sessionGeneration
  /-- A receiving session has no free context, or somebody looks after it. -/
  attended : state.returned = false → state.nowInReleaseThread = false →
    state.received = true → state.failureReported = false →
    state.freeRecvContexts = [] ∨ ∃ thread, state.calls thread ≠ .outside

omit [DecidableEq Thread] in
/-- Under the invariant the contexts are conserved. -/
theorem Kept.conserved
    {state : State Thread}
    (kept : Kept state) :
    Conserved state where
  custody := kept.custody
  outstanding := kept.outstanding
  noUnderflow := kept.noUnderflow
  allPosted := by
    intro inTurn running received allOutside noFailure context
    have noneFree : state.freeRecvContexts = [] := by
      rcases kept.attended inTurn running received noFailure with
        free | ⟨thread, inside⟩
      · exact free
      · exact absurd (allOutside thread) inside
    have nobody : tally (Call.holds context) state.calls = 0 :=
      tally_eq_zero fun thread => by rw [allOutside thread]; rfl
    have once := kept.custody context
    rw [noneFree, nobody] at once
    exact List.count_pos_iff.mp (by simp at once; omega)

omit [DecidableEq Thread] in
theorem kept_initial (generation : Generation) :
    Kept (initial generation : State Thread) where
  custody context := by
    have nobody : tally (Call.holds context)
        (initial generation : State Thread).calls = 0 :=
      tally_eq_zero fun _ => rfl
    rw [nobody]
    exact List.count_eq_one_of_mem (List.nodup_finRange _)
      (List.mem_finRange context)
  outstanding := by
    have nobodyCounts : tally Call.holdsCounted
        (initial generation : State Thread).calls = 0 :=
      tally_eq_zero fun _ => rfl
    have nobodyBetween : tally Call.betweenSteps
        (initial generation : State Thread).calls = 0 :=
      tally_eq_zero fun _ => rfl
    rw [nobodyCounts, nobodyBetween]
    rfl
  noUnderflow := rfl
  postedFresh _ _ member := absurd member List.not_mem_nil
  callsFresh _ _ := trivial
  attended _ _ received := absurd received Bool.false_ne_true

/-! ## One step -/

/-- What a call contributes to the counter of outstanding receives. -/
def Call.weight (call : Call) : Nat := call.holdsCounted + call.betweenSteps

/-- A step of one thread keeps the invariant when the contexts and the counter
balance. -/
theorem Kept.move
    {state next : State Thread}
    (kept : Kept state)
    (thread : Thread)
    (call : Call)
    (calls : next.calls = Function.update state.calls thread call)
    (custody : ∀ context,
      next.freeRecvContexts.count context + next.posted.count context +
          call.holds context =
        state.freeRecvContexts.count context + state.posted.count context +
          (state.calls thread).holds context)
    (outstanding :
      next.outstandingRecvIo + state.posted.length +
          (state.calls thread).weight =
        state.outstandingRecvIo + next.posted.length + call.weight)
    (noUnderflow : next.underflowed = false)
    (returned : next.returned = state.returned)
    (generation : next.sessionGeneration = state.sessionGeneration)
    (owner : ∀ context,
      next.ownerSessionGeneration context =
          state.ownerSessionGeneration context ∨
        next.ownerSessionGeneration context = state.sessionGeneration)
    (postedFresh : state.returned = false → ∀ context ∈ next.posted,
      next.ownerSessionGeneration context = state.sessionGeneration)
    (fresh : state.returned = false →
      call.Fresh next.ownerSessionGeneration state.sessionGeneration)
    (attended : call = .outside → state.returned = false →
      next.nowInReleaseThread = false → next.received = true →
      next.failureReported = false → next.freeRecvContexts = []) :
    Kept next where
  custody context := by
    have moved := tally_update (Call.holds context) state.calls thread call
    have before := kept.custody context
    have balance := custody context
    rw [calls]
    omega
  outstanding := by
    have counted := tally_update Call.holdsCounted state.calls thread call
    have between := tally_update Call.betweenSteps state.calls thread call
    have before := kept.outstanding
    unfold Call.weight at outstanding
    rw [calls]
    omega
  noUnderflow := noUnderflow
  postedFresh inTurn := by
    rw [generation]
    exact postedFresh (returned ▸ inTurn)
  callsFresh inTurn other := by
    rw [returned] at inTurn
    rw [generation, calls]
    by_cases same : other = thread
    · subst same
      rw [Function.update_self]
      exact fresh inTurn
    · rw [Function.update_of_ne same]
      exact (kept.callsFresh inTurn other).owner owner
  attended inTurn running received noFailure := by
    by_cases leaves : call = .outside
    · exact .inl
        (attended leaves (returned ▸ inTurn) running received noFailure)
    · refine .inr ⟨thread, ?_⟩
      rw [calls, Function.update_self]
      exact leaves

/-- A step of one thread that moves nothing but the thread. -/
theorem Kept.setCall
    {state : State Thread}
    (kept : Kept state)
    (thread : Thread)
    (call : Call)
    (context : call.context = (state.calls thread).context)
    (weight : call.weight = (state.calls thread).weight)
    (fresh : state.returned = false →
      call.Fresh state.ownerSessionGeneration state.sessionGeneration)
    (attended : call = .outside → state.returned = false →
      state.nowInReleaseThread = false → state.received = true →
      state.failureReported = false → state.freeRecvContexts = []) :
    Kept (state.setCall thread call) := by
  refine kept.move thread call rfl (fun other => ?_) ?_ kept.noUnderflow rfl rfl
    (fun _ => .inl rfl) kept.postedFresh fresh attended
  · unfold Call.holds
    rw [context]
    rfl
  · rw [weight]
    rfl

omit [DecidableEq Thread] in
/-- The counter covers what a thread contributes. -/
theorem Kept.weight_le
    {state : State Thread}
    (kept : Kept state)
    (thread : Thread) :
    (state.calls thread).weight ≤ state.outstandingRecvIo := by
  have counted := le_tally Call.holdsCounted state.calls thread
  have between := le_tally Call.betweenSteps state.calls thread
  have total := kept.outstanding
  unfold Call.weight
  omega

omit [DecidableEq Thread] in
/-- No call is about a stale completion while the turn lasts. -/
theorem Kept.fresh
    {state : State Thread}
    (kept : Kept state)
    {thread : Thread}
    {call : Call}
    (stands : state.calls thread = call)
    (inTurn : state.returned = false) :
    call.Fresh state.ownerSessionGeneration state.sessionGeneration :=
  stands ▸ kept.callsFresh inTurn thread

omit [DecidableEq Thread] in
/-- `CompleteRecvIo` does not find the counter at 0 in a call that counts. -/
theorem Kept.completeRecvIo_underflowed
    {state : State Thread}
    (kept : Kept state)
    {thread : Thread}
    {call : Call}
    (stands : state.calls thread = call)
    (counts : call.weight = 1) :
    state.completeRecvIo.underflowed = false := by
  have covered := kept.weight_le thread
  rw [stands, counts] at covered
  have positive : (state.outstandingRecvIo == 0) = false :=
    beq_false_of_ne (Nat.ne_of_gt covered)
  show (state.underflowed || state.outstandingRecvIo == 0) = false
  rw [kept.noUnderflow, positive]
  rfl

omit [Fintype Thread] [DecidableEq Thread] in
/-- The context of a call goes back into the free queue. -/
theorem count_releaseRecvContext
    (state : State Thread)
    (call : Call)
    {released : Context}
    (held : call.context = some released)
    (context : Context) :
    (state.releaseRecvContext released).freeRecvContexts.count context =
      state.freeRecvContexts.count context + call.holds context := by
  unfold Call.holds
  rw [held]
  simp [State.releaseRecvContext, List.count_append, List.count_singleton]

/-- The steps of `DoRecv` up to its loop. -/
theorem Kept.run_enter
    {state next : State Thread}
    (kept : Kept state)
    {thread : Thread}
    {succeeds : Bool}
    (stands : state.calls thread = .entering ∨
      state.calls thread = .locked ∨ state.calls thread = .tested)
    (ran : state.run thread succeeds = some next) :
    Kept next := by
  rcases stands with entering | locked | tested
  · simp only [State.run, entering, Option.some.injEq] at ran
    subst ran
    exact kept.setCall thread .locked (by rw [entering]; rfl)
      (by rw [entering]; rfl) (fun _ => trivial) nofun
  · simp only [State.run, locked, Option.some.injEq] at ran
    subst ran
    split
    next releasing =>
      exact kept.setCall thread .outside (by rw [locked]; rfl)
        (by rw [locked]; rfl) (fun _ => trivial)
        fun _ _ running => absurd (running ▸ releasing) Bool.false_ne_true
    next =>
      exact kept.setCall thread .tested (by rw [locked]; rfl)
        (by rw [locked]; rfl) (fun _ => trivial) nofun
  · simp only [State.run, tested, Option.some.injEq] at ran
    subst ran
    split
    · exact kept.setCall thread .looping (by rw [tested]; rfl)
        (by rw [tested]; rfl) (fun _ => trivial) nofun
    · exact kept.setCall thread .reporting (by rw [tested]; rfl)
        (by rw [tested]; rfl) (fun _ => trivial) nofun

/-- The loop of `DoRecv` takes a free context or ends. -/
theorem Kept.run_looping
    {state next : State Thread}
    (kept : Kept state)
    {thread : Thread}
    {succeeds : Bool}
    (stands : state.calls thread = .looping)
    (ran : state.run thread succeeds = some next) :
    Kept next := by
  simp only [State.run, stands] at ran
  split at ran
  next noneFree =>
    simp only [Option.some.injEq] at ran
    subst ran
    exact kept.move thread .outside rfl (fun _ => by rw [stands]; rfl)
      (by rw [stands]; rfl) kept.noUnderflow rfl rfl (fun _ => .inl rfl)
      kept.postedFresh (fun _ => trivial) fun _ _ _ _ _ => noneFree
  next context rest someFree =>
    simp only [Option.some.injEq] at ran
    subst ran
    refine kept.move thread (.acquired context) rfl (fun other => ?_)
      (by rw [stands]; rfl) kept.noUnderflow rfl rfl (fun _ => .inl rfl)
      kept.postedFresh (fun _ => trivial) nofun
    rw [stands, someFree]
    simp only [State.setCall, Call.holds, Call.context, List.count_cons,
      Option.some.injEq, beq_iff_eq, reduceCtorEq, if_false]
    omega

/-- `BeginRecvIo` with the context that has been taken. -/
theorem Kept.run_acquired
    {state next : State Thread}
    (kept : Kept state)
    {thread : Thread}
    {context : Context}
    {succeeds : Bool}
    (stands : state.calls thread = .acquired context)
    (ran : state.run thread succeeds = some next) :
    Kept next := by
  simp only [State.run, stands, Option.some.injEq] at ran
  subst ran
  have owner : ∀ other,
      Function.update state.ownerSessionGeneration context
          state.sessionGeneration other = state.ownerSessionGeneration other ∨
        Function.update state.ownerSessionGeneration context
          state.sessionGeneration other = state.sessionGeneration := by
    intro other
    by_cases same : other = context
    · exact .inr (by rw [same, Function.update_self])
    · exact .inl (Function.update_of_ne same _ _)
  refine kept.move thread (.begun context) rfl (fun _ => by rw [stands]; rfl)
    ?_ kept.noUnderflow rfl rfl owner ?_ ?_ nofun
  · rw [stands]
    change state.outstandingRecvIo + 1 + state.posted.length + 0 =
      state.outstandingRecvIo + state.posted.length + 1
    omega
  · intro inTurn other member
    exact (owner other).elim
      (·.trans (kept.postedFresh inTurn other member)) id
  · exact fun _ => Function.update_self ..

/-- The post of a receive. -/
theorem Kept.run_begun
    {state next : State Thread}
    (kept : Kept state)
    {thread : Thread}
    {context : Context}
    {succeeds : Bool}
    (stands : state.calls thread = .begun context)
    (ran : state.run thread succeeds = some next) :
    Kept next := by
  simp only [State.run, stands, Option.some.injEq] at ran
  subst ran
  cases succeeds with
  | true =>
      refine kept.move thread .looping rfl (fun other => ?_) ?_
        kept.noUnderflow rfl rfl (fun _ => .inl rfl) ?_ (fun _ => trivial) nofun
      · rw [stands]
        simp only [State.setCall, Call.holds, Call.context, if_true,
          List.count_cons, Option.some.injEq, beq_iff_eq, reduceCtorEq,
          if_false]
        omega
      · rw [stands]
        change state.outstandingRecvIo + state.posted.length + 1 =
          state.outstandingRecvIo + (state.posted.length + 1) + 0
        omega
      · intro inTurn other member
        rcases List.mem_cons.mp member with same | older
        · rw [same]
          exact kept.fresh stands inTurn
        · exact kept.postedFresh inTurn other older
  | false =>
      have covered := kept.weight_le thread
      rw [stands] at covered
      refine kept.move thread (.rollingBack context) rfl
        (fun _ => by rw [stands]; rfl) ?_
        (kept.completeRecvIo_underflowed stands rfl) rfl rfl
        (fun _ => .inl rfl) kept.postedFresh (fun _ => trivial) nofun
      rw [stands]
      change 1 ≤ state.outstandingRecvIo at covered
      change state.outstandingRecvIo - 1 + state.posted.length + 1 =
        state.outstandingRecvIo + state.posted.length + 0
      omega

/-- The rollback puts the context back. -/
theorem Kept.run_rollingBack
    {state next : State Thread}
    (kept : Kept state)
    {thread : Thread}
    {context : Context}
    {succeeds : Bool}
    (stands : state.calls thread = .rollingBack context)
    (ran : state.run thread succeeds = some next) :
    Kept next := by
  simp only [State.run, stands, Option.some.injEq] at ran
  subst ran
  refine kept.move thread .reporting rfl (fun other => ?_)
    (by rw [stands]; rfl) kept.noUnderflow rfl rfl (fun _ => .inl rfl)
    kept.postedFresh (fun _ => trivial) nofun
  change (state.releaseRecvContext context).freeRecvContexts.count other +
    state.posted.count other + 0 = _
  rw [count_releaseRecvContext state (.rollingBack context) rfl, stands]
  omega

/-- `IOCompleted` compares the generation. -/
theorem Kept.run_completed
    {state next : State Thread}
    (kept : Kept state)
    {thread : Thread}
    {context : Context}
    {failure : Option Bool}
    {succeeds : Bool}
    (stands : state.calls thread = .completed context failure)
    (ran : state.run thread succeeds = some next) :
    Kept next := by
  simp only [State.run, stands, Option.some.injEq] at ran
  subst ran
  split
  next exit isExit =>
    refine kept.setCall thread (.releasing context exit) (by rw [stands]; rfl)
      (by rw [stands]; rfl) (fun inTurn => ?_) nofun
    have current : state.ownerSessionGeneration context =
        state.sessionGeneration := kept.fresh stands inTurn
    simp only [State.exitOf, current, ne_eq, not_true_eq_false, if_false,
      Option.map_eq_some_iff] at isExit
    obtain ⟨aborted, -, rfl⟩ := isExit
    trivial
  next =>
    exact kept.setCall thread (.handling context) (by rw [stands]; rfl)
      (by rw [stands]; rfl) (fun _ => trivial) nofun

/-- `ReleaseRecvContext` puts the context back. -/
theorem Kept.run_releasing
    {state next : State Thread}
    (kept : Kept state)
    {thread : Thread}
    {context : Context}
    {exit : Exit}
    {succeeds : Bool}
    (stands : state.calls thread = .releasing context exit)
    (ran : state.run thread succeeds = some next) :
    Kept next := by
  simp only [State.run, stands, Option.some.injEq] at ran
  subst ran
  refine kept.move thread (.released exit) rfl (fun other => ?_)
    (by rw [stands]; rfl) kept.noUnderflow rfl rfl (fun _ => .inl rfl)
    kept.postedFresh (fun inTurn => ?_) nofun
  · change (state.releaseRecvContext context).freeRecvContexts.count other +
      state.posted.count other + 0 = _
    rw [count_releaseRecvContext state (.releasing context exit) rfl, stands]
    omega
  · have fresh := kept.fresh stands inTurn
    cases exit with
    | stale => exact fresh
    | _ => trivial

/-- `ReleaseRecvContext` calls `CompleteRecvIo`. -/
theorem Kept.run_released
    {state next : State Thread}
    (kept : Kept state)
    {thread : Thread}
    {exit : Exit}
    {succeeds : Bool}
    (stands : state.calls thread = .released exit)
    (ran : state.run thread succeeds = some next) :
    Kept next := by
  simp only [State.run, stands, Option.some.injEq] at ran
  subst ran
  have covered := kept.weight_le thread
  rw [stands] at covered
  refine kept.move thread (.leaving exit) rfl (fun _ => by rw [stands]; rfl) ?_
    (kept.completeRecvIo_underflowed stands rfl) rfl rfl (fun _ => .inl rfl)
    kept.postedFresh (fun inTurn => ?_) nofun
  · rw [stands]
    change 1 ≤ state.outstandingRecvIo at covered
    change state.outstandingRecvIo - 1 + state.posted.length + 1 =
      state.outstandingRecvIo + state.posted.length + 0
    omega
  · have fresh := kept.fresh stands inTurn
    cases exit with
    | stale => exact fresh
    | _ => trivial

/-- What follows the release of the context. -/
theorem Kept.run_leaving
    {state next : State Thread}
    (kept : Kept state)
    {thread : Thread}
    {exit : Exit}
    {succeeds : Bool}
    (stands : state.calls thread = .leaving exit)
    (ran : state.run thread succeeds = some next) :
    Kept next := by
  cases exit with
  | stale =>
      simp only [State.run, stands, Option.some.injEq] at ran
      subst ran
      exact kept.setCall thread .outside (by rw [stands]; rfl)
        (by rw [stands]; rfl) (fun _ => trivial)
        fun _ inTurn => (kept.fresh stands inTurn).elim
  | failed aborted =>
      simp only [State.run, stands, Option.some.injEq] at ran
      subst ran
      split
      next expected =>
        exact kept.setCall thread .outside (by rw [stands]; rfl)
          (by rw [stands]; rfl) (fun _ => trivial)
          fun _ _ running => absurd
            (running ▸ (Bool.and_eq_true_iff.mp expected).2)
            Bool.false_ne_true
      next =>
        exact kept.setCall thread .reporting (by rw [stands]; rfl)
          (by rw [stands]; rfl) (fun _ => trivial) nofun
  | dropped | delivered =>
      simp only [State.run, stands, Option.some.injEq] at ran
      subst ran
      exact kept.setCall thread .entering (by rw [stands]; rfl)
        (by rw [stands]; rfl) (fun _ => trivial) nofun
  | unallocated | uncopied | unqueued =>
      simp only [State.run, stands, Option.some.injEq] at ran
      subst ran
      exact kept.setCall thread .reporting (by rw [stands]; rfl)
        (by rw [stands]; rfl) (fun _ => trivial) nofun

/-- The steps of the threads. -/
theorem Kept.run
    {state next : State Thread}
    (kept : Kept state)
    {thread : Thread}
    {succeeds : Bool}
    (ran : state.run thread succeeds = some next) :
    Kept next := by
  cases stands : state.calls thread with
  | outside | handling context =>
      simp only [State.run, stands, reduceCtorEq] at ran
  | entering => exact kept.run_enter (.inl stands) ran
  | locked => exact kept.run_enter (.inr (.inl stands)) ran
  | tested => exact kept.run_enter (.inr (.inr stands)) ran
  | looping => exact kept.run_looping stands ran
  | acquired context => exact kept.run_acquired stands ran
  | begun context => exact kept.run_begun stands ran
  | rollingBack context => exact kept.run_rollingBack stands ran
  | completed context failure => exact kept.run_completed stands ran
  | releasing context exit => exact kept.run_releasing stands ran
  | released exit => exact kept.run_released stands ran
  | leaving exit => exact kept.run_leaving stands ran
  | reporting =>
      simp only [State.run, stands, Option.some.injEq] at ran
      subst ran
      exact kept.move thread .outside rfl (fun _ => by rw [stands]; rfl)
        (by rw [stands]; rfl) kept.noUnderflow rfl rfl (fun _ => .inl rfl)
        kept.postedFresh (fun _ => trivial)
        fun _ _ _ _ noFailure => absurd noFailure.symm Bool.false_ne_true

/-- A thread takes the completion of a posted receive. -/
theorem Kept.complete
    {state next : State Thread}
    (kept : Kept state)
    {thread : Thread}
    {context : Context}
    {failure : Option Bool}
    (moves : step state (.complete thread context failure) = some next) :
    Kept next := by
  simp only [step, Option.ite_none_right_eq_some, Option.some.injEq] at moves
  obtain ⟨⟨outside, member⟩, rfl⟩ := moves
  refine kept.move thread (.completed context failure) rfl (fun other => ?_) ?_
    kept.noUnderflow rfl rfl (fun _ => .inl rfl)
    (fun inTurn other later =>
      kept.postedFresh inTurn other (List.mem_of_mem_erase later))
    (fun inTurn => kept.postedFresh inTurn context member) (by simp)
  · have present := List.count_pos_iff.mpr member
    rw [outside]
    simp only [State.setCall, Call.holds, Call.context, List.count_erase,
      Option.some.injEq, beq_iff_eq, reduceCtorEq, if_false]
    by_cases same : context = other
    · subst same
      simp only [if_true]
      omega
    · simp only [same, if_false]
      omega
  · have present : 0 < state.posted.length := List.length_pos_of_mem member
    rw [outside]
    change state.outstandingRecvIo + state.posted.length + 0 =
      state.outstandingRecvIo + (state.posted.erase context).length + 1
    rw [List.length_erase_of_mem member]
    omega

/-- Every step keeps the invariant. -/
theorem Kept.step
    {state next : State Thread}
    (kept : Kept state)
    {label : Label Thread}
    (moves : step state label = some next) :
    Kept next := by
  cases label with
  | doRecv thread =>
      simp only [ReceiveSlots.step, Option.ite_none_right_eq_some,
        Option.some.injEq] at moves
      obtain ⟨outside, rfl⟩ := moves
      exact kept.setCall thread .entering (by rw [outside]; rfl)
        (by rw [outside]; rfl) (fun _ => trivial) (by simp)
  | complete thread context failure => exact kept.complete moves
  | handle thread exit =>
      simp only [ReceiveSlots.step] at moves
      split at moves
      next context handling =>
        simp only [Option.ite_none_right_eq_some, Option.some.injEq] at moves
        obtain ⟨ofRecv, rfl⟩ := moves
        refine kept.setCall thread (.releasing context exit)
          (by rw [handling]; rfl) (by rw [handling]; rfl) (fun _ => ?_) (by simp)
        cases exit with
        | stale => exact Bool.false_ne_true ofRecv
        | _ => trivial
      next => cases moves
  | run thread succeeds => exact kept.run moves
  | disconnect =>
      simp only [ReceiveSlots.step, Option.some.injEq] at moves
      subst moves
      exact { kept with attended := fun _ running => by cases running }
  | closeSocket =>
      simp only [ReceiveSlots.step, Option.ite_none_right_eq_some,
        Option.some.injEq] at moves
      obtain ⟨-, rfl⟩ := moves
      exact { kept with }
  | increment =>
      simp only [ReceiveSlots.step, Option.ite_none_right_eq_some,
        Option.some.injEq] at moves
      obtain ⟨-, rfl⟩ := moves
      exact { kept with
        postedFresh := fun inTurn => by cases inTurn
        callsFresh := fun inTurn => by cases inTurn
        attended := fun inTurn => by cases inTurn }
  | lower =>
      simp only [ReceiveSlots.step, Option.ite_none_right_eq_some,
        Option.some.injEq] at moves
      obtain ⟨returned, rfl⟩ := moves
      exact { kept with
        attended := fun inTurn =>
          absurd (inTurn.symm.trans returned) Bool.false_ne_true }

/-- The invariant holds in every reachable state. -/
theorem kept_of_reachable
    {state : State Thread}
    (reachable : (system Thread).Reachable state) :
    Kept state :=
  reachable.invariant
    (fun _ ⟨generation, begins⟩ => begins ▸ kept_initial generation)
    fun _ _ _ _ kept moves => kept.step moves

/-- In every reachable state the receive contexts are conserved. -/
theorem conserved_of_reachable
    {state : State Thread}
    (reachable : (system Thread).Reachable state) :
    Conserved state :=
  (kept_of_reachable reachable).conserved

end System

/-! ## A receive that is posted, and one that is rolled back -/

/-- The only thread posts one receive and fails to post the next. -/
def rollingBackSchedule : List (Label Unit) :=
  .doRecv () :: List.replicate 6 (.run () true) ++
    [.run () true, .run () true, .run () false]

/-- A rollback is under way. -/
def rollingBackState : State Unit :=
  ((system Unit).run (initial 1) rollingBackSchedule).getD (initial 1)

theorem run_rollingBackSchedule :
    (system Unit).run (initial 1) rollingBackSchedule =
      some rollingBackState := rfl

theorem reachable_rollingBackState :
    (system Unit).Reachable rollingBackState :=
  .run (.initial ⟨1, rfl⟩) run_rollingBackSchedule

theorem conserved_rollingBackState :
    rollingBackState.posted = [⟨0, by decide⟩] ∧ Conserved rollingBackState :=
  ⟨rfl, conserved_of_reachable reachable_rollingBackState⟩

/-- The counter does not count a context past `BeginRecvIo` that is being rolled
back. -/
theorem rollingBack_uncounted :
    ¬ ∀ state : State Unit, (system Unit).Reachable state →
      ConservedAsStated state := by
  intro conserved
  have counted := (conserved _ reachable_rollingBackState).outstanding
  revert counted
  decide

end ReceiveSlots
end MultiSocketRudp
