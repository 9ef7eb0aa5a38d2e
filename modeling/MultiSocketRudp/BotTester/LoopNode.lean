import MultiSocketRudp.Lib.TransitionSystem

/-!
# The loops of a bot and the packets that their bodies wait for

`WaitForPacketNode` starts a task and publishes it in `pendingAsyncTask`, of which
a client has one.  A `LoopNode` takes the task that it finds there before and after
its body, and awaits it.

The nodes of a chain are open: while a chain runs it may execute a
`WaitForPacketNode` as often as it likes.  The chains are the bodies of the loops,
what the waits continue with, and all others (events, timers, exit nodes), which
belong to no loop.
-/

namespace MultiSocketRudp
namespace Loops

open TransitionSystems

/-! ## Waits and loops -/

/-- An iteration of a loop. -/
structure Iteration where
  loop : Nat
  iteration : Nat
  deriving DecidableEq

/-- Where a task of `WaitAndDispatchAsync` stands. -/
inductive WaitStatus
  /-- It awaits `waiterTask`. -/
  | waiting
  /-- It executes the chains of `NextNodes` or of `TimeoutNodes`. -/
  | dispatching
  | finished
  deriving DecidableEq

/-- A task of `WaitAndDispatchAsync`. -/
structure Wait where
  /-- The iteration in which it was started, by the body or by what a wait of that
  iteration continues with. -/
  startedIn : Option Iteration := none
  status : WaitStatus := .finished
  deriving DecidableEq

/-- The loop that has to wait for it. -/
def Wait.loop (wait : Wait) : Option Nat := wait.startedIn.map Iteration.loop

/-- Where the task of `LoopNode.ExecuteImpl` stands. -/
inductive LoopPhase
  | notStarted
  /-- At the condition of `while`. -/
  | condition
  /-- Before `GetAndClearPendingAsyncTask` in front of the body. -/
  | clearing
  /-- It awaits the task found there, or `Task.CompletedTask`. -/
  | draining (task : Option Nat)
  /-- It executes the chains of `LoopBody`. -/
  | body
  /-- Before `GetAndClearPendingAsyncTask` behind the body. -/
  | taking
  /-- It awaits `pendingTask`. -/
  | awaiting (pendingTask : Option Nat)
  /-- It executes the chains of `ExitNodes` and of `NextNodes`. -/
  | exiting
  | ended
  deriving DecidableEq

/-- The task that the loop awaits. -/
def LoopPhase.awaited : LoopPhase → Option Nat
  | .draining task | .awaiting task => task
  | .notStarted | .condition | .clearing | .body | .taking | .exiting
  | .ended => none

/-- A task of `LoopNode.ExecuteImpl`. -/
structure LoopTask where
  maxIterations : Int := 100
  iteration : Nat := 0
  phase : LoopPhase := .notStarted
  deriving DecidableEq

/-- Something that executes `WaitForPacketNode`s one after the other. -/
inductive Chain
  | body (loop : Nat)
  | continuation (wait : Nat)
  | other (chain : Nat)
  deriving DecidableEq

/-- The loops and the waits of a client. -/
structure State where
  loops : Nat → LoopTask := fun _ => {}
  /-- The waits are numbered as they are started. -/
  waits : Nat → Wait := fun _ => {}
  started : Nat := 0
  /-- The task that a chain has started and not published yet. -/
  publishing : Chain → Option Nat := fun _ => none
  /-- `none` is `Task.CompletedTask`. -/
  pendingAsyncTask : Option Nat := none

/-- The chain executes nodes. -/
def Runs (state : State) : Chain → Prop
  | .body loop => (state.loops loop).phase = .body
  | .continuation wait => (state.waits wait).status = .dispatching
  | .other _ => True

instance (state : State) (chain : Chain) : Decidable (Runs state chain) := by
  cases chain <;> unfold Runs <;> infer_instance

/-- The iteration that the chain is part of. -/
def iterationOf (state : State) : Chain → Option Iteration
  | .body loop => some ⟨loop, (state.loops loop).iteration⟩
  | .continuation wait => (state.waits wait).startedIn
  | .other _ => none

/-! ## Steps -/

/-- An atomic step. -/
inductive Label
  /-- A `LoopNode` is executed, whose task begins. -/
  | startLoop (loop : Nat) (maxIterations : Int)
  /-- The condition of `while`, with what `ContinueCondition` returns. -/
  | evaluate (loop : Nat) (continues : Bool)
  /-- `GetAndClearPendingAsyncTask` in front of the body. -/
  | clear (loop : Nat)
  | beginBody (loop : Nat)
  | endBody (loop : Nat)
  /-- `GetAndClearPendingAsyncTask` behind the body. -/
  | take (loop : Nat)
  /-- `iteration++`. -/
  | iterate (loop : Nat)
  /-- The loop ends: behind its last chain, or with an exception. -/
  | endLoop (loop : Nat)
  /-- `WaitForPacketNode` calls `WaitAndDispatchAsync`. -/
  | startWait (chain : Chain)
  /-- `SetPendingAsyncTask`. -/
  | publish (chain : Chain)
  /-- The packet arrives, or `TimeoutMilliseconds` are over. -/
  | dispatch (wait : Nat)
  /-- The wait is cancelled before that. -/
  | cancel (wait : Nat)
  /-- The chains of a wait have been executed, or one has thrown. -/
  | finish (wait : Nat)
  /-- `RuntimeContext.Clear`, called by `OnDisconnected`. -/
  | disconnect
  deriving DecidableEq

/-- A loop goes on. -/
def State.withPhase (state : State) (loop : Nat) (phase : LoopPhase) : State :=
  { state with
    loops := Function.update state.loops loop
      { state.loops loop with phase := phase } }

/-- A wait goes on. -/
def State.withStatus (state : State) (wait : Nat) (status : WaitStatus) :
    State :=
  { state with
    waits := Function.update state.waits wait
      { state.waits wait with status := status } }

/-- `Task.CompletedTask` and finished waits are not awaited. -/
def IsCompleted (state : State) (task : Option Nat) : Prop :=
  ∀ wait ∈ task, (state.waits wait).status = .finished

instance (state : State) (task : Option Nat) :
    Decidable (IsCompleted state task) := by
  unfold IsCompleted
  infer_instance

/-- The loop executes another iteration. -/
def Continues (task : LoopTask) (continues : Bool) : Prop :=
  task.iteration < task.maxIterations ∧ continues = true

instance (task : LoopTask) (continues : Bool) :
    Decidable (Continues task continues) := by
  unfold Continues
  infer_instance

/-- The task of a loop may end where it stands: it has executed its exit nodes, it
has been cancelled, or a condition or a node has thrown. -/
def MayEnd (state : State) (loop : Nat) : Prop :=
  match (state.loops loop).phase with
  | .condition | .awaiting _ | .exiting => True
  | .body => state.publishing (.body loop) = none
  | .notStarted | .clearing | .draining _ | .taking | .ended => False

instance (state : State) (loop : Nat) : Decidable (MayEnd state loop) := by
  unfold MayEnd
  split <;> infer_instance

/-- The step of a label. -/
def step (state : State) : Label → Option State
  | .startLoop loop maxIterations =>
      if (state.loops loop).phase = .notStarted then
        some { state with
          loops := Function.update state.loops loop
            { maxIterations := maxIterations, phase := .condition } }
      else none
  | .evaluate loop continues =>
      if (state.loops loop).phase = .condition then
        if Continues (state.loops loop) continues then
          some (state.withPhase loop .clearing)
        else some (state.withPhase loop .exiting)
      else none
  | .clear loop =>
      if (state.loops loop).phase = .clearing then
        some { state.withPhase loop (.draining state.pendingAsyncTask) with
          pendingAsyncTask := none }
      else none
  | .beginBody loop =>
      match (state.loops loop).phase with
      | .draining task =>
          if IsCompleted state task then some (state.withPhase loop .body)
          else none
      | _ => none
  | .endBody loop =>
      if (state.loops loop).phase = .body ∧
          state.publishing (.body loop) = none then
        some (state.withPhase loop .taking)
      else none
  | .take loop =>
      if (state.loops loop).phase = .taking then
        some { state.withPhase loop (.awaiting state.pendingAsyncTask) with
          pendingAsyncTask := none }
      else none
  | .iterate loop =>
      match (state.loops loop).phase with
      | .awaiting task =>
          if IsCompleted state task then
            some { state with
              loops := Function.update state.loops loop
                { state.loops loop with
                  iteration := (state.loops loop).iteration + 1
                  phase := .condition } }
          else none
      | _ => none
  | .endLoop loop =>
      if MayEnd state loop then some (state.withPhase loop .ended) else none
  | .startWait chain =>
      if Runs state chain ∧ state.publishing chain = none then
        some { state with
          waits := Function.update state.waits state.started
            { startedIn := iterationOf state chain, status := .waiting }
          started := state.started + 1
          publishing :=
            Function.update state.publishing chain (some state.started) }
      else none
  | .publish chain =>
      match state.publishing chain with
      | some wait =>
          some { state with
            publishing := Function.update state.publishing chain none
            pendingAsyncTask := some wait }
      | none => none
  | .dispatch wait =>
      if (state.waits wait).status = .waiting then
        some (state.withStatus wait .dispatching)
      else none
  | .cancel wait =>
      if (state.waits wait).status = .waiting then
        some (state.withStatus wait .finished)
      else none
  | .finish wait =>
      if (state.waits wait).status = .dispatching ∧
          state.publishing (.continuation wait) = none then
        some (state.withStatus wait .finished)
      else none
  | .disconnect => some { state with pendingAsyncTask := none }

/-- A client that executes nothing yet. -/
def system : TransitionSystem State Label where
  Initial state := state = {}
  step := step

/-! ## What a loop has to wait for -/

/-- The waits that a loop has left behind have finished, and the tasks that it
awaits are no other loop's. -/
structure WaitsForWaits (state : State) : Prop where
  nextIteration : ∀ wait origin,
    (state.waits wait).startedIn = some origin →
      (state.loops origin.loop).phase = .body →
        origin.iteration < (state.loops origin.loop).iteration →
          (state.waits wait).status = .finished
  exitNodes : ∀ wait origin,
    (state.waits wait).startedIn = some origin →
      (state.loops origin.loop).phase = .exiting →
        (state.waits wait).status = .finished
  ownTasks : ∀ loop wait, (state.loops loop).phase.awaited = some wait →
    (state.waits wait).loop = none ∨ (state.waits wait).loop = some loop

/-- The slot holds no wait, or one like this. -/
def Holds (state : State) (Fits : Wait → Prop) : Prop :=
  ∀ wait ∈ state.pendingAsyncTask, Fits (state.waits wait)

instance (state : State) (Fits : Wait → Prop) [DecidablePred Fits] :
    Decidable (Holds state Fits) := by
  unfold Holds
  infer_instance

/-- Nobody needs the wait any more, if anybody ever has. -/
def Wait.MayBeForgotten (wait : Wait) : Prop :=
  wait.loop = none ∨ wait.status = .finished

/-- No other loop needs the wait. -/
def Wait.IsNoOtherLoops (loop : Nat) (wait : Wait) : Prop :=
  wait.loop = none ∨ wait.loop = some loop

/-- The loop does not need the wait. -/
def Wait.IsNoConcernOf (loop : Nat) (wait : Wait) : Prop :=
  wait.loop = some loop → wait.status = .finished

instance : DecidablePred Wait.MayBeForgotten := fun wait => by
  unfold Wait.MayBeForgotten
  infer_instance

instance (loop : Nat) : DecidablePred (Wait.IsNoOtherLoops loop) := fun wait => by
  unfold Wait.IsNoOtherLoops
  infer_instance

instance (loop : Nat) : DecidablePred (Wait.IsNoConcernOf loop) := fun wait => by
  unfold Wait.IsNoConcernOf
  infer_instance

/-- Who comes to the slot finds no wait there that somebody else needs, and a loop
that goes on leaves none of its own there. -/
def SlotIsFree (state : State) : Label → Prop
  | .publish _ | .disconnect => Holds state Wait.MayBeForgotten
  | .clear loop | .take loop => Holds state (Wait.IsNoOtherLoops loop)
  | .beginBody loop => Holds state (Wait.IsNoConcernOf loop)
  | .evaluate loop continues =>
      Continues (state.loops loop) continues ∨
        Holds state (Wait.IsNoConcernOf loop)
  | .startLoop _ _ | .endBody _ | .iterate _ | .endLoop _ | .startWait _
  | .dispatch _ | .cancel _ | .finish _ => True

instance (state : State) (label : Label) :
    Decidable (SlotIsFree state label) := by
  cases label <;> unfold SlotIsFree <;> infer_instance

/-! ## Where the waits are -/

/-- The loop awaits the task, or nothing any more. -/
def LoopPhase.Covers (phase : LoopPhase) (wait : Nat) : Prop :=
  phase.awaited = some wait ∨ phase = .ended

/-- A wait that a loop needs is on its way into the slot, is in the slot or is
awaited by the loop, unless the loop has ended. -/
inductive Located (state : State) (wait loop : Nat) : Prop
  | body (publishing : state.publishing (.body loop) = some wait)
  | continuation (parent : Nat)
      (publishing : state.publishing (.continuation parent) = some wait)
  | slot (pending : state.pendingAsyncTask = some wait)
  | loop (covered : (state.loops loop).phase.Covers wait)

/-- The iterations whose waits a loop may have left unfinished. -/
def MayNeed (task : LoopTask) (iteration : Nat) : Prop :=
  match task.phase with
  | .body | .taking | .awaiting _ => iteration = task.iteration
  | .exiting => False
  | .notStarted | .condition | .clearing | .draining _ | .ended => True

/-- What the guarded steps keep. -/
structure Kept (state : State) : Prop where
  waitStarted : ∀ wait, (state.waits wait).status ≠ .finished →
    wait < state.started
  publishingStarted : ∀ chain wait, state.publishing chain = some wait →
    wait < state.started
  slotStarted : ∀ wait, state.pendingAsyncTask = some wait →
    wait < state.started
  awaitedStarted : ∀ loop wait,
    (state.loops loop).phase.awaited = some wait → wait < state.started
  bodyRuns : ∀ loop, state.publishing (.body loop) ≠ none →
    (state.loops loop).phase = .body
  /-- What a wait continues with is busy with a later wait of the same
  iteration. -/
  nested : ∀ parent wait,
    state.publishing (.continuation parent) = some wait →
      parent < wait ∧ (state.waits parent).status = .dispatching ∧
        (state.waits wait).startedIn = (state.waits parent).startedIn
  located : ∀ wait origin, (state.waits wait).startedIn = some origin →
    (state.waits wait).status ≠ .finished → Located state wait origin.loop
  needed : ∀ wait origin, (state.waits wait).startedIn = some origin →
    (state.waits wait).status ≠ .finished →
      MayNeed (state.loops origin.loop) origin.iteration
  own : ∀ loop wait origin, (state.loops loop).phase.awaited = some wait →
    (state.waits wait).startedIn = some origin → origin.loop = loop

namespace Kept

variable {state : State}

/-- A loop that stands at its condition, or that has awaited the task in front of
its body, needs no wait unless one is in the slot. -/
theorem allFinished
    (kept : Kept state)
    {loop : Nat}
    (between : (state.loops loop).phase ≠ .body)
    (goesOn : (state.loops loop).phase ≠ .ended)
    (completed : IsCompleted state (state.loops loop).phase.awaited)
    (free : Holds state (Wait.IsNoConcernOf loop))
    {wait : Nat} {origin : Iteration}
    (started : (state.waits wait).startedIn = some origin)
    (same : origin.loop = loop) :
    (state.waits wait).status = .finished := by
  subst same
  induction wait using Nat.strongRecOn with
  | ind wait earlier =>
      by_contra unfinished
      cases kept.located wait origin started unfinished with
      | body publishing =>
          exact between (kept.bodyRuns _ (by rw [publishing]; nofun))
      | continuation parent publishing =>
          obtain ⟨before, dispatching, origins⟩ :=
            kept.nested parent wait publishing
          have finished := earlier parent before (origins.symm.trans started)
          exact absurd (dispatching.symm.trans finished) nofun
      | slot pending =>
          refine unfinished (free wait pending ?_)
          rw [Wait.loop, started]
          rfl
      | loop covered =>
          rcases covered with awaits | ended
          · exact unfinished (completed wait awaits)
          · exact goesOn ended

/-- A loop goes on.  It keeps the slot as it is or empties it. -/
theorem advance
    (kept : Kept state)
    {loop : Nat} {task : LoopTask} {slot : Option Nat}
    (emptied : ∀ wait, slot = some wait → state.pendingAsyncTask = some wait)
    (leaves : state.publishing (.body loop) ≠ none → task.phase = .body)
    (awaits : ∀ wait, task.phase.awaited = some wait →
      wait < state.started ∧ ∀ origin,
        (state.waits wait).startedIn = some origin → origin.loop = loop)
    (needed : ∀ wait origin, (state.waits wait).startedIn = some origin →
      (state.waits wait).status ≠ .finished → origin.loop = loop →
        MayNeed task origin.iteration)
    (fromSlot : ∀ wait origin, (state.waits wait).startedIn = some origin →
      (state.waits wait).status ≠ .finished →
        state.pendingAsyncTask = some wait →
          slot = some wait ∨ origin.loop = loop ∧ task.phase.Covers wait)
    (fromLoop : ∀ wait, (state.waits wait).status ≠ .finished →
      (state.loops loop).phase.Covers wait → task.phase.Covers wait) :
    Kept { state with
      loops := Function.update state.loops loop task
      pendingAsyncTask := slot } where
  waitStarted := kept.waitStarted
  publishingStarted := kept.publishingStarted
  slotStarted wait pending := kept.slotStarted wait (emptied wait pending)
  awaitedStarted other wait := by
    rcases eq_or_ne other loop with rfl | different
    · simp only [Function.update_self]
      exact fun awaited => (awaits wait awaited).1
    · simp only [Function.update_of_ne different]
      exact kept.awaitedStarted other wait
  bodyRuns other publishing := by
    rcases eq_or_ne other loop with rfl | different
    · simp only [Function.update_self]
      exact leaves publishing
    · simp only [Function.update_of_ne different]
      exact kept.bodyRuns other publishing
  nested := kept.nested
  located wait origin started unfinished := by
    cases kept.located wait origin started unfinished with
    | body publishing => exact .body publishing
    | continuation parent publishing => exact .continuation parent publishing
    | slot pending =>
        rcases fromSlot wait origin started unfinished pending with
          remains | ⟨rfl, covers⟩
        · exact .slot remains
        · exact .loop (by simpa only [Function.update_self] using covers)
    | loop covered =>
        refine .loop ?_
        rcases eq_or_ne origin.loop loop with rfl | different
        · simp only [Function.update_self]
          exact fromLoop wait unfinished covered
        · simpa only [Function.update_of_ne different] using covered
  needed wait origin started unfinished := by
    rcases eq_or_ne origin.loop loop with rfl | different
    · simp only [Function.update_self]
      exact needed wait origin started unfinished rfl
    · simp only [Function.update_of_ne different]
      exact kept.needed wait origin started unfinished
  own other wait origin := by
    rcases eq_or_ne other loop with rfl | different
    · simp only [Function.update_self]
      exact fun awaited => (awaits wait awaited).2 origin
    · simp only [Function.update_of_ne different]
      exact kept.own other wait origin

/-- A loop goes on to where it awaits no task. -/
theorem withPhase
    (kept : Kept state)
    {loop : Nat} {phase : LoopPhase}
    (leaves : state.publishing (.body loop) ≠ none → phase = .body)
    (awaits : phase.awaited = none)
    (needed : ∀ wait origin, (state.waits wait).startedIn = some origin →
      (state.waits wait).status ≠ .finished → origin.loop = loop →
        MayNeed { state.loops loop with phase := phase } origin.iteration)
    (fromLoop : ∀ wait, (state.waits wait).status ≠ .finished →
      (state.loops loop).phase.Covers wait → phase = .ended) :
    Kept (state.withPhase loop phase) :=
  kept.advance (fun _ pending => pending) leaves
    (fun _ awaited => absurd (awaits.symm.trans awaited) nofun) needed
    (fun _ _ _ _ pending => .inl pending)
    fun wait unfinished covered => .inr (fromLoop wait unfinished covered)

/-- A loop takes what is in the slot. -/
theorem takes
    (kept : Kept state)
    {loop : Nat} {phase : LoopPhase}
    (awaits : phase.awaited = state.pendingAsyncTask)
    (free : Holds state (Wait.IsNoOtherLoops loop))
    (outside : (state.loops loop).phase ≠ .body)
    (waitsForNothing : (state.loops loop).phase.awaited = none)
    (goesOn : (state.loops loop).phase ≠ .ended)
    (needed : ∀ wait origin, (state.waits wait).startedIn = some origin →
      (state.waits wait).status ≠ .finished → origin.loop = loop →
        MayNeed { state.loops loop with phase := phase } origin.iteration) :
    Kept { state.withPhase loop phase with pendingAsyncTask := none } := by
  have own : ∀ wait origin, state.pendingAsyncTask = some wait →
      (state.waits wait).startedIn = some origin → origin.loop = loop := by
    intro wait origin pending started
    have fits := free wait pending
    simpa [Wait.IsNoOtherLoops, Wait.loop, started] using fits
  refine kept.advance nofun
    (fun publishing => absurd (kept.bodyRuns loop publishing) outside)
    (fun wait awaited => ?_) needed (fun wait origin started _ pending => ?_)
    fun wait _ covered => ?_
  · have pending : state.pendingAsyncTask = some wait := awaits.symm.trans awaited
    exact ⟨kept.slotStarted wait pending, fun origin => own wait origin pending⟩
  · exact .inr ⟨own wait origin pending started, .inl (awaits.trans pending)⟩
  · rcases covered with awaited | ended
    · exact absurd (waitsForNothing.symm.trans awaited) nofun
    · exact absurd ended goesOn

/-- A wait goes on. -/
theorem withStatus
    (kept : Kept state)
    {wait : Nat} {status : WaitStatus}
    (unfinished : (state.waits wait).status ≠ .finished)
    (quiet : state.publishing (.continuation wait) = none) :
    Kept (state.withStatus wait status) := by
  have origins : ∀ other,
      ((state.withStatus wait status).waits other).startedIn =
        (state.waits other).startedIn := by
    intro other
    rcases eq_or_ne other wait with rfl | different
    · simp only [State.withStatus, Function.update_self]
    · simp only [State.withStatus, Function.update_of_ne different]
  have before : ∀ other,
      ((state.withStatus wait status).waits other).status ≠ .finished →
        (state.waits other).status ≠ .finished := by
    intro other
    rcases eq_or_ne other wait with rfl | different
    · exact fun _ => unfinished
    · simp only [State.withStatus, Function.update_of_ne different]
      exact id
  exact
    { waitStarted := fun other open_ => kept.waitStarted other (before other open_)
      publishingStarted := kept.publishingStarted
      slotStarted := kept.slotStarted
      awaitedStarted := kept.awaitedStarted
      bodyRuns := kept.bodyRuns
      nested := fun parent other publishing => by
        have different : parent ≠ wait := by
          rintro rfl
          exact absurd (quiet.symm.trans publishing) nofun
        obtain ⟨earlier, dispatching, same⟩ := kept.nested parent other publishing
        refine ⟨earlier, ?_, by rw [origins, origins, same]⟩
        simpa only [State.withStatus, Function.update_of_ne different] using
          dispatching
      located := fun other origin started open_ => by
        rw [origins] at started
        cases kept.located other origin started (before other open_) with
        | body publishing => exact .body publishing
        | continuation parent publishing => exact .continuation parent publishing
        | slot pending => exact .slot pending
        | loop covered => exact .loop covered
      needed := fun other origin started open_ => by
        rw [origins] at started
        exact kept.needed other origin started (before other open_)
      own := fun loop other origin awaited started => by
        rw [origins] at started
        exact kept.own loop other origin awaited started }

/-- A wait that is started belongs to an iteration that may leave it. -/
theorem iterationOf_mayNeed
    (kept : Kept state)
    {chain : Chain} {origin : Iteration}
    (runs : Runs state chain)
    (part : iterationOf state chain = some origin) :
    MayNeed (state.loops origin.loop) origin.iteration := by
  cases chain with
  | body loop =>
      obtain rfl := Option.some.inj part
      rw [MayNeed, show (state.loops loop).phase = .body from runs]
  | continuation wait =>
      have dispatching : (state.waits wait).status = .dispatching := runs
      exact kept.needed wait origin part (by rw [dispatching]; nofun)
  | other => cases part

/-- The chain that starts a wait of a loop is on the way to publish it. -/
theorem started_located
    {chain : Chain} {origin : Iteration}
    (part : iterationOf state chain = some origin)
    {next : State} {wait : Nat}
    (publishing : next.publishing chain = some wait) :
    Located next wait origin.loop := by
  cases chain with
  | body loop =>
      obtain rfl := Option.some.inj part
      exact .body publishing
  | continuation parent => exact .continuation parent publishing
  | other => cases part

/-- A chain starts a wait. -/
theorem startWait
    (kept : Kept state)
    {chain : Chain}
    (runs : Runs state chain)
    (idle : state.publishing chain = none) :
    Kept { state with
      waits := Function.update state.waits state.started
        { startedIn := iterationOf state chain, status := .waiting }
      started := state.started + 1
      publishing :=
        Function.update state.publishing chain (some state.started) } := by
  have older : ∀ wait < state.started, ∀ fresh : Wait,
      Function.update state.waits state.started fresh wait =
        state.waits wait := fun wait earlier fresh =>
    Function.update_of_ne (Nat.ne_of_lt earlier) _ _
  have publishes : ∀ other wait,
      Function.update state.publishing chain (some state.started) other =
        some wait →
          other = chain ∧ wait = state.started ∨
            state.publishing other = some wait := by
    intro other wait publishing
    rcases eq_or_ne other chain with rfl | different
    · rw [Function.update_self] at publishing
      exact .inl ⟨rfl, (Option.some.inj publishing).symm⟩
    · rw [Function.update_of_ne different] at publishing
      exact .inr publishing
  have keeps : ∀ other wait, state.publishing other = some wait →
      Function.update state.publishing chain (some state.started) other =
        some wait := by
    intro other wait publishing
    rcases eq_or_ne other chain with rfl | different
    · exact absurd (idle.symm.trans publishing) nofun
    · rwa [Function.update_of_ne different]
  exact
    { waitStarted := fun wait unfinished => by
        rcases eq_or_ne wait state.started with rfl | different
        · exact Nat.lt_succ_self _
        · simp only [Function.update_of_ne different] at unfinished
          exact Nat.lt_succ_of_lt (kept.waitStarted wait unfinished)
      publishingStarted := fun other wait publishing => by
        rcases publishes other wait publishing with ⟨-, rfl⟩ | before
        · exact Nat.lt_succ_self _
        · exact Nat.lt_succ_of_lt (kept.publishingStarted other wait before)
      slotStarted := fun wait pending =>
        Nat.lt_succ_of_lt (kept.slotStarted wait pending)
      awaitedStarted := fun loop wait awaited =>
        Nat.lt_succ_of_lt (kept.awaitedStarted loop wait awaited)
      bodyRuns := fun loop publishing => by
        obtain ⟨wait, publishing⟩ := Option.ne_none_iff_exists'.mp publishing
        rcases publishes _ wait publishing with ⟨rfl, -⟩ | before
        · exact runs
        · exact kept.bodyRuns loop (by rw [before]; nofun)
      nested := fun parent wait publishing => by
        rcases publishes _ wait publishing with ⟨rfl, rfl⟩ | before
        · have dispatching : (state.waits parent).status = .dispatching := runs
          have earlier := kept.waitStarted parent (by rw [dispatching]; nofun)
          refine ⟨earlier, ?_, ?_⟩
          · simp only [older parent earlier, dispatching]
          · simp only [older parent earlier, Function.update_self]
            rfl
        · obtain ⟨earlier, dispatching, same⟩ := kept.nested parent wait before
          have later := kept.publishingStarted _ wait before
          have old := older parent (Nat.lt_trans earlier later)
          refine ⟨earlier, ?_, ?_⟩
          · simp only [old, dispatching]
          · simp only [old, older wait later, same]
      located := fun wait origin started unfinished => by
        rcases eq_or_ne wait state.started with rfl | different
        · simp only [Function.update_self] at started
          exact started_located started (Function.update_self ..)
        · simp only [Function.update_of_ne different] at started unfinished
          cases kept.located wait origin started unfinished with
          | body publishing => exact .body (keeps _ _ publishing)
          | continuation parent publishing =>
              exact .continuation parent (keeps _ _ publishing)
          | slot pending => exact .slot pending
          | loop covered => exact .loop covered
      needed := fun wait origin started unfinished => by
        rcases eq_or_ne wait state.started with rfl | different
        · simp only [Function.update_self] at started
          exact kept.iterationOf_mayNeed runs started
        · simp only [Function.update_of_ne different] at started unfinished
          exact kept.needed wait origin started unfinished
      own := fun loop wait origin awaited started => by
        simp only [older wait (kept.awaitedStarted loop wait awaited)] at started
        exact kept.own loop wait origin awaited started }

/-- A wait that a loop needs is not the one that may be forgotten. -/
theorem not_pending
    (free : Holds state Wait.MayBeForgotten)
    {wait : Nat} {origin : Iteration}
    (started : (state.waits wait).startedIn = some origin)
    (unfinished : (state.waits wait).status ≠ .finished) :
    state.pendingAsyncTask ≠ some wait := by
  intro pending
  rcases free wait pending with foreign | finished
  · simp [Wait.loop, started] at foreign
  · exact unfinished finished

/-- A chain publishes the wait that it has started. -/
theorem publish
    (kept : Kept state)
    {chain : Chain} {published : Nat}
    (publishing : state.publishing chain = some published)
    (free : Holds state Wait.MayBeForgotten) :
    Kept { state with
      publishing := Function.update state.publishing chain none
      pendingAsyncTask := some published } := by
  have still : ∀ other wait,
      Function.update state.publishing chain none other = some wait →
        state.publishing other = some wait := by
    intro other wait stillPublishing
    rcases eq_or_ne other chain with rfl | different
    · rw [Function.update_self] at stillPublishing
      cases stillPublishing
    · rwa [Function.update_of_ne different] at stillPublishing
  have moved : ∀ other wait, state.publishing other = some wait →
      Function.update state.publishing chain none other = some wait ∨
        some published = some wait := by
    intro other wait before
    rcases eq_or_ne other chain with rfl | different
    · exact .inr (publishing.symm.trans before)
    · exact .inl (by rwa [Function.update_of_ne different])
  exact
    { waitStarted := kept.waitStarted
      publishingStarted := fun other wait before =>
        kept.publishingStarted other wait (still other wait before)
      slotStarted := fun wait pending =>
        kept.publishingStarted chain wait (publishing.trans pending)
      awaitedStarted := kept.awaitedStarted
      bodyRuns := fun loop busy => by
        obtain ⟨wait, busy⟩ := Option.ne_none_iff_exists'.mp busy
        exact kept.bodyRuns loop (by rw [still _ wait busy]; nofun)
      nested := fun parent wait busy => kept.nested parent wait (still _ wait busy)
      located := fun wait origin started unfinished => by
        cases kept.located wait origin started unfinished with
        | body busy =>
            rcases moved _ wait busy with before | now
            · exact .body before
            · exact .slot now
        | continuation parent busy =>
            rcases moved _ wait busy with before | now
            · exact .continuation parent before
            · exact .slot now
        | slot pending => exact absurd pending (not_pending free started unfinished)
        | loop covered => exact .loop covered
      needed := kept.needed
      own := kept.own }

/-- The slot is emptied. -/
theorem disconnect
    (kept : Kept state)
    (free : Holds state Wait.MayBeForgotten) :
    Kept { state with pendingAsyncTask := none } where
  waitStarted := kept.waitStarted
  publishingStarted := kept.publishingStarted
  slotStarted := nofun
  awaitedStarted := kept.awaitedStarted
  bodyRuns := kept.bodyRuns
  nested := kept.nested
  located wait origin started unfinished := by
    cases kept.located wait origin started unfinished with
    | body publishing => exact .body publishing
    | continuation parent publishing => exact .continuation parent publishing
    | slot pending => exact absurd pending (not_pending free started unfinished)
    | loop covered => exact .loop covered
  needed := kept.needed
  own := kept.own

/-- A wait that waits starts no other. -/
theorem quiet
    (kept : Kept state)
    {wait : Nat}
    (waiting : (state.waits wait).status = .waiting) :
    state.publishing (.continuation wait) = none := by
  by_contra publishing
  obtain ⟨other, publishing⟩ := Option.ne_none_iff_exists'.mp publishing
  have dispatching := (kept.nested wait other publishing).2.1
  exact absurd (waiting.symm.trans dispatching) nofun

/-! ## Steps keep it -/

/-- A loop that awaits nothing and has not ended covers no wait. -/
theorem not_covers
    {phase : LoopPhase}
    (awaits : phase.awaited = none) (goesOn : phase ≠ .ended) (wait : Nat) :
    ¬ phase.Covers wait := by
  rintro (awaited | ended)
  · exact absurd (awaits.symm.trans awaited) nofun
  · exact goesOn ended

/-- Every guarded step keeps it. -/
theorem step
    (kept : Kept state)
    {label : Label} {next : State}
    (free : SlotIsFree state label)
    (moves : system.step state label = some next) :
    Kept next := by
  cases label with
  | startLoop loop maxIterations =>
      simp only [system, Loops.step, Option.ite_none_right_eq_some,
        Option.some.injEq] at moves
      obtain ⟨stands, rfl⟩ := moves
      exact kept.advance (fun _ pending => pending)
        (fun publishing => absurd (stands.symm.trans
          (kept.bodyRuns loop publishing)) (by simp))
        (by rintro _ ⟨⟩) (fun _ _ _ _ _ => trivial) (fun _ _ _ _ pending => .inl pending)
        fun wait _ covered => absurd covered
          (not_covers (by rw [stands]; rfl) (by rw [stands]; simp) wait)
  | evaluate loop continues =>
      simp only [system, Loops.step, Option.ite_none_right_eq_some] at moves
      obtain ⟨stands, moves⟩ := moves
      have idle : state.publishing (.body loop) ≠ none → False :=
        fun publishing => absurd (stands.symm.trans
          (kept.bodyRuns loop publishing)) (by simp)
      have uncovered (wait : Nat) : ¬ (state.loops loop).phase.Covers wait :=
        not_covers (by rw [stands]; rfl) (by rw [stands]; simp) wait
      split at moves
      next =>
        obtain rfl := Option.some.inj moves
        exact kept.withPhase (fun publishing => (idle publishing).elim) rfl
          (fun _ _ _ _ _ => trivial)
          fun wait _ covered => absurd covered (uncovered wait)
      next exits =>
        obtain rfl := Option.some.inj moves
        have concern := free.resolve_left exits
        refine kept.withPhase (fun publishing => (idle publishing).elim) rfl
          (fun wait origin started unfinished same => ?_)
          fun wait _ covered => absurd covered (uncovered wait)
        exact unfinished (kept.allFinished (by rw [stands]; simp)
          (by rw [stands]; rintro ⟨⟩) (by rw [stands]; rintro _ ⟨⟩) concern started same)
  | clear loop =>
      simp only [system, Loops.step, Option.ite_none_right_eq_some,
        Option.some.injEq] at moves
      obtain ⟨stands, rfl⟩ := moves
      exact kept.takes rfl free (by rw [stands]; simp) (by rw [stands]; rfl)
        (by rw [stands]; simp) fun _ _ _ _ _ => trivial
  | beginBody loop =>
      simp only [system, Loops.step] at moves
      split at moves
      next task stands =>
        simp only [Option.ite_none_right_eq_some, Option.some.injEq] at moves
        obtain ⟨completed, rfl⟩ := moves
        have finished : IsCompleted state (state.loops loop).phase.awaited := by
          rwa [stands]
        refine kept.withPhase (fun _ => rfl) rfl
          (fun wait origin started unfinished same => ?_)
          fun wait unfinished covered => ?_
        · exact absurd (kept.allFinished (by rw [stands]; simp)
            (by rw [stands]; simp) finished free started same) unfinished
        · rcases covered with awaited | ended
          · exact absurd (finished wait awaited) unfinished
          · exact absurd (stands.symm.trans ended) (by simp)
      next => cases moves
  | endBody loop =>
      simp only [system, Loops.step, Option.ite_none_right_eq_some,
        Option.some.injEq] at moves
      obtain ⟨⟨stands, idle⟩, rfl⟩ := moves
      refine kept.withPhase (fun publishing => absurd idle publishing) rfl
        (fun wait origin started unfinished same => ?_)
        fun wait _ covered => absurd covered
          (not_covers (by rw [stands]; rfl) (by rw [stands]; simp) wait)
      have needs := kept.needed wait origin started unfinished
      rw [same, MayNeed, stands] at needs
      exact needs
  | take loop =>
      simp only [system, Loops.step, Option.ite_none_right_eq_some,
        Option.some.injEq] at moves
      obtain ⟨stands, rfl⟩ := moves
      refine kept.takes rfl free (by rw [stands]; simp) (by rw [stands]; rfl)
        (by rw [stands]; simp) fun wait origin started unfinished same => ?_
      have needs := kept.needed wait origin started unfinished
      rw [same, MayNeed, stands] at needs
      exact needs
  | iterate loop =>
      simp only [system, Loops.step] at moves
      split at moves
      next task stands =>
        simp only [Option.ite_none_right_eq_some, Option.some.injEq] at moves
        obtain ⟨completed, rfl⟩ := moves
        refine kept.advance (fun _ pending => pending)
          (fun publishing => absurd (stands.symm.trans
            (kept.bodyRuns loop publishing)) (by simp))
          (by rintro _ ⟨⟩) (fun _ _ _ _ _ => trivial)
          (fun _ _ _ _ pending => .inl pending) fun wait unfinished covered => ?_
        rw [stands] at covered
        rcases covered with awaited | ended
        · exact absurd (completed wait awaited) unfinished
        · cases ended
      next => cases moves
  | endLoop loop =>
      simp only [system, Loops.step, Option.ite_none_right_eq_some,
        Option.some.injEq] at moves
      obtain ⟨may, rfl⟩ := moves
      refine kept.withPhase (fun publishing => ?_) rfl
        (fun _ _ _ _ _ => trivial) fun _ _ _ => rfl
      rw [MayEnd, kept.bodyRuns loop publishing] at may
      exact absurd may publishing
  | startWait chain =>
      simp only [system, Loops.step, Option.ite_none_right_eq_some,
        Option.some.injEq] at moves
      obtain ⟨⟨runs, idle⟩, rfl⟩ := moves
      exact kept.startWait runs idle
  | publish chain =>
      simp only [system, Loops.step] at moves
      split at moves
      next wait publishing =>
        obtain rfl := Option.some.inj moves
        exact kept.publish publishing free
      next => cases moves
  | dispatch wait =>
      simp only [system, Loops.step, Option.ite_none_right_eq_some,
        Option.some.injEq] at moves
      obtain ⟨waiting, rfl⟩ := moves
      exact kept.withStatus (by rw [waiting]; simp) (kept.quiet waiting)
  | cancel wait =>
      simp only [system, Loops.step, Option.ite_none_right_eq_some,
        Option.some.injEq] at moves
      obtain ⟨waiting, rfl⟩ := moves
      exact kept.withStatus (by rw [waiting]; simp) (kept.quiet waiting)
  | finish wait =>
      simp only [system, Loops.step, Option.ite_none_right_eq_some,
        Option.some.injEq] at moves
      obtain ⟨⟨dispatching, quiet⟩, rfl⟩ := moves
      exact kept.withStatus (by rw [dispatching]; simp) quiet
  | disconnect =>
      obtain rfl := Option.some.inj moves
      exact kept.disconnect free

/-- What the invariant says of the waits. -/
theorem waitsForWaits (kept : Kept state) : WaitsForWaits state where
  nextIteration wait origin started stands later := by
    by_contra unfinished
    have needs := kept.needed wait origin started unfinished
    rw [MayNeed, stands] at needs
    exact Nat.ne_of_lt later needs
  exitNodes wait origin started stands := by
    by_contra unfinished
    have needs := kept.needed wait origin started unfinished
    rw [MayNeed, stands] at needs
    exact needs
  ownTasks loop wait awaited := by
    match started : (state.waits wait).startedIn with
    | none => exact .inl (by rw [Wait.loop, started]; rfl)
    | some origin =>
        have own := kept.own loop wait origin awaited started
        exact .inr (by rw [Wait.loop, started, ← own]; rfl)

end Kept

/-! ## Main results -/

theorem initial_kept : Kept {} where
  waitStarted _ unfinished := absurd rfl unfinished
  publishingStarted := nofun
  slotStarted := nofun
  awaitedStarted := nofun
  bodyRuns _ publishing := absurd rfl publishing
  nested := nofun
  located := nofun
  needed := nofun
  own := nofun

/-- An iteration whose wait continues with another wait, up to the body of the next
one and the exit nodes. -/
def nestedSchedule : List Label :=
  [.startLoop 0 2, .evaluate 0 true, .clear 0, .beginBody 0,
    .startWait (.body 0), .publish (.body 0), .endBody 0, .take 0, .dispatch 0,
    .startWait (.continuation 0), .publish (.continuation 0), .finish 0,
    .iterate 0, .evaluate 0 true, .clear 0, .dispatch 1, .finish 1, .beginBody 0,
    .startWait (.body 0), .publish (.body 0), .endBody 0, .take 0, .cancel 2,
    .iterate 0, .evaluate 0 true]

def nestedState : State :=
  (system.guardedRun SlotIsFree {} nestedSchedule).getD {}

/-- The body waits for two packets.  The second arrives and the first does not. -/
def twoWaitsSchedule : List Label :=
  [.startLoop 0 2, .evaluate 0 true, .clear 0, .beginBody 0,
    .startWait (.body 0), .publish (.body 0), .startWait (.body 0),
    .publish (.body 0), .endBody 0, .take 0, .dispatch 1, .finish 1, .iterate 0,
    .evaluate 0 true, .clear 0, .beginBody 0]

def twoWaitsState : State := (system.run {} twoWaitsSchedule).getD {}

end Loops
end MultiSocketRudp
