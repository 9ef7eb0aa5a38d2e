import Mathlib
import MultiSocketRudp.Lib.TransitionSystem

/-!
# Calls and tasks in an environment

A program asks for answers from outside, calls, and starts tasks.  A call is answered
at once, or a body runs in an environment of its own, which ends with the body.  A
task starts in the environment of the program that starts it, and runs by itself.

If every call that runs a body takes its environment to a lower rank, then all
programs come to an end, in whatever order they take their steps.
-/

namespace ForkingCalls

open TransitionSystems

/-! ## Programs -/

/-- A program with a result, or a fault. -/
inductive Program (Call Result Fault : Type) : Type → Type 1
  | pure {α : Type} (value : α) : Program Call Result Fault α
  | throw {α : Type} (fault : Fault) : Program Call Result Fault α
  /-- Something outside is asked, which may answer or fail. -/
  | ask {α : Type} (next : Except Fault Bool → Program Call Result Fault α) :
      Program Call Result Fault α
  | call {α : Type} (argument : Call)
      (next : Except Fault Result → Program Call Result Fault α) :
      Program Call Result Fault α
  | start {α : Type} (task : Program Call Result Fault Unit)
      (next : Program Call Result Fault α) :
      Program Call Result Fault α

namespace Program

variable {Call Result Fault : Type}

/-- One program after the other. -/
def bind {α β : Type} :
    Program Call Result Fault α → (α → Program Call Result Fault β) →
      Program Call Result Fault β
  | .pure value, behind => behind value
  | .throw fault, _ => .throw fault
  | .ask next, behind => .ask fun answer => (next answer).bind behind
  | .call argument next, behind =>
      .call argument fun result => (next result).bind behind
  | .start task next, behind => .start task (next.bind behind)

/-- A program with a handler for its faults. -/
def tryCatch {α : Type} :
    Program Call Result Fault α → (Fault → Program Call Result Fault α) →
      Program Call Result Fault α
  | .pure value, _ => .pure value
  | .throw fault, handler => handler fault
  | .ask next, handler => .ask fun answer => (next answer).tryCatch handler
  | .call argument next, handler =>
      .call argument fun result => (next result).tryCatch handler
  | .start task next, handler => .start task (next.tryCatch handler)

instance : Monad (Program Call Result Fault) where
  pure := .pure
  bind := .bind

instance : MonadExceptOf Fault (Program Call Result Fault) where
  throw := .throw
  tryCatch := .tryCatch

/-- The answer from outside. -/
def answer : Program Call Result Fault Bool :=
  .ask fun
    | .ok value => .pure value
    | .error fault => .throw fault

/-- The result of a call. -/
def result (argument : Call) : Program Call Result Fault Result :=
  .call argument fun
    | .ok value => .pure value
    | .error fault => .throw fault

/-- A task that is started. -/
def fork (task : Program Call Result Fault Unit) :
    Program Call Result Fault Unit :=
  .start task (.pure ())

end Program

/-! ## Threads -/

section Threads

variable {Environment Call Result Fault : Type}

/-- What calls do: they are answered at once, or a body runs in an environment of
its own. -/
abbrev Calls (Environment Call Result Fault : Type) :=
  Environment → Call →
    Result ⊕ (Environment × Program Call Result Fault Result)

/-- A call whose body runs, and how its caller goes on. -/
structure Frame (Environment Call Result Fault : Type) where
  argument : Call
  environment : Environment
  next : Except Fault Result → Program Call Result Fault Result

/-- A thread, with the calls in which it has been started. -/
structure Thread (Environment Call Result Fault : Type) where
  control : Program Call Result Fault Result
  environment : Environment
  frames : List (Frame Environment Call Result Fault)
  startedIn : List Call

/-- The calls in which the thread is, through bodies that run and tasks that have been
started, the innermost first. -/
def Thread.ancestors (thread : Thread Environment Call Result Fault) : List Call :=
  thread.frames.map Frame.argument ++ thread.startedIn

/-- What a step of a thread does: the thread goes on, another one may start, and the
body of a call may begin to run. -/
structure Effect (Environment Call Result Fault : Type) where
  thread : Thread Environment Call Result Fault
  started : Option (Thread Environment Call Result Fault) := none
  entered : Option Call := none

/-- The step of a thread, with the answer that it gets if it asks for one. -/
def Thread.step [Inhabited Result]
    (calls : Calls Environment Call Result Fault)
    (thread : Thread Environment Call Result Fault)
    (answer : Except Fault Bool) :
    Option (Effect Environment Call Result Fault) :=
  match thread.control, thread.frames with
  | .pure _, [] | .throw _, [] => none
  | .pure value, frame :: frames =>
      some { thread := { thread with
        control := frame.next (.ok value)
        environment := frame.environment
        frames } }
  | .throw fault, frame :: frames =>
      some { thread := { thread with
        control := frame.next (.error fault)
        environment := frame.environment
        frames } }
  | .ask next, _ => some { thread := { thread with control := next answer } }
  | .call argument next, frames =>
      match calls thread.environment argument with
      | .inl result => some { thread := { thread with control := next (.ok result) } }
      | .inr (environment, body) =>
          some {
            thread := { thread with
              control := body
              environment
              frames := ⟨argument, thread.environment, next⟩ :: frames }
            entered := some argument }
  | .start task next, _ =>
      some {
        thread := { thread with control := next }
        started := some {
          control := task.bind fun _ => .pure default
          environment := thread.environment
          frames := []
          startedIn := thread.ancestors } }

/-- A call whose body has begun to run, and the calls that it was in. -/
structure Entry (Call : Type) where
  argument : Call
  ancestors : List Call
  deriving DecidableEq, Repr

/-- The threads, and the bodies that have begun to run, the latest first. -/
structure State (Environment Call Result Fault : Type) where
  threads : List (Thread Environment Call Result Fault)
  entered : List (Entry Call) := []

/-- A step of one of the threads. -/
def State.step [Inhabited Result]
    (calls : Calls Environment Call Result Fault)
    (state : State Environment Call Result Fault)
    (label : Nat × Except Fault Bool) :
    Option (State Environment Call Result Fault) := do
  let thread ← state.threads[label.1]?
  let effect ← thread.step calls label.2
  return {
    threads := state.threads.set label.1 effect.thread ++ effect.started.toList
    entered := effect.entered.toList.map (⟨·, thread.ancestors⟩) ++ state.entered }

/-- The threads that a state begins with, with their steps. -/
def system [Inhabited Result]
    (calls : Calls Environment Call Result Fault)
    (initial : State Environment Call Result Fault) :
    TransitionSystem (State Environment Call Result Fault)
      (Nat × Except Fault Bool) where
  Initial state := state = initial
  step := State.step calls

variable [Inhabited Result] {calls : Calls Environment Call Result Fault}

/-- What a step of the state does. -/
theorem State.step_eq
    {state next : State Environment Call Result Fault}
    {label : Nat × Except Fault Bool}
    (steps : state.step calls label = some next) :
    ∃ thread effect, state.threads[label.1]? = some thread ∧
      thread.step calls label.2 = some effect ∧
      next.threads =
        state.threads.set label.1 effect.thread ++ effect.started.toList ∧
      next.entered =
        effect.entered.toList.map (⟨·, thread.ancestors⟩) ++ state.entered := by
  obtain ⟨thread, found, steps⟩ := Option.bind_eq_some_iff.mp steps
  obtain ⟨effect, moves, steps⟩ := Option.bind_eq_some_iff.mp steps
  cases steps
  exact ⟨thread, effect, found, moves, rfl, rfl⟩

/-- Nothing is left of the thread but its result. -/
inductive Thread.Ended : Thread Environment Call Result Fault → Prop
  | result (value : Result) (environment : Environment) (startedIn : List Call) :
      Ended ⟨.pure value, environment, [], startedIn⟩
  | fault (fault : Fault) (environment : Environment) (startedIn : List Call) :
      Ended ⟨.throw fault, environment, [], startedIn⟩

/-- A thread that cannot take a step has ended. -/
theorem Thread.ended_of_step
    {thread : Thread Environment Call Result Fault} {answer : Except Fault Bool}
    (stops : thread.step calls answer = none) : thread.Ended := by
  obtain ⟨control, environment, frames, startedIn⟩ := thread
  cases control with
  | pure value =>
      cases frames with
      | nil => exact .result value environment startedIn
      | cons => cases stops
  | throw fault =>
      cases frames with
      | nil => exact .fault fault environment startedIn
      | cons => cases stops
  | ask | start => cases stops
  | call argument next =>
      rw [Thread.step] at stops
      dsimp only at stops
      split at stops <;> cases stops

/-- So has every thread of a state without steps. -/
theorem State.ended_of_step
    {state : State Environment Call Result Fault} (answer : Except Fault Bool)
    (stops : ∀ index, state.step calls (index, answer) = none) :
    ∀ thread ∈ state.threads, thread.Ended := by
  intro thread among
  obtain ⟨index, found⟩ := List.getElem?_of_mem among
  have stops := stops index
  rw [State.step, found] at stops
  cases moves : thread.step calls answer with
  | none => exact Thread.ended_of_step moves
  | some effect =>
      dsimp only at stops
      rw [Option.bind_eq_bind, Option.bind_some, moves] at stops
      cases stops

end Threads

/-! ## Weights -/

section Weights

variable {Environment Call Result Fault : Type} [Fintype Result] [Fintype Fault]

/-- What all outcomes weigh together. -/
def outcomes {Value : Type} [Fintype Value] (weight : Except Fault Value → Nat) : Nat :=
  ∑ fault, weight (.error fault) + ∑ value, weight (.ok value)

omit [Fintype Result] in
theorem le_outcomes
    {Value : Type} [Fintype Value]
    (weight : Except Fault Value → Nat) (outcome : Except Fault Value) :
    weight outcome ≤ outcomes weight := by
  cases outcome with
  | error fault =>
      exact (Finset.single_le_sum (f := fun fault => weight (.error fault))
        (fun _ _ => Nat.zero_le _) (Finset.mem_univ fault)).trans
          (Nat.le_add_right _ _)
  | ok value =>
      exact (Finset.single_le_sum (f := fun value => weight (.ok value))
        (fun _ _ => Nat.zero_le _) (Finset.mem_univ value)).trans
          (Nat.le_add_left _ _)

omit [Fintype Result] in
theorem outcomes_mono
    {Value : Type} [Fintype Value] {less more : Except Fault Value → Nat}
    (grows : ∀ outcome, less outcome ≤ more outcome) :
    outcomes less ≤ outcomes more :=
  Nat.add_le_add (Finset.sum_le_sum fun fault _ => grows (.error fault))
    (Finset.sum_le_sum fun value _ => grows (.ok value))

namespace Program

/-- The steps that a program can take, and those of the tasks that it starts, if the
body of a call takes no more than its cost. -/
def weight (cost : Nat) : {α : Type} → Program Call Result Fault α → Nat
  | _, .pure _ | _, .throw _ => 1
  | _, .ask next => 1 + outcomes fun answer => (next answer).weight cost
  | _, .call _ next =>
      1 + cost + outcomes fun result => (next result).weight cost
  | _, .start task next => 1 + task.weight cost + next.weight cost

theorem weight_mono
    {less more : Nat} (grows : less ≤ more) {α : Type}
    (program : Program Call Result Fault α) :
    program.weight less ≤ program.weight more := by
  induction program with
  | pure | throw => exact le_refl _
  | ask next inductionHypothesis =>
      exact Nat.add_le_add_left (outcomes_mono inductionHypothesis) 1
  | call argument next inductionHypothesis =>
      exact Nat.add_le_add (Nat.add_le_add_left grows 1)
        (outcomes_mono inductionHypothesis)
  | start task next task_le next_le =>
      exact Nat.add_le_add (Nat.add_le_add_left task_le 1) next_le

/-- Another result changes nothing. -/
theorem weight_bind_pure
    (cost : Nat) {α β : Type} (value : β)
    (program : Program Call Result Fault α) :
    (program.bind fun _ => .pure value).weight cost = program.weight cost := by
  induction program with
  | pure | throw => rfl
  | ask next inductionHypothesis =>
      simp only [bind, weight, inductionHypothesis]
  | call argument next inductionHypothesis =>
      simp only [bind, weight, inductionHypothesis]
  | start task next _ inductionHypothesis =>
      simp only [bind, weight, inductionHypothesis]

end Program

/-- No body takes more than the cost of its call. -/
def Covers
    (calls : Calls Environment Call Result Fault) (cost : Environment → Nat) : Prop :=
  ∀ environment argument within body,
    calls environment argument = .inr (within, body) →
      body.weight (cost within) ≤ cost environment

/-- The steps that are left to a caller. -/
def Frame.weight
    (cost : Environment → Nat) (frame : Frame Environment Call Result Fault) : Nat :=
  outcomes fun result => (frame.next result).weight (cost frame.environment)

def Thread.weight
    (cost : Environment → Nat) (thread : Thread Environment Call Result Fault) : Nat :=
  thread.control.weight (cost thread.environment) +
    (thread.frames.map (Frame.weight cost)).sum

def State.weight
    (cost : Environment → Nat) (state : State Environment Call Result Fault) : Nat :=
  (state.threads.map (Thread.weight cost)).sum

variable [Inhabited Result]
variable {calls : Calls Environment Call Result Fault} {cost : Environment → Nat}

omit [Inhabited Result] in
/-- A caller goes on with one of the outcomes. -/
theorem Frame.weight_next_le
    (cost : Environment → Nat) (frame : Frame Environment Call Result Fault)
    (result : Except Fault Result) :
    (frame.next result).weight (cost frame.environment) ≤ frame.weight cost :=
  le_outcomes (fun result => (frame.next result).weight (cost frame.environment)) result

/-- A step lowers the weight of the thread by more than what it starts weighs. -/
theorem Thread.weight_step
    (covers : Covers calls cost)
    {thread : Thread Environment Call Result Fault} {answer : Except Fault Bool}
    {effect : Effect Environment Call Result Fault}
    (steps : thread.step calls answer = some effect) :
    effect.thread.weight cost + (effect.started.toList.map (Thread.weight cost)).sum <
      thread.weight cost := by
  obtain ⟨control, environment, frames, startedIn⟩ := thread
  cases control with
  | pure value =>
      cases frames with
      | nil => cases steps
      | cons frame frames =>
          cases steps
          have resumed := frame.weight_next_le cost (.ok value)
          simp only [Thread.weight, Program.weight, List.map_cons, List.sum_cons,
            Option.toList_none, List.map_nil, List.sum_nil]
          omega
  | throw fault =>
      cases frames with
      | nil => cases steps
      | cons frame frames =>
          cases steps
          have resumed := frame.weight_next_le cost (.error fault)
          simp only [Thread.weight, Program.weight, List.map_cons, List.sum_cons,
            Option.toList_none, List.map_nil, List.sum_nil]
          omega
  | ask next =>
      cases steps
      have answered := le_outcomes
        (fun answer => (next answer).weight (cost environment)) answer
      simp only [Thread.weight, Program.weight, Option.toList_none, List.map_nil,
        List.sum_nil]
      omega
  | call argument next =>
      rw [Thread.step] at steps
      dsimp only at steps
      cases called : calls environment argument with
      | inl result =>
          rw [called] at steps
          cases steps
          have answered := le_outcomes
            (fun result => (next result).weight (cost environment)) (.ok result)
          simp only [Thread.weight, Program.weight, Option.toList_none, List.map_nil,
            List.sum_nil]
          omega
      | inr entered =>
          rw [called] at steps
          cases steps
          have covered := covers environment argument _ _ called
          simp only [Thread.weight, Program.weight, Frame.weight, List.map_cons,
            List.sum_cons, Option.toList_none, List.map_nil, List.sum_nil]
          omega
  | start task next =>
      cases steps
      simp only [Thread.weight, Program.weight, Program.weight_bind_pure,
        Option.toList_some, List.map_cons, List.map_nil, List.sum_cons, List.sum_nil]
      omega

omit [Fintype Result] [Fintype Fault] [Inhabited Result] in
theorem sum_set_add
    (weights : List Nat) {index : Nat} (inside : index < weights.length)
    (weight : Nat) :
    (weights.set index weight).sum + weights[index] = weights.sum + weight := by
  induction weights generalizing index with
  | nil => cases inside
  | cons first weights inductionHypothesis =>
      cases index with
      | zero =>
          simp only [List.set_cons_zero, List.sum_cons, List.getElem_cons_zero]
          omega
      | succ index =>
          have rest := inductionHypothesis (Nat.lt_of_succ_lt_succ inside)
          simp only [List.set_cons_succ, List.sum_cons, List.getElem_cons_succ]
          omega

/-- A step lowers the weight of the state. -/
theorem State.weight_step
    (covers : Covers calls cost)
    {state next : State Environment Call Result Fault}
    {label : Nat × Except Fault Bool}
    (steps : state.step calls label = some next) :
    next.weight cost < state.weight cost := by
  obtain ⟨thread, effect, found, moves, threads, -⟩ := State.step_eq steps
  obtain ⟨inside, rfl⟩ := List.getElem?_eq_some_iff.mp found
  have lowered := Thread.weight_step covers moves
  have replaced := sum_set_add (state.threads.map (Thread.weight cost))
    (by rwa [List.length_map]) (effect.thread.weight cost)
  rw [List.getElem_map] at replaced
  rw [State.weight, State.weight, threads, List.map_append, List.map_set,
    List.sum_append]
  omega

/-- A run from a state has no more steps than the state weighs. -/
theorem length_le_weight
    (covers : Covers calls cost)
    {initial state last : State Environment Call Result Fault}
    {labels : List (Nat × Except Fault Bool)}
    (runs : (system calls initial).run state labels = some last) :
    labels.length + last.weight cost ≤ state.weight cost := by
  have counted := TransitionSystem.counted_of_run
    (fun steps reached => steps + reached.weight cost ≤ state.weight cost)
    (fun moves counted => by
      have lowered := State.weight_step covers moves
      omega)
    0 runs (Nat.zero_add _).le
  rwa [Nat.zero_add] at counted

/-! ## Ranks -/

section Ranks

variable [Fintype Environment] [Fintype Call]

/-- What the bodies of all calls weigh together. -/
def bodyWeights
    (calls : Calls Environment Call Result Fault) (cost : Nat) : Nat :=
  ∑ environment, ∑ argument,
    match calls environment argument with
    | .inl _ => 0
    | .inr (_, body) => body.weight cost

omit [Inhabited Result] in
theorem weight_le_bodyWeights
    {environment within : Environment} {argument : Call}
    {body : Program Call Result Fault Result}
    (called : calls environment argument = .inr (within, body)) (cost : Nat) :
    body.weight cost ≤ bodyWeights calls cost := by
  let weigh (environment : Environment) (argument : Call) : Nat :=
    match calls environment argument with
    | .inl _ => 0
    | .inr (_, body) => body.weight cost
  calc body.weight cost = weigh environment argument := by
        simp only [weigh, called]
    _ ≤ ∑ argument, weigh environment argument :=
        Finset.single_le_sum (f := weigh environment) (fun _ _ => Nat.zero_le _)
          (Finset.mem_univ argument)
    _ ≤ ∑ environment, ∑ argument, weigh environment argument :=
        Finset.single_le_sum
          (f := fun environment => ∑ argument, weigh environment argument)
          (fun _ _ => Nat.zero_le _) (Finset.mem_univ environment)

/-- What a call costs in an environment of a rank, if bodies run in environments of
lower ranks. -/
def levelCost (calls : Calls Environment Call Result Fault) : Nat → Nat
  | 0 => 0
  | rank + 1 => levelCost calls rank + bodyWeights calls (levelCost calls rank)

omit [Inhabited Result] in
theorem levelCost_mono : Monotone (levelCost calls) :=
  monotone_nat_of_le_succ fun _ => Nat.le_add_right _ _

omit [Inhabited Result] in
theorem covers_levelCost
    {rank : Environment → Nat}
    (deeper : ∀ environment argument within body,
      calls environment argument = .inr (within, body) →
        rank within < rank environment) :
    Covers calls fun environment => levelCost calls (rank environment) := by
  intro environment argument within body called
  have lower := deeper environment argument within body called
  obtain ⟨below, isRank⟩ := Nat.exists_eq_add_of_lt lower
  have grows : levelCost calls (rank within) ≤ levelCost calls (rank within + below) :=
    levelCost_mono (Nat.le_add_right _ _)
  dsimp only
  rw [isRank, levelCost]
  calc body.weight (levelCost calls (rank within))
      ≤ body.weight (levelCost calls (rank within + below)) := body.weight_mono grows
    _ ≤ bodyWeights calls (levelCost calls (rank within + below)) :=
        weight_le_bodyWeights called _
    _ ≤ _ := Nat.le_add_left _ _

end Ranks

end Weights

/-! ## Ancestors -/

section Ancestors

variable {Environment Call Result Fault : Type} [Inhabited Result]
variable {calls : Calls Environment Call Result Fault}

/-- Environments are related to the calls that they belong to, and a body runs in a
permitted call alone. -/
structure Tracks
    (calls : Calls Environment Call Result Fault)
    (Relates : Environment → List Call → Prop)
    (Permitted : Call → List Call → Prop) : Prop where
  permitted : ∀ environment ancestors argument within body,
    Relates environment ancestors →
      calls environment argument = .inr (within, body) → Permitted argument ancestors
  within : ∀ environment ancestors argument within body,
    Relates environment ancestors →
      calls environment argument = .inr (within, body) →
        Relates within (argument :: ancestors)

variable {Relates : Environment → List Call → Prop}
variable {Permitted : Call → List Call → Prop}

/-- The callers go on in environments that belong to the calls that they are in. -/
def FramesTracked
    (Relates : Environment → List Call → Prop) (startedIn : List Call) :
    List (Frame Environment Call Result Fault) → Prop
  | [] => True
  | frame :: frames =>
      Relates frame.environment (frames.map Frame.argument ++ startedIn) ∧
        FramesTracked Relates startedIn frames

structure Thread.Tracked
    (Relates : Environment → List Call → Prop)
    (thread : Thread Environment Call Result Fault) : Prop where
  environment : Relates thread.environment thread.ancestors
  frames : FramesTracked Relates thread.startedIn thread.frames

/-- What a step of a tracked thread does. -/
theorem Thread.Tracked.step
    (tracks : Tracks calls Relates Permitted)
    {thread : Thread Environment Call Result Fault} {answer : Except Fault Bool}
    {effect : Effect Environment Call Result Fault}
    (tracked : thread.Tracked Relates)
    (steps : thread.step calls answer = some effect) :
    effect.thread.Tracked Relates ∧
      (∀ started ∈ effect.started, started.Tracked Relates) ∧
      ∀ entered ∈ effect.entered, Permitted entered thread.ancestors := by
  obtain ⟨control, environment, frames, startedIn⟩ := thread
  obtain ⟨related, callers⟩ := tracked
  cases control with
  | pure | throw =>
      cases frames with
      | nil => cases steps
      | cons frame frames =>
          cases steps
          exact ⟨⟨callers.1, callers.2⟩, nofun, nofun⟩
  | ask next =>
      cases steps
      exact ⟨⟨related, callers⟩, nofun, nofun⟩
  | call argument next =>
      rw [Thread.step] at steps
      dsimp only at steps
      cases called : calls environment argument with
      | inl result =>
          rw [called] at steps
          cases steps
          exact ⟨⟨related, callers⟩, nofun, nofun⟩
      | inr entered =>
          rw [called] at steps
          cases steps
          refine ⟨⟨tracks.within _ _ _ _ _ related called, related, callers⟩, nofun,
            fun entered among => ?_⟩
          obtain rfl := Option.some.inj among
          exact tracks.permitted _ _ _ _ _ related called
  | start task next =>
      cases steps
      refine ⟨⟨related, callers⟩, fun started among => ?_, nofun⟩
      obtain rfl := Option.some.inj among
      exact ⟨related, trivial⟩

/-- Every body that has begun to run has been permitted. -/
structure State.Tracked
    (Relates : Environment → List Call → Prop)
    (Permitted : Call → List Call → Prop)
    (state : State Environment Call Result Fault) : Prop where
  threads : ∀ thread ∈ state.threads, thread.Tracked Relates
  entered : ∀ entry ∈ state.entered, Permitted entry.argument entry.ancestors

theorem State.Tracked.step
    (tracks : Tracks calls Relates Permitted)
    {state next : State Environment Call Result Fault}
    {label : Nat × Except Fault Bool}
    (tracked : state.Tracked Relates Permitted)
    (steps : state.step calls label = some next) :
    next.Tracked Relates Permitted := by
  obtain ⟨thread, effect, found, moves, threads, entered⟩ := State.step_eq steps
  obtain ⟨goesOn, starts, permitted⟩ :=
    (tracked.threads thread (List.mem_of_getElem? found)).step tracks moves
  refine ⟨fun other among => ?_, fun entry among => ?_⟩
  · rw [threads] at among
    rcases List.mem_append.mp among with among | among
    · rcases List.mem_or_eq_of_mem_set among with among | rfl
      · exact tracked.threads other among
      · exact goesOn
    · exact starts other (Option.mem_toList.mp among)
  · rw [entered] at among
    rcases List.mem_append.mp among with among | among
    · obtain ⟨argument, isEntered, rfl⟩ := List.mem_map.mp among
      exact permitted argument (Option.mem_toList.mp isEntered)
    · exact tracked.entered entry among

/-- A step begins with one body at most. -/
theorem State.length_entered_le
    {state next : State Environment Call Result Fault}
    {label : Nat × Except Fault Bool}
    (steps : state.step calls label = some next) :
    next.entered.length ≤ state.entered.length + 1 := by
  obtain ⟨thread, effect, -, -, -, entered⟩ := State.step_eq steps
  rw [entered, List.length_append, List.length_map]
  cases effect.entered with
  | none => simp
  | some call => simp [Nat.add_comm]

/-- A run keeps track of the ancestors. -/
theorem State.Tracked.run
    (tracks : Tracks calls Relates Permitted)
    {initial state last : State Environment Call Result Fault}
    {labels : List (Nat × Except Fault Bool)}
    (tracked : state.Tracked Relates Permitted)
    (runs : (system calls initial).run state labels = some last) :
    last.Tracked Relates Permitted ∧
      last.entered.length ≤ state.entered.length + labels.length := by
  have counted := TransitionSystem.counted_of_run
    (fun steps reached => reached.Tracked Relates Permitted ∧
      reached.entered.length ≤ state.entered.length + steps)
    (fun moves counted => ⟨counted.1.step tracks moves,
      (State.length_entered_le moves).trans (Nat.succ_le_succ counted.2)⟩)
    0 runs ⟨tracked, Nat.le_refl _⟩
  rwa [Nat.zero_add] at counted

end Ancestors

end ForkingCalls
