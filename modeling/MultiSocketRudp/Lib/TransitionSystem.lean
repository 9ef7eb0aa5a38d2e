import Mathlib.Logic.Function.Basic

/-!
# Transition systems with partial step functions

A concurrent program is a set of initial states and a step function on labels.
One label names one atomic step of one thread together with the outcomes that
the model leaves open; a label that is not enabled has no successor.

Reachability is taken under a guard on steps.  The trivial guard gives the
reachable states of the program, and a nontrivial guard gives the states of the
runs whose every step meets a condition.  Runs along a list of labels are
computed, so that a concrete run can be evaluated.
-/

namespace TransitionSystems

universe u v

/-- A set of initial states with a partial step function. -/
structure TransitionSystem (State : Type u) (Label : Type v) where
  /-- The states in which a run may begin. -/
  Initial : State → Prop
  /-- The successor of a state, when the label is enabled there. -/
  step : State → Label → Option State

namespace TransitionSystem

variable {State : Type u} {Label : Type v}

/-- States reached by runs whose every step meets the guard. -/
inductive GuardedReachable
    (system : TransitionSystem State Label)
    (Guard : State → Label → Prop) : State → Prop
  | initial {state : State} :
      system.Initial state → GuardedReachable system Guard state
  | step {state next : State} {label : Label} :
      GuardedReachable system Guard state →
      Guard state label →
      system.step state label = some next →
      GuardedReachable system Guard next

/-- States reached by some run. -/
def Reachable (system : TransitionSystem State Label) : State → Prop :=
  system.GuardedReachable fun _ _ => True

/-- The state after a list of labels, when each is enabled in turn. -/
def run (system : TransitionSystem State Label) :
    State → List Label → Option State
  | state, [] => some state
  | state, label :: labels =>
      (system.step state label).bind fun next => system.run next labels

/-- The state after a list of labels, when each is enabled in turn and meets the
guard. -/
def guardedRun (system : TransitionSystem State Label)
    (Guard : State → Label → Prop)
    [∀ state label, Decidable (Guard state label)] :
    State → List Label → Option State
  | state, [] => some state
  | state, label :: labels =>
      if Guard state label then
        (system.step state label).bind fun next =>
          system.guardedRun Guard next labels
      else none

@[simp] theorem run_nil
    (system : TransitionSystem State Label) (state : State) :
    system.run state [] = some state := rfl

@[simp] theorem run_cons
    (system : TransitionSystem State Label)
    (state : State) (label : Label) (labels : List Label) :
    system.run state (label :: labels) =
      (system.step state label).bind fun next => system.run next labels :=
  rfl

/-- The induction along a run, with a property that may depend on the number of the
steps so far. -/
theorem counted_of_run
    {system : TransitionSystem State Label}
    (Holds : Nat → State → Prop)
    (preserved : ∀ {steps state label next},
      system.step state label = some next → Holds steps state →
        Holds (steps + 1) next)
    (steps : Nat) {state last : State} {labels : List Label}
    (runs : system.run state labels = some last)
    (holds : Holds steps state) :
    Holds (steps + labels.length) last := by
  induction labels generalizing state steps with
  | nil =>
      obtain rfl : state = last := Option.some.inj runs
      exact holds
  | cons label labels inductionHypothesis =>
      obtain ⟨next, moves, continues⟩ := Option.bind_eq_some_iff.mp runs
      rw [List.length_cons, Nat.add_comm labels.length, ← Nat.add_assoc]
      exact inductionHypothesis (steps + 1) continues (preserved moves holds)

/-- A property that no step regains holds before a run after which it holds. -/
theorem holds_of_run
    {system : TransitionSystem State Label}
    {Holds : State → Prop}
    (notRegained : ∀ {state label next},
      system.step state label = some next → Holds next → Holds state)
    {state last : State} {labels : List Label}
    (runs : system.run state labels = some last)
    (holds : Holds last) :
    Holds state := by
  induction labels generalizing state with
  | nil =>
      obtain rfl : state = last := Option.some.inj runs
      exact holds
  | cons label labels inductionHypothesis =>
      obtain ⟨next, moves, continues⟩ := Option.bind_eq_some_iff.mp runs
      exact notRegained moves (inductionHypothesis continues)

/-- A property that no step regains holds after a run if and only if every step
of the run meets the guard, when the guard says exactly which steps retain it. -/
theorem holds_iff_guardedRun
    {system : TransitionSystem State Label}
    {Guard : State → Label → Prop}
    [∀ state label, Decidable (Guard state label)]
    {Kept Holds : State → Prop}
    (notRegained : ∀ {state label next},
      system.step state label = some next → Holds next → Holds state)
    (retained : ∀ {state label next}, Kept state → Holds state →
      system.step state label = some next →
        (Holds next ↔ Guard state label))
    (preserved : ∀ {state label next}, Kept state → Guard state label →
      system.step state label = some next → Kept next)
    {state last : State} {labels : List Label}
    (kept : Kept state)
    (holds : Holds state)
    (runs : system.run state labels = some last) :
    Holds last ↔ system.guardedRun Guard state labels = some last := by
  induction labels generalizing state with
  | nil =>
      obtain rfl : state = last := Option.some.inj runs
      exact iff_of_true holds rfl
  | cons label labels inductionHypothesis =>
      obtain ⟨next, moves, continues⟩ := Option.bind_eq_some_iff.mp runs
      have stepIff := retained kept holds moves
      simp only [guardedRun, moves, Option.bind_some]
      by_cases meets : Guard state label
      · rw [if_pos meets]
        exact inductionHypothesis (preserved kept meets moves)
          (stepIff.mpr meets) continues
      · rw [if_neg meets]
        refine iff_of_false (fun holdsLast => meets (stepIff.mp ?_)) nofun
        exact holds_of_run notRegained continues holdsLast

namespace GuardedReachable

variable {system : TransitionSystem State Label}
variable {Guard : State → Label → Prop}

/-- The induction rule for invariants: initial states satisfy the property, and
every guarded step from a reachable state that satisfies it preserves it. -/
theorem invariant
    {Invariant : State → Prop}
    (holdsInitially : ∀ state, system.Initial state → Invariant state)
    (preserved : ∀ state label next,
      system.GuardedReachable Guard state →
      Invariant state →
      Guard state label →
      system.step state label = some next →
      Invariant next)
    {state : State}
    (reachable : system.GuardedReachable Guard state) :
    Invariant state := by
  induction reachable with
  | initial begins => exact holdsInitially _ begins
  | step before meets moves inductionHypothesis =>
      exact preserved _ _ _ before inductionHypothesis meets moves

/-- A weaker guard reaches at least the same states. -/
theorem mono
    {Weaker : State → Label → Prop}
    (weakens : ∀ state label, Guard state label → Weaker state label)
    {state : State}
    (reachable : system.GuardedReachable Guard state) :
    system.GuardedReachable Weaker state := by
  induction reachable with
  | initial begins => exact .initial begins
  | step _ meets moves inductionHypothesis =>
      exact .step inductionHypothesis (weakens _ _ meets) moves

/-- What holds of every reached state can be added to the guard. -/
theorem withInvariant
    {Invariant : State → Prop}
    {state : State}
    (reachable : system.GuardedReachable Guard state)
    (holds : ∀ {reached : State},
      system.GuardedReachable Guard reached → Invariant reached) :
    system.GuardedReachable
      (fun state label => Invariant state ∧ Guard state label) state := by
  induction reachable with
  | initial begins => exact .initial begins
  | step before meets moves inductionHypothesis =>
      exact .step inductionHypothesis ⟨holds before, meets⟩ moves

/-- A part of a system that takes each step by itself reaches its part of every
reached state. -/
theorem project
    {Part : Type*} {PartLabel : Type*}
    {part : TransitionSystem Part PartLabel}
    {PartGuard : Part → PartLabel → Prop}
    {state : State}
    (reachable : system.GuardedReachable Guard state)
    (image : State → Part)
    (initially : ∀ state, system.Initial state →
      part.GuardedReachable PartGuard (image state))
    (steps : ∀ state label next, Guard state label →
      system.step state label = some next →
      ∃ partLabel, PartGuard (image state) partLabel ∧
        part.step (image state) partLabel = some (image next)) :
    part.GuardedReachable PartGuard (image state) := by
  induction reachable with
  | initial begins => exact initially _ begins
  | step _ meets moves inductionHypothesis =>
      obtain ⟨partLabel, partMeets, partMoves⟩ := steps _ _ _ meets moves
      exact .step inductionHypothesis partMeets partMoves

/-- Guarded reachability is closed under runs that meet a stronger guard. -/
theorem guardedRun_of_imp
    {Stronger : State → Label → Prop}
    [∀ state label, Decidable (Stronger state label)]
    (implies : ∀ state label, Stronger state label → Guard state label)
    {state next : State} {labels : List Label}
    (reached : system.GuardedReachable Guard state)
    (runs : system.guardedRun Stronger state labels = some next) :
    system.GuardedReachable Guard next := by
  induction labels generalizing state with
  | nil =>
      obtain rfl : state = next := Option.some.inj runs
      exact reached
  | cons label labels inductionHypothesis =>
      obtain ⟨meets, continues⟩ := Option.ite_none_right_eq_some.mp runs
      obtain ⟨middle, moves, rest⟩ := Option.bind_eq_some_iff.mp continues
      exact inductionHypothesis
        (reached.step (implies state label meets) moves) rest

/-- Guarded reachability is closed under guarded runs. -/
theorem guardedRun
    [∀ state label, Decidable (Guard state label)]
    {state next : State} {labels : List Label}
    (reached : system.GuardedReachable Guard state)
    (runs : system.guardedRun Guard state labels = some next) :
    system.GuardedReachable Guard next :=
  reached.guardedRun_of_imp (fun _ _ => id) runs

/-- Guarded runs reach ordinarily reachable states. -/
theorem reachable
    {state : State}
    (reached : system.GuardedReachable Guard state) :
    system.Reachable state :=
  reached.mono fun _ _ _ => trivial

end GuardedReachable

namespace Reachable

variable {system : TransitionSystem State Label}

/-- Initial states are reachable. -/
theorem initial
    {state : State}
    (begins : system.Initial state) :
    system.Reachable state :=
  GuardedReachable.initial begins

/-- Reachable states are closed under steps. -/
theorem step
    {state next : State} {label : Label}
    (reached : system.Reachable state)
    (moves : system.step state label = some next) :
    system.Reachable next :=
  GuardedReachable.step reached trivial moves

/-- Reachable states are closed under runs. -/
theorem run
    {state next : State} {labels : List Label}
    (reached : system.Reachable state)
    (runs : system.run state labels = some next) :
    system.Reachable next :=
  counted_of_run (fun _ => system.Reachable) (fun moves before => before.step moves)
    0 runs reached

/-- The induction rule for invariants of all reachable states. -/
theorem invariant
    {Invariant : State → Prop}
    (holdsInitially : ∀ state, system.Initial state → Invariant state)
    (preserved : ∀ state label next,
      system.Reachable state →
      Invariant state →
      system.step state label = some next →
      Invariant next)
    {state : State}
    (reached : system.Reachable state) :
    Invariant state :=
  GuardedReachable.invariant holdsInitially
    (fun state label next before holds _ moves =>
      preserved state label next before holds moves)
    reached

end Reachable

end TransitionSystem

end TransitionSystems
