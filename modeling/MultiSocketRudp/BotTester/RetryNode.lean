import MultiSocketRudp.BotTester.NodeExecution
import MultiSocketRudp.Lib.WrappingArithmetic

/-!
# Retries in action graphs

A `RetryNode` attempts its body until its condition holds, `MaxRetries` times at
most, and waits between two attempts.  It executes its success nodes within the
`try` of the attempt, and its failure nodes when no attempt is left.
-/

namespace MultiSocketRudp
namespace Retries

open NodeExecution WrappingArithmetic

/-! ## The model -/

/-- `RetryNode`, with its condition in a given world. -/
structure RetryNode (Node World : Type) where
  maxRetries : Int
  retryDelayMilliseconds : Int
  useExponentialBackoff : Bool
  successCondition : Option (World → Except Thrown Bool × World)
  retryBody : List Node
  successNodes : List Node
  failureNodes : List Node

/-- What `GraphValidator` demands of a `RetryNode`. -/
structure Accepted {Node World : Type} (node : RetryNode Node World) : Prop where
  maxRetries : 1 ≤ node.maxRetries
  retryDelay : 0 ≤ node.retryDelayMilliseconds

/-- What happens in an execution. -/
inductive Event
  | attempt (number : Nat)
  /-- The condition has been true. -/
  | succeeded
  | successNodes
  | successNode (index : Nat)
  | failureNodes
  | failureNode (index : Nat)
  | delay (milliseconds : Int)
  deriving DecidableEq, Repr

/-- The event is an attempt. -/
def Event.isAttempt : Event → Bool
  | .attempt _ => true
  | _ => false

/-- `(int)Math.Pow(2, exponent)`: a conversion that is out of range saturates. -/
def powerOfTwo (exponent : Nat) : Int :=
  min (2 ^ exponent) (2 ^ 31 - 1)

section ExecuteImpl

variable {Node World : Type} [DecidableEq Node] [Fintype Node]

/-- The delay behind an attempt. -/
def delayAfter (node : RetryNode Node World) (attempt : Nat) : Int :=
  if node.useExponentialBackoff then
    wrapSigned 32
      (node.retryDelayMilliseconds * powerOfTwo (attempt - 1))
  else node.retryDelayMilliseconds

variable (graph : Node → ActionNode Node World) (path : Finset Node)
/- What happens to the world during a delay. -/
variable (elapse : Int → World → World)

/-- The body and the condition of one attempt: whether it has succeeded. -/
def tryBody (node : RetryNode Node World) (world : World) : Bool × World :=
  let body := (executeBranch graph path node.retryBody world).outcome
  match body.thrown with
  | some _ => (false, body.world)
  | none =>
      match node.successCondition with
      | none => (true, body.world)
      | some successCondition =>
          match successCondition body.world with
          | (.ok success, world) => (success, world)
          | (.error _, world) => (false, world)

/-- One attempt, with the success nodes when it has succeeded.  An exception in
these makes it fail. -/
def tryAttempt (node : RetryNode Node World) (world : World) :
    List Event × Bool × World :=
  match tryBody graph path node world with
  | (false, world) => ([], false, world)
  | (true, world) =>
      let branch := executeBranch graph path node.successNodes world
      (.succeeded :: .successNodes :: branch.started.map .successNode,
        branch.outcome.thrown.isNone, branch.outcome.world)

/-- The failure nodes at the end. -/
def executeFailureNodes (node : RetryNode Node World) (world : World) :
    List Event :=
  let branch := executeBranch graph path node.failureNodes world
  .failureNodes :: branch.started.map .failureNode

/-- The loop of `ExecuteImpl` behind some attempts, with so many left, and what
follows it.  A negative delay ends the execution: `Task.Delay` throws, or never
returns for -1. -/
def retryLoop (node : RetryNode Node World) :
    Nat → Nat → World → List Event
  | 0, _, world => executeFailureNodes graph path node world
  | left + 1, attempt, world =>
      let attempt := attempt + 1
      let (events, success, world) := tryAttempt graph path node world
      .attempt attempt :: events ++
        if success then []
        else if left = 0 then retryLoop node left attempt world
        else
          let delay := delayAfter node attempt
          .delay delay ::
            if delay < 0 then []
            else retryLoop node left attempt (elapse delay world)

/-- `RetryNode.ExecuteImpl`. -/
def executeImpl (node : RetryNode Node World) (world : World) : List Event :=
  retryLoop graph path elapse node node.maxRetries.toNat 0 world

end ExecuteImpl

/-! ## What a retry promises -/

/-- What has happened is one outcome, after a number of attempts at most. -/
structure OneOutcome (maxRetries : Nat) (log : List Event) : Prop where
  attempts : log.countP Event.isAttempt ≤ maxRetries
  final : log.Pairwise fun earlier later =>
    earlier = .succeeded → later.isAttempt = false
  outcome : log.count .successNodes + log.count .failureNodes = 1
  once : ∀ index, log.count (.successNode index) ≤ 1 ∧
    log.count (.failureNode index) ≤ 1
  failure : .failureNodes ∈ log → .succeeded ∉ log
  delays : ∀ milliseconds, .delay milliseconds ∈ log → 0 ≤ milliseconds

theorem oneOutcome_attempt
    {maxRetries number : Nat} {log : List Event} :
    OneOutcome (maxRetries + 1) (.attempt number :: log) ↔
      OneOutcome maxRetries log := by
  constructor
  · intro whole
    exact
      { attempts := by
          simpa [List.countP_cons, Event.isAttempt] using whole.attempts
        final := (List.pairwise_cons.mp whole.final).2
        outcome := by simpa using whole.outcome
        once := fun index => by simpa using whole.once index
        failure := by simpa using whole.failure
        delays := by simpa using whole.delays }
  · intro rest
    exact
      { attempts := by
          simpa [List.countP_cons, Event.isAttempt] using rest.attempts
        final := List.pairwise_cons.mpr ⟨fun _ _ => nofun, rest.final⟩
        outcome := by simpa using rest.outcome
        once := fun index => by simpa using rest.once index
        failure := by simpa using rest.failure
        delays := by simpa using rest.delays }

theorem oneOutcome_delay
    {maxRetries : Nat} {milliseconds : Int} {log : List Event} :
    OneOutcome maxRetries (.delay milliseconds :: log) ↔
      0 ≤ milliseconds ∧ OneOutcome maxRetries log := by
  constructor
  · intro whole
    refine ⟨whole.delays _ List.mem_cons_self, ?_⟩
    exact
      { attempts := by
          simpa [List.countP_cons, Event.isAttempt] using whole.attempts
        final := (List.pairwise_cons.mp whole.final).2
        outcome := by simpa using whole.outcome
        once := fun index => by simpa using whole.once index
        failure := by simpa using whole.failure
        delays := fun other among =>
          whole.delays other (List.mem_cons_of_mem _ among) }
  · rintro ⟨nonnegative, rest⟩
    exact
      { attempts := by
          simpa [List.countP_cons, Event.isAttempt] using rest.attempts
        final := List.pairwise_cons.mpr ⟨fun _ _ => nofun, rest.final⟩
        outcome := by simpa using rest.outcome
        once := fun index => by simpa using rest.once index
        failure := by simpa using rest.failure
        delays := fun other among => by
          rcases List.mem_cons.mp among with same | among
          · cases same
            exact nonnegative
          · exact rest.delays other among }

section ExecuteImpl

variable {Node World : Type} [DecidableEq Node] [Fintype Node]
variable (graph : Node → ActionNode Node World) (path : Finset Node)
variable (elapse : Int → World → World)

/-- The world before the attempt with an index, when all attempts behind some
first ones have failed. -/
def worldBefore (node : RetryNode Node World) : Nat → Nat → World → World
  | _, 0, world => world
  | attempt, index + 1, world =>
      worldBefore node (attempt + 1) index
        (elapse (delayAfter node (attempt + 1)) (tryBody graph path node world).2)

/-- An attempt in a world has body and condition succeed. -/
def Succeeds (node : RetryNode Node World) (world : World) : Prop :=
  (tryBody graph path node world).1 = true

/-- The success nodes return when they are executed behind an attempt in a
world. -/
def SuccessReturns (node : RetryNode Node World) (world : World) : Prop :=
  (executeBranch graph path node.successNodes
    (tryBody graph path node world).2).outcome.thrown = none

/-- The first attempt that succeeds has success nodes that return, and no delay
before it is negative. -/
def Harmless
    (node : RetryNode Node World) (left attempt : Nat) (world : World) : Prop :=
  ∀ index < left,
    let before := worldBefore graph path elapse node attempt index world
    (∀ earlier < index, ¬ Succeeds graph path node
      (worldBefore graph path elapse node attempt earlier world)) →
    (Succeeds graph path node before →
      SuccessReturns graph path node before) ∧
    (¬ Succeeds graph path node before → index + 1 < left →
      0 ≤ delayAfter node (attempt + index + 1))

/-- What follows an attempt that has failed. -/
def behindFailure
    (node : RetryNode Node World) (left attempt : Nat) (world : World) :
    List Event :=
  if left = 0 then executeFailureNodes graph path node world
  else
    .delay (delayAfter node attempt) ::
      if delayAfter node attempt < 0 then []
      else retryLoop graph path elapse node left attempt
        (elapse (delayAfter node attempt) world)

variable {graph path elapse}

/-- The chains of a branch are no other events. -/
theorem count_map_of_ne
    {chain : Nat → Event} {event : Event}
    (different : ∀ index, chain index ≠ event) (started : List Nat) :
    (started.map chain).count event = 0 :=
  List.count_eq_zero_of_not_mem fun among => by
    obtain ⟨index, -, same⟩ := List.mem_map.mp among
    exact different index same

/-- The failure nodes are an outcome by themselves. -/
theorem failureNodes_oneOutcome
    (node : RetryNode Node World) (world : World) (maxRetries : Nat) :
    OneOutcome maxRetries (executeFailureNodes graph path node world) := by
  have nodup := (executeBranch_nodup graph path node.failureNodes
    world).map fun _ _ => Event.failureNode.inj
  rw [executeFailureNodes]
  generalize (executeBranch graph path node.failureNodes world).started =
    started at nodup
  have absent (event : Event) (different : ∀ index, .failureNode index ≠ event) :=
    count_map_of_ne different started
  exact
    { attempts := by simp [List.countP_map, Event.isAttempt, Function.comp_def]
      final := List.pairwise_cons.mpr ⟨fun _ _ => nofun,
        List.pairwise_map.mpr (List.pairwise_of_forall fun _ _ => nofun)⟩
      outcome := by
        simp [absent .successNodes nofun, absent .failureNodes nofun]
      once := fun index => by
        refine ⟨by simp [absent (.successNode index) nofun], ?_⟩
        have single := List.nodup_iff_count_le_one.mp nodup (.failureNode index)
        simpa [List.count_cons] using single
      failure := fun _ => by simp
      delays := fun _ => by simp }

/-- Success nodes that return are an outcome by themselves. -/
theorem successNodes_oneOutcome
    (node : RetryNode Node World) (world : World) (maxRetries : Nat) :
    OneOutcome maxRetries
      (.succeeded :: .successNodes ::
        (executeBranch graph path node.successNodes world).started.map
          .successNode) := by
  have nodup := (executeBranch_nodup graph path node.successNodes
    world).map fun _ _ => Event.successNode.inj
  generalize (executeBranch graph path node.successNodes world).started =
    started at nodup
  have absent (event : Event) (different : ∀ index, .successNode index ≠ event) :=
    count_map_of_ne different started
  exact
    { attempts := by simp [List.countP_map, Event.isAttempt, Function.comp_def]
      final := by
        refine List.pairwise_cons.mpr ⟨by simp [Event.isAttempt],
          List.pairwise_cons.mpr ⟨fun _ _ => nofun,
            List.pairwise_map.mpr (List.pairwise_of_forall fun _ _ => nofun)⟩⟩
      outcome := by
        simp [absent .successNodes nofun, absent .failureNodes nofun]
      once := fun index => by
        refine ⟨?_, by simp [absent (.failureNode index) nofun]⟩
        have single := List.nodup_iff_count_le_one.mp nodup (.successNode index)
        simpa [List.count_cons] using single
      failure := fun among => absurd among (by simp)
      delays := fun _ => by simp }

/-- An attempt that succeeds and another one that does not. -/
theorem harmless_succ
    (node : RetryNode Node World) (left attempt : Nat) (world : World) :
    Harmless graph path elapse node (left + 1) attempt world ↔
      (Succeeds graph path node world →
        SuccessReturns graph path node world) ∧
      (¬ Succeeds graph path node world → left ≠ 0 →
        0 ≤ delayAfter node (attempt + 1) ∧
        Harmless graph path elapse node left (attempt + 1)
          (elapse (delayAfter node (attempt + 1))
            (tryBody graph path node world).2)) := by
  constructor
  · intro harmless
    have now := harmless 0 (Nat.succ_pos left) nofun
    refine ⟨now.1, fun fails more => ⟨?_, ?_⟩⟩
    · exact now.2 fails (Nat.succ_lt_succ (Nat.pos_of_ne_zero more))
    · intro index inside before earlier
      have later := harmless (index + 1) (Nat.succ_lt_succ inside) fun other =>
        match other with
        | 0 => fun _ => fails
        | other + 1 => fun sooner => earlier other (Nat.lt_of_succ_lt_succ sooner)
      refine ⟨later.1, fun failsToo further => ?_⟩
      have delay := later.2 failsToo (Nat.succ_lt_succ further)
      rwa [← Nat.add_assoc, Nat.add_right_comm attempt index 1] at delay
  · rintro ⟨returns, continues⟩ index inside before earlier
    cases index with
    | zero =>
        exact ⟨returns, fun fails more =>
          (continues fails (Nat.ne_of_gt (Nat.lt_of_succ_lt_succ more))).1⟩
    | succ index =>
        have fails := earlier 0 (Nat.succ_pos index)
        have later := (continues fails (by omega)).2 index
          (Nat.lt_of_succ_lt_succ inside) fun other sooner =>
            earlier (other + 1) (Nat.succ_lt_succ sooner)
        refine ⟨later.1, fun failsToo further => ?_⟩
        have delay := later.2 failsToo (Nat.lt_of_succ_lt_succ further)
        rwa [← Nat.add_assoc, Nat.add_right_comm attempt index 1]

theorem retryLoop_of_fails
    {node : RetryNode Node World} {world : World}
    (fails : ¬ Succeeds graph path node world) (left attempt : Nat) :
    retryLoop graph path elapse node (left + 1) attempt world =
      .attempt (attempt + 1) ::
        behindFailure graph path elapse node left (attempt + 1)
          (tryBody graph path node world).2 := by
  rw [Succeeds] at fails
  rw [retryLoop, tryAttempt, behindFailure]
  match tried : tryBody graph path node world with
  | (true, after) => exact absurd (by rw [tried]) fails
  | (false, after) =>
      cases left with
      | zero => rfl
      | succ left => rfl

variable (elapse) in
theorem retryLoop_of_succeeds
    {node : RetryNode Node World} {world : World}
    (succeeds : Succeeds graph path node world) (left attempt : Nat) :
    ∃ after,
      retryLoop graph path elapse node (left + 1) attempt world =
        .attempt (attempt + 1) :: .succeeded :: .successNodes ::
          ((executeBranch graph path node.successNodes
            (tryBody graph path node world).2).started.map .successNode ++
            if (executeBranch graph path node.successNodes
              (tryBody graph path node world).2).outcome.thrown.isNone then []
            else behindFailure graph path elapse node left (attempt + 1)
              after) := by
  rw [Succeeds] at succeeds
  rw [retryLoop, tryAttempt]
  match tried : tryBody graph path node world with
  | (false, after) =>
      rw [tried] at succeeds
      cases succeeds
  | (true, after) =>
      refine ⟨(executeBranch graph path node.successNodes after).outcome.world,
        ?_⟩
      cases left with
      | zero => rfl
      | succ left => rfl

variable (graph path elapse) in
/-- A failed attempt is followed by the failure nodes, by a negative delay or by
another attempt. -/
theorem exists_mem_behindFailure
    (node : RetryNode Node World) (left attempt : Nat) (world : World) :
    ∃ event ∈ behindFailure graph path elapse node left attempt world,
      event = .failureNodes ∨ event.isAttempt = true ∨
        ∃ milliseconds < 0, event = .delay milliseconds := by
  rw [behindFailure]
  split_ifs with last negative
  · exact ⟨_, List.mem_cons_self, .inl rfl⟩
  · exact ⟨_, List.mem_cons_self, .inr (.inr ⟨_, negative, rfl⟩)⟩
  · obtain ⟨left, rfl⟩ := Nat.exists_eq_succ_of_ne_zero last
    exact ⟨_, List.mem_cons_of_mem _ List.mem_cons_self, .inr (.inl rfl)⟩

/-- Nothing good follows success nodes that throw. -/
theorem not_oneOutcome_of_throws
    {node : RetryNode Node World} {world : World}
    (succeeds : Succeeds graph path node world)
    (throws : ¬ SuccessReturns graph path node world)
    (left attempt : Nat) :
    ¬ OneOutcome (left + 1)
      (retryLoop graph path elapse node (left + 1) attempt world) := by
  obtain ⟨after, loop⟩ :=
    retryLoop_of_succeeds elapse succeeds left attempt
  rw [SuccessReturns, ← Option.isNone_iff_eq_none] at throws
  rw [loop, if_neg throws, oneOutcome_attempt]
  intro outcome
  obtain ⟨event, among, bad⟩ := exists_mem_behindFailure graph path elapse node
    left (attempt + 1) after
  have follows := List.mem_cons_of_mem Event.successNodes
    (List.mem_append_right ((executeBranch graph path node.successNodes
      (tryBody graph path node world).2).started.map .successNode) among)
  rcases bad with rfl | again | ⟨milliseconds, negative, rfl⟩
  · exact outcome.failure (List.mem_cons_of_mem _ follows) List.mem_cons_self
  · have final := (List.pairwise_cons.mp outcome.final).1 event follows rfl
    exact absurd (again.symm.trans final) nofun
  · have nonnegative := outcome.delays _ (List.mem_cons_of_mem _ follows)
    omega

/-- A loop has one outcome if and only if it is harmless. -/
theorem retryLoop_oneOutcome_iff
    (node : RetryNode Node World) (left attempt : Nat) (world : World) :
    OneOutcome left
        (retryLoop graph path elapse node left attempt world) ↔
      Harmless graph path elapse node left attempt world := by
  induction left generalizing attempt world with
  | zero =>
      exact iff_of_true (failureNodes_oneOutcome node world 0) nofun
  | succ left inductionHypothesis =>
      rw [harmless_succ]
      by_cases succeeds : Succeeds graph path node world
      · by_cases returns : SuccessReturns graph path node world
        · obtain ⟨after, loop⟩ :=
            retryLoop_of_succeeds elapse succeeds left attempt
          rw [loop, if_pos (Option.isNone_iff_eq_none.mpr returns),
            List.append_nil, oneOutcome_attempt]
          exact iff_of_true (successNodes_oneOutcome node _ left)
            ⟨fun _ => returns, fun fails => absurd succeeds fails⟩
        · exact iff_of_false
            (not_oneOutcome_of_throws succeeds returns left attempt)
            fun harmless => returns (harmless.1 succeeds)
      · rw [retryLoop_of_fails succeeds, oneOutcome_attempt, behindFailure]
        simp only [succeeds, false_implies, not_false_eq_true, true_implies,
          true_and]
        split_ifs with last negative
        · exact iff_of_true (failureNodes_oneOutcome node _ left)
            fun more => absurd last more
        · rw [oneOutcome_delay]
          refine iff_of_false (fun outcome => ?_) fun harmless => ?_
          · exact absurd outcome.1 (not_le.mpr negative)
          · exact absurd (harmless last).1 (not_le.mpr negative)
        · rw [oneOutcome_delay, inductionHypothesis]
          simp [last]

/-- An execution has one outcome if and only if no delay before the first attempt
that succeeds is negative, and the success nodes behind that attempt return. -/
theorem executeImpl_oneOutcome_iff
    (graph : Node → ActionNode Node World) (path : Finset Node)
    (elapse : Int → World → World)
    (node : RetryNode Node World) (world : World) :
    OneOutcome node.maxRetries.toNat
        (executeImpl graph path elapse node world) ↔
      Harmless graph path elapse node node.maxRetries.toNat 0 world :=
  retryLoop_oneOutcome_iff node _ 0 world

end ExecuteImpl

/-- A retry with one attempt, which succeeds, and a success node that throws. -/
def throwingSuccess : RetryNode Bool Unit where
  maxRetries := 1
  retryDelayMilliseconds := 1000
  useExponentialBackoff := false
  successCondition := some fun world => (.ok true, world)
  retryBody := []
  successNodes := [true]
  failureNodes := [false]

/-- With an exponential back-off from one second, the delay behind the 23rd attempt
is negative. -/
example :
    delayAfter { throwingSuccess with useExponentialBackoff := true } 23 =
      -100663296 := by
  decide

/-- The success nodes and the failure nodes are executed. -/
theorem throwingSuccess_fails :
    ¬ ∀ (graph : Bool → ActionNode Bool Unit) (path : Finset Bool)
        (elapse : Int → Unit → Unit) (node : RetryNode Bool Unit)
        (world : Unit),
      Accepted node →
      OneOutcome node.maxRetries.toNat
        (executeImpl graph path elapse node world) := by
  intro holds
  have outcome := holds throwingGraph ∅ (fun _ => id) throwingSuccess ()
    ⟨by decide, by decide⟩
  exact outcome.failure (by decide) (by decide)

end Retries
end MultiSocketRudp
