import MultiSocketRudp.Lib.WrappingArithmetic
import Mathlib.Data.List.Basic

/-!
# Loops that count in the client's context

`LoopNodeBuilder` gives its loop a condition that counts its own evaluations in
the `RuntimeContext`.  The loop has a second counter, which is local to an
execution.  Only the local one begins at zero again, so that the loop runs its
body in its first execution and never again.
-/

namespace MultiSocketRudp
namespace CountedLoop

open WrappingArithmetic

/-- The value of an `int` expression. -/
def int32 (value : Int) : Int := wrapSigned 32 value

/-! ## `RuntimeContext` -/

/-- A value in the context. -/
inductive Value
  | int (value : Int)
  | other
  deriving DecidableEq, Repr

/-- The variables of a `RuntimeContext`. -/
structure RuntimeContext where
  vars : String → Option Value := fun _ => none

namespace RuntimeContext

/-- `RuntimeContext.Set`. -/
def set (context : RuntimeContext) (key : String) (value : Value) :
    RuntimeContext :=
  { vars := fun other => if other = key then some value else context.vars other }

/-- `RuntimeContext.GetOrDefault<int>`. -/
def getOrDefault
    (context : RuntimeContext) (key : String) (defaultValue : Int) : Int :=
  match context.vars key with
  | some (.int value) => value
  | _ => defaultValue

@[simp] theorem vars_set_self
    (context : RuntimeContext) (key : String) (value : Value) :
    (context.set key value).vars key = some value :=
  if_pos rfl

theorem vars_set_of_ne
    (context : RuntimeContext) {key other : String}
    (different : other ≠ key) (value : Value) :
    (context.set key value).vars other = context.vars other :=
  if_neg different

end RuntimeContext

/-! ## `LoopNodeBuilder` -/

/-- The condition and the limit of a `LoopNode`. -/
structure LoopNode where
  continueCondition : RuntimeContext → Bool × RuntimeContext
  maxIterations : Int

/-- The key under which the condition counts. -/
def indexKey (loopId : String) : String := "__loop_" ++ loopId ++ "_index"

/-- `LoopNodeBuilder.Build`, for a `LoopCount` and the `loopId` that it makes. -/
def build (loopId : String) (count : Int) : LoopNode where
  continueCondition context :=
    let key := indexKey loopId
    let i := context.getOrDefault key 0
    (decide (i < count), context.set key (.int (int32 (i + 1))))
  maxIterations := count

/-! ## `LoopNode.ExecuteImpl` -/

/-- What an execution starts. -/
inductive Started
  | loopBody (iteration : Nat)
  | exitNodes
  | nextNodes
  deriving DecidableEq, Repr

/-- What the other nodes do to the context while a loop is executed, which uses
a key of its own. -/
structure Execution (key : String) where
  /-- Whatever has happened since the execution before. -/
  before : RuntimeContext → RuntimeContext
  /-- One iteration of the body, with everything that it waits for. -/
  loopBody : Nat → RuntimeContext → RuntimeContext
  exitNodes : RuntimeContext → RuntimeContext
  nextNodes : RuntimeContext → RuntimeContext
  before_keeps : ∀ context, (before context).vars key = context.vars key
  loopBody_keeps : ∀ iteration context,
    (loopBody iteration context).vars key = context.vars key
  exitNodes_keeps : ∀ context, (exitNodes context).vars key = context.vars key
  nextNodes_keeps : ∀ context, (nextNodes context).vars key = context.vars key

/-- The `while` loop.  `MaxIterations - iteration` iterations are left. -/
def iterate
    (loop : LoopNode)
    (loopBody : Nat → RuntimeContext → RuntimeContext) :
    Nat → Nat → RuntimeContext → List Started × RuntimeContext
  | 0, _, context => ([], context)
  | left + 1, iteration, context =>
      let (continues, context) := loop.continueCondition context
      if continues then
        let context := context.set "__loop_iteration" (.int iteration)
        let context := loopBody iteration context
        let (started, context) := iterate loop loopBody left (iteration + 1) context
        (.loopBody iteration :: started, context)
      else ([], context)

/-- `LoopNode.ExecuteImpl`. -/
def executeImpl
    {key : String} (loop : LoopNode)
    (execution : Execution key) (context : RuntimeContext) :
    List Started × RuntimeContext :=
  let (started, context) := iterate loop execution.loopBody
    loop.maxIterations.toNat 0 (execution.before context)
  let context := execution.exitNodes context
  let context := execution.nextNodes context
  (started ++ [.exitNodes, .nextNodes], context)

/-- What executions start, one after the other. -/
def executions
    {key : String} (loop : LoopNode) :
    List (Execution key) → RuntimeContext → List (List Started)
  | [], _ => []
  | execution :: rest, context =>
      let (started, context) := executeImpl loop execution context
      started :: executions loop rest context

/-- The body runs so many times, and then the exit nodes and the next nodes. -/
def counted (count : Nat) : List Started :=
  (List.range count).map .loopBody ++ [.exitNodes, .nextNodes]

/-! ## The counter in the context -/

/-- The loop's counter is not where the iteration is. -/
theorem indexKey_ne (loopId : String) :
    indexKey loopId ≠ "__loop_iteration" := by
  intro same
  have last := congrArg (fun text : String => text.toList.getLast?) same
  simp only [indexKey, String.toList_append, List.getLast?_append] at last
  have letters : some 'x' = some 'n' := last
  exact absurd letters (by decide)

/-- The counter of a loop that has not been executed is zero. -/
theorem getOrDefault_of_none
    {context : RuntimeContext} {key : String}
    (missing : context.vars key = none) :
    context.getOrDefault key 0 = 0 := by
  rw [RuntimeContext.getOrDefault, missing]

theorem getOrDefault_of_int
    {context : RuntimeContext} {key : String} {value : Int}
    (found : context.vars key = some (.int value)) :
    context.getOrDefault key 0 = value := by
  rw [RuntimeContext.getOrDefault, found]

section Build

variable {loopId : String} {count : Nat}

/-- While both counters agree, the body runs until the limit is reached, and the
counter in the context stays there. -/
theorem iterate_agrees
    (small : count < 2 ^ 31)
    (execution : Execution (indexKey loopId))
    {left iteration : Nat}
    (limit : iteration + left = count)
    {context : RuntimeContext}
    (agrees : context.getOrDefault (indexKey loopId) 0 = iteration) :
    ∃ after,
      iterate (build loopId count) execution.loopBody left iteration context =
        ((List.range' iteration left).map .loopBody, after) ∧
      after.getOrDefault (indexKey loopId) 0 = count := by
  induction left generalizing iteration context with
  | zero => exact ⟨context, rfl, by rw [agrees]; exact_mod_cast limit⟩
  | succ left inductionHypothesis =>
      have continues : (iteration : Int) < count := by
        omega
      have next : int32 ((iteration : Int) + 1) =
          ((iteration + 1 : Nat) : Int) := by
        rw [int32, wrapSigned_of_mem (by omega) (by omega)]
        rfl
      have counts : (execution.loopBody iteration
            ((context.set (indexKey loopId)
              (.int (int32 ((iteration : Int) + 1)))).set "__loop_iteration"
                (.int iteration))).getOrDefault (indexKey loopId) 0 =
          ((iteration + 1 : Nat) : Int) := by
        refine getOrDefault_of_int ?_
        rw [execution.loopBody_keeps,
          RuntimeContext.vars_set_of_ne _ (indexKey_ne loopId),
          RuntimeContext.vars_set_self, next]
      obtain ⟨after, ran, final⟩ := inductionHypothesis
        (by omega : iteration + 1 + left = count) counts
      refine ⟨after, ?_, final⟩
      rw [iterate]
      simp only [build, agrees, continues, decide_true, if_true]
      rw [build] at ran
      rw [ran]
      rfl

/-- A counter at the limit ends the loop before its first iteration. -/
theorem iterate_exhausted
    (execution : Execution (indexKey loopId))
    {context : RuntimeContext}
    (exhausted : context.getOrDefault (indexKey loopId) 0 = count)
    (left iteration : Nat) :
    (iterate (build loopId count) execution.loopBody left iteration
      context).1 = [] := by
  cases left with
  | zero => rfl
  | succ left =>
      simp [iterate, build, exhausted]

/-- An execution that finds no counter runs the body as often as it should, and
leaves the counter at the limit. -/
theorem executeImpl_fresh
    (small : count < 2 ^ 31)
    (execution : Execution (indexKey loopId))
    {context : RuntimeContext}
    (fresh : context.vars (indexKey loopId) = none) :
    ∃ after,
      executeImpl (build loopId count) execution context =
        (counted count, after) ∧
      after.getOrDefault (indexKey loopId) 0 = count := by
  have begins : (execution.before context).getOrDefault (indexKey loopId) 0 =
      ((0 : Nat) : Int) :=
    getOrDefault_of_none (by rw [execution.before_keeps, fresh])
  obtain ⟨after, ran, final⟩ :=
    iterate_agrees small execution (Nat.zero_add count) begins
  refine ⟨execution.nextNodes (execution.exitNodes after), ?_, ?_⟩
  · rw [executeImpl, show (build loopId count).maxIterations.toNat = count
      from Int.toNat_natCast count, ran, counted, List.range_eq_range']
  · rw [RuntimeContext.getOrDefault, execution.nextNodes_keeps,
      execution.exitNodes_keeps]
    exact final

/-- Later executions do not run the body. -/
theorem executeImpl_exhausted
    (execution : Execution (indexKey loopId))
    {context : RuntimeContext}
    (exhausted : context.getOrDefault (indexKey loopId) 0 = count) :
    (executeImpl (build loopId count) execution context).1 =
      [.exitNodes, .nextNodes] := by
  have begins : (execution.before context).getOrDefault (indexKey loopId) 0 =
      count := by
    rw [RuntimeContext.getOrDefault, execution.before_keeps]
    exact exhausted
  rw [executeImpl]
  simp only [iterate_exhausted execution begins, List.nil_append]

/-- Every execution runs the body as often as the loop says if and only if there
is one execution at most. -/
theorem executions_counted_iff
    (positive : 0 < count)
    (small : count < 2 ^ 31)
    {context : RuntimeContext}
    (fresh : context.vars (indexKey loopId) = none)
    (executed : List (Execution (indexKey loopId))) :
    (∀ started ∈ executions (build loopId count) executed context,
      started = counted count) ↔ executed.length ≤ 1 := by
  cases executed with
  | nil => simp [executions]
  | cons first rest =>
      obtain ⟨after, ran, final⟩ := executeImpl_fresh small first fresh
      rw [executions, ran]
      cases rest with
      | nil => simp [executions]
      | cons second rest =>
          refine iff_of_false (fun all => ?_) (by simp)
          have again : (executeImpl (build loopId count) second after).1 =
              counted count :=
            all _ (List.mem_cons_of_mem _ List.mem_cons_self)
          rw [executeImpl_exhausted second final] at again
          have shorter := congrArg List.length again
          simp [counted] at shorter
          omega

end Build

/-- Nothing else happens to the context. -/
def Execution.alone (key : String) : Execution key where
  before := id
  loopBody _ := id
  exitNodes := id
  nextNodes := id
  before_keeps _ := rfl
  loopBody_keeps _ _ := rfl
  exitNodes_keeps _ := rfl
  nextNodes_keeps _ := rfl

theorem one_execution_counted :
    (∀ started ∈ executions (build "a" (2 : Nat)) [.alone (indexKey "a")] {},
      started = counted 2) ↔ [Execution.alone (indexKey "a")].length ≤ 1 :=
  executions_counted_iff (by decide) (by decide) rfl _

/-- The second execution of a loop with two iterations has none. -/
theorem second_execution_empty :
    ¬ ∀ (loopId : String) (count : Nat) (context : RuntimeContext)
        (executed : List (Execution (indexKey loopId))),
      0 < count → count < 2 ^ 31 → context.vars (indexKey loopId) = none →
      ∀ started ∈ executions (build loopId count) executed context,
        started = counted count := by
  intro holds
  have all := holds "a" 2 {} [.alone _, .alone _] (by decide) (by decide) rfl
    [.exitNodes, .nextNodes] (by decide)
  exact absurd all (by decide)

end CountedLoop
end MultiSocketRudp
