import Mathlib.Data.Option.Basic

/-!
# Refinement of objects by their replies

An object answers calls, one after another.  A call that the object is not made for
has no answer.  A concrete object refines an abstract one if it answers whatever the
abstract one answers, in the same way.
-/

namespace DataRefinement

universe u v w x

variable {State : Type u} {Abstract : Type v} {Call : Type w} {Reply : Type x}

/-- The replies to a list of calls, and the state behind them. -/
def replies (answer : State → Call → Option (Reply × State)) :
    State → List Call → Option (List Reply × State)
  | state, [] => some ([], state)
  | state, call :: calls =>
      (answer state call).bind fun first =>
        (replies answer first.2 calls).map fun rest =>
          (first.1 :: rest.1, rest.2)

theorem replies_cons
    {answer : State → Call → Option (Reply × State)}
    {state after last : State} {call : Call} {calls : List Call}
    {reply : Reply} {rest : List Reply}
    (first : answer state call = some (reply, after))
    (others : replies answer after calls = some (rest, last)) :
    replies answer state (call :: calls) = some (reply :: rest, last) := by
  rw [replies, first, Option.bind_some, others]
  rfl

/-- Forward simulation: an answer of the abstract object is one of the concrete
object, and the states behind it belong together again. -/
def Simulates
    (answer : State → Call → Option (Reply × State))
    (abstractAnswer : Abstract → Call → Option (Reply × Abstract))
    (Represents : State → Abstract → Prop) : Prop :=
  ∀ state abstract, Represents state abstract →
    ∀ call reply next, abstractAnswer abstract call = some (reply, next) →
      ∃ after, answer state call = some (reply, after) ∧ Represents after next

/-- The replies to any list of calls are the same. -/
theorem Simulates.replies
    {answer : State → Call → Option (Reply × State)}
    {abstractAnswer : Abstract → Call → Option (Reply × Abstract)}
    {Represents : State → Abstract → Prop}
    (simulates : Simulates answer abstractAnswer Represents)
    {state : State} {abstract last : Abstract}
    (represents : Represents state abstract)
    {calls : List Call} {given : List Reply}
    (answered : DataRefinement.replies abstractAnswer abstract calls =
      some (given, last)) :
    ∃ after, DataRefinement.replies answer state calls = some (given, after) ∧
      Represents after last := by
  induction calls generalizing state abstract given with
  | nil =>
      cases answered
      exact ⟨state, rfl, represents⟩
  | cons call calls inductionHypothesis =>
      obtain ⟨⟨reply, next⟩, first, rest⟩ := Option.bind_eq_some_iff.mp answered
      obtain ⟨⟨replies, finish⟩, others, same⟩ := Option.map_eq_some_iff.mp rest
      obtain ⟨rfl, rfl⟩ := Prod.mk.inj same
      obtain ⟨middle, here, represents⟩ :=
        simulates state abstract represents call reply next first
      obtain ⟨after, behind, represents⟩ := inductionHypothesis represents others
      exact ⟨after, replies_cons here behind, represents⟩

end DataRefinement
