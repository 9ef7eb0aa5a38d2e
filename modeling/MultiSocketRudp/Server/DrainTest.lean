import MultiSocketRudp.Server.OperationCounts

/-!
# What the second drain test has found

A load of the drain test stays true once the socket is closed: no receive can be
posted any more, so no packet can be handed over and no completion can begin.
The IO mode is different.  A thread that has found the session not releasing
before may still win the compare-and-swap of `DoSend`.
-/

namespace MultiSocketRudp
namespace SessionRelease

open ExclusiveOwnership

/-! ## Loads that have been passed -/

namespace ReleasePc

/-- The second `CanFinalizeIO` has found no completion. -/
def foundNoCompletion : ReleasePc → Bool
  | .drainProcessing .second => true
  | .cleaning | .releasing | .poolTest | .incrementing | .lowering
  | .resetting | .resettingMode => true
  | _ => false

/-- It has found the send path free. -/
def foundSendPathFree : ReleasePc → Bool
  | .drainCompletions .second => true
  | pc => pc.foundNoCompletion

/-- It has found no receive logic. -/
def foundNoLogic : ReleasePc → Bool
  | .drainMode .second => true
  | pc => pc.foundSendPathFree

/-- It has found no receive. -/
def foundNoReceive : ReleasePc → Bool
  | .drainLogic .second => true
  | pc => pc.foundNoLogic

variable {pc : ReleasePc}

theorem foundSendPathFree_of_foundNoCompletion
    (found : pc.foundNoCompletion = true) :
    pc.foundSendPathFree = true := by
  unfold foundSendPathFree
  split
  · rfl
  · exact found

theorem foundNoLogic_of_foundSendPathFree
    (found : pc.foundSendPathFree = true) :
    pc.foundNoLogic = true := by
  unfold foundNoLogic
  split
  · rfl
  · exact found

theorem foundNoReceive_of_foundNoLogic
    (found : pc.foundNoLogic = true) :
    pc.foundNoReceive = true := by
  unfold foundNoReceive
  split
  · rfl
  · exact found

end ReleasePc

/-- Where the release thread stands with a session after a verdict on it. -/
def Verdict.pc : Verdict → Option ReleasePc
  | .next pc => some pc
  | .settled | .remaining => none

namespace Session

variable {session next : Session}

/-- What the second drain test has found is still so. -/
structure Found (session : Session) (pc : Option ReleasePc) : Prop where
  receives : ∀ present ∈ pc, present.foundNoReceive = true →
    session.outstandingRecvIo = 0
  logic : ∀ present ∈ pc, present.foundNoLogic = true →
    session.pendingRecvLogic = 0
  mode : ∀ present ∈ pc, present.foundSendPathFree = true →
    session.ioMode = .ioNoneSending
  completions : ∀ present ∈ pc, present.foundNoCompletion = true →
    session.activeIOCompletions = 0

/-- The fields that the drain test loads. -/
def drainFields (session : Session) : Nat × Nat × IoMode × Nat :=
  (session.outstandingRecvIo, session.pendingRecvLogic, session.ioMode,
    session.activeIOCompletions)

/-- The closed socket is closed for good once the second shutdown is over. -/
def StaysShut (session : Session) (pc : Option ReleasePc) : Prop :=
  ∀ present ∈ pc, present.foundNoReceive = true → session.socketOpen = false

/-- No thread wins the send path from under the drain test. -/
def keepsSendPathFree
    (session : Session) (pc : Option ReleasePc) : Action → Bool
  | .send caller _ _ =>
      !(session.doSends caller = .contending &&
        session.ioMode = .ioNoneSending && pc.any ReleasePc.foundSendPathFree)
  | _ => true

namespace Found

/-- Nothing has been found yet. -/
theorem of_foundNothing
    {pc : Option ReleasePc}
    (nothing : ∀ present ∈ pc, present.foundNoReceive = false) :
    session.Found pc where
  receives present member found :=
    nomatch (nothing present member).symm.trans found
  logic present member found :=
    nomatch (nothing present member).symm.trans
      (ReleasePc.foundNoReceive_of_foundNoLogic found)
  mode present member found :=
    nomatch (nothing present member).symm.trans
      (ReleasePc.foundNoReceive_of_foundNoLogic
        (ReleasePc.foundNoLogic_of_foundSendPathFree found))
  completions present member found :=
    nomatch (nothing present member).symm.trans
      (ReleasePc.foundNoReceive_of_foundNoLogic
        (ReleasePc.foundNoLogic_of_foundSendPathFree
          (ReleasePc.foundSendPathFree_of_foundNoCompletion found)))

/-- A session that has been drained is drained at every load. -/
theorem of_drained
    {pc : Option ReleasePc}
    (receives : session.outstandingRecvIo = 0)
    (logic : session.pendingRecvLogic = 0)
    (mode : session.ioMode = .ioNoneSending)
    (completions : session.activeIOCompletions = 0) :
    session.Found pc :=
  ⟨fun _ _ _ => receives, fun _ _ _ => logic, fun _ _ _ => mode,
    fun _ _ _ => completions⟩

/-- Only the loaded fields matter. -/
theorem congr
    {pc : Option ReleasePc}
    (found : session.Found pc)
    (same : next.drainFields = session.drainFields) :
    next.Found pc := by
  obtain ⟨receives, logic, mode, completions⟩ :=
    (by simpa [drainFields] using same :
      next.outstandingRecvIo = session.outstandingRecvIo ∧
        next.pendingRecvLogic = session.pendingRecvLogic ∧
        next.ioMode = session.ioMode ∧
        next.activeIOCompletions = session.activeIOCompletions)
  exact
    { receives := receives ▸ found.receives
      logic := logic ▸ found.logic
      mode := mode ▸ found.mode
      completions := completions ▸ found.completions }

/-! ## The threads of the session -/

variable {pc : Option ReleasePc}

/-- No receive is posted on a closed socket. -/
theorem recvStep
    (found : session.Found pc) (counted : session.Counted)
    (shut : session.StaysShut pc) {caller : RecvCaller} {succeeds : Bool}
    (moves : session.recvStep caller succeeds = some next) :
    next.Found pc := by
  cases stands : session.doRecvs caller with
  | outside => simp [Session.recvStep, stands] at moves
  | entering | locked | tested =>
      simp only [Session.recvStep, stands, Option.some.injEq] at moves
      exact found.congr (moves ▸ rfl)
  | looping =>
      simp only [Session.recvStep, stands, Option.some.injEq] at moves
      subst moves
      cases succeeds with
      | true =>
          refine { found with receives := fun present member none => ?_ }
          have silent := counted.closed (shut present member none) caller
          rw [stands] at silent
          cases silent
      | false => exact found.congr rfl
  | posting generation =>
      simp only [Session.recvStep, stands, Option.some.injEq] at moves
      subst moves
      cases succeeds with
      | true => exact found.congr rfl
      | false =>
          refine { found with receives := fun present member none => ?_ }
          have zero := found.receives present member none
          change session.outstandingRecvIo - 1 = 0
          omega

/-- The send path stays free unless a thread wins it. -/
theorem sendStep
    (found : session.Found pc) {caller : SendCaller}
    {transmits again : Bool}
    (keeps : session.keepsSendPathFree pc (.send caller transmits again) =
      true)
    (moves : session.sendStep caller transmits again = some next) :
    next.Found pc := by
  cases stands : session.doSends caller with
  | outside => simp [Session.sendStep, stands] at moves
  | entering | testing =>
      simp only [Session.sendStep, stands, Option.some.injEq] at moves
      exact found.congr (moves ▸ rfl)
  | contending =>
      simp only [Session.sendStep, stands, Option.some.injEq] at moves
      subst moves
      split
      · next free =>
        refine { found with mode := fun present member passed => ?_ }
        cases member
        simp [keepsSendPathFree, stands, free, passed] at keeps
      · exact found.congr rfl
  | streaming =>
      simp only [Session.sendStep, stands, Option.some.injEq] at moves
      subst moves
      split <;> exact found.congr rfl
  | releasing retries =>
      simp only [Session.sendStep, stands, Option.some.injEq] at moves
      subst moves
      exact { found with mode := fun _ _ _ => rfl }

/-- Without a receive the IO worker hands no packet over. -/
theorem ioStep
    (found : session.Found pc) (counted : session.Counted)
    {succeeded dropped : Bool}
    (moves : session.ioStep succeeded dropped = some next) :
    next.Found pc := by
  cases stands : session.ioWorker with
  | idle => simp [Session.ioStep, stands] at moves
  | received generation | sent generation =>
      simp only [Session.ioStep, stands, Option.some.injEq] at moves
      exact found.congr (moves ▸ rfl)
  | delivering generation =>
      simp only [Session.ioStep, stands, Option.some.injEq] at moves
      subst moves
      refine { found with logic := fun present member none => ?_ }
      have zero := found.receives present member
        (ReleasePc.foundNoReceive_of_foundNoLogic none)
      have exact := counted.receives
      simp only [Session.receives, stands, IoPc.receives] at exact
      omega
  | releasing again =>
      simp only [Session.ioStep, stands, Option.some.injEq] at moves
      subst moves
      split
      all_goals
        refine { found with receives := fun present member none => ?_ }
        have zero := found.receives present member none
        change session.outstandingRecvIo - 1 = 0
        omega
  | receiving | sending =>
      simp only [Session.ioStep, stands, Option.ite_none_right_eq_some,
        Option.some.injEq] at moves
      exact found.congr (moves.2 ▸ rfl)
  | storing succeeded =>
      simp only [Session.ioStep, stands, Option.some.injEq] at moves
      subst moves
      exact { found with mode := fun _ _ _ => rfl }
  | testing =>
      simp only [Session.ioStep, stands, Option.some.injEq] at moves
      subst moves
      split <;> exact found.congr rfl
  | ending =>
      simp only [Session.ioStep, stands, Option.some.injEq] at moves
      subst moves
      refine { found with completions := fun present member none => ?_ }
      have zero := found.completions present member none
      change session.activeIOCompletions - 1 = 0
      omega

/-- The logic worker only takes packets away. -/
theorem logicStep
    (found : session.Found pc)
    (moves : session.logicStep = some next) :
    next.Found pc := by
  cases stands : session.logicWorker with
  | idle => simp [Session.logicStep, stands] at moves
  | dequeued generation =>
      simp only [Session.logicStep, stands, Option.some.injEq] at moves
      exact found.congr (moves ▸ rfl)
  | tested | starting | processing =>
      simp only [Session.logicStep, stands, Option.some.injEq] at moves
      exact found.congr (moves ▸ rfl)
  | completing =>
      simp only [Session.logicStep, stands, Option.some.injEq] at moves
      subst moves
      refine { found with logic := fun present member none => ?_ }
      have zero := found.logic present member none
      change session.pendingRecvLogic - 1 = 0
      omega

/-- No completion begins once there are neither receives nor sends. -/
theorem act
    (found : session.Found pc) (counted : session.Counted)
    (shut : session.StaysShut pc) {action : Action}
    (keeps : session.keepsSendPathFree pc action = true)
    (moves : session.act action = some next) :
    next.Found pc := by
  cases action with
  | recv caller succeeds => exact found.recvStep counted shut moves
  | send caller transmits again => exact found.sendStep keeps moves
  | io succeeded dropped => exact found.ioStep counted moves
  | logic => exact found.logicStep moves
  | completeRecv generation =>
      simp only [Session.act, Option.ite_none_right_eq_some,
        Option.some.injEq] at moves
      obtain ⟨⟨posted, -⟩, rfl⟩ := moves
      refine { found with completions := fun present member none => ?_ }
      have zero := found.receives present member
        (ReleasePc.foundNoReceive_of_foundNoLogic
          (ReleasePc.foundNoLogic_of_foundSendPathFree
            (ReleasePc.foundSendPathFree_of_foundNoCompletion none)))
      have exact := counted.receives
      have positive := List.length_pos_of_mem posted
      simp only [Session.receives] at exact
      omega
  | completeSend generation =>
      simp only [Session.act, Option.ite_none_right_eq_some,
        Option.some.injEq] at moves
      obtain ⟨⟨flies, -⟩, rfl⟩ := moves
      refine { found with completions := fun present member none => ?_ }
      have free := found.mode present member
        (ReleasePc.foundSendPathFree_of_foundNoCompletion none)
      exact absurd (List.ne_nil_of_mem flies)
        (counted.not_holds free .flight)
  | dequeue =>
      simp only [Session.act] at moves
      split at moves
      · simp only [Option.some.injEq] at moves
        exact found.congr (moves ▸ rfl)
      · cases moves
  | enterSend index | disconnect reason =>
      simp only [Session.act, Option.ite_none_right_eq_some,
        Option.some.injEq] at moves
      exact found.congr (moves.2 ▸ rfl)
  | acquire | reserve | connect | abort =>
      simp only [Session.act, Option.ite_none_right_eq_some,
        Option.some.injEq] at moves
      exact found.congr (moves.2 ▸ rfl)
  | releaser =>
      cases stands : session.releaser <;>
        simp only [Session.act, releaserStep, stands, Option.some.injEq,
          reduceCtorEq] at moves <;>
        exact found.congr (moves ▸ rfl)

/-! ## The release thread -/

theorem drainFields_callUnlessAborted (session : Session) (hook : Hook) :
    (session.callUnlessAborted hook).drainFields = session.drainFields := by
  unfold callUnlessAborted
  split <;> rfl

/-- A failed drain test ends what the release thread does with the session, or
what has been found. -/
theorem of_undrained (session : Session) (round : Round) :
    session.Found round.undrained.pc := by
  cases round <;> exact of_foundNothing nofun

/-- The release thread has found what it goes on from. -/
theorem releaseStep
    {pc : ReleasePc} {verdict : Verdict}
    (found : session.Found (some pc))
    (moves : session.releaseStep pc = some (next, verdict)) :
    next.Found verdict.pc := by
  cases pc with
  | finding | stateTest =>
      simp only [Session.releaseStep, Option.some.injEq, Prod.mk.injEq]
        at moves
      obtain ⟨rfl, rfl⟩ := moves
      refine of_foundNothing fun present member => ?_
      split at member <;> cases member
      rfl
  | shutdownStarted round | shutdownLogic round
  | shutdownProcessing round =>
      simp only [Session.releaseStep, Option.some.injEq, Prod.mk.injEq]
        at moves
      obtain ⟨rfl, rfl⟩ := moves
      refine of_foundNothing fun present member => ?_
      split at member <;> cases member <;> cases round <;> rfl
  | shutdownSwapping round =>
      simp only [Session.releaseStep] at moves
      split at moves
      all_goals
        simp only [Option.some.injEq, Prod.mk.injEq] at moves
        obtain ⟨rfl, rfl⟩ := moves
        refine of_foundNothing fun present member => ?_
        cases member
        cases round <;> rfl
  | shutdownNotifying round =>
      simp only [Session.releaseStep, Option.some.injEq, Prod.mk.injEq]
        at moves
      obtain ⟨rfl, rfl⟩ := moves
      refine of_foundNothing fun present member => ?_
      cases member
      rfl
  | shutdownClosing round =>
      simp only [Session.releaseStep, Option.ite_none_left_eq_some,
        Option.some.injEq, Prod.mk.injEq] at moves
      obtain ⟨-, rfl, rfl⟩ := moves
      refine of_foundNothing fun present member => ?_
      cases member
      cases round <;> rfl
  | drainReceives round =>
      simp only [Session.releaseStep, Option.some.injEq, Prod.mk.injEq]
        at moves
      obtain ⟨rfl, rfl⟩ := moves
      split
      · next none =>
        exact
          { receives := fun _ _ _ => none
            logic := by rintro present ⟨⟩ passed; cases round <;> cases passed
            mode := by rintro present ⟨⟩ passed; cases round <;> cases passed
            completions := by
              rintro present ⟨⟩ passed
              cases round <;> cases passed }
      · exact of_undrained session round
  | drainLogic round =>
      simp only [Session.releaseStep, Option.some.injEq, Prod.mk.injEq]
        at moves
      obtain ⟨rfl, rfl⟩ := moves
      split
      · next none =>
        exact
          { receives := by
              rintro present ⟨⟩ passed
              cases round with
              | first => cases passed
              | second => exact found.receives _ rfl rfl
            logic := fun _ _ _ => none
            mode := by rintro present ⟨⟩ passed; cases round <;> cases passed
            completions := by
              rintro present ⟨⟩ passed
              cases round <;> cases passed }
      · exact of_undrained session round
  | drainMode round =>
      simp only [Session.releaseStep, Option.some.injEq, Prod.mk.injEq]
        at moves
      obtain ⟨rfl, rfl⟩ := moves
      split
      · next free =>
        cases round with
        | first => exact of_foundNothing (by rintro present ⟨⟩; rfl)
        | second =>
            exact
              { receives := fun _ _ _ => found.receives _ rfl rfl
                logic := fun _ _ _ => found.logic _ rfl rfl
                mode := fun _ _ _ => free
                completions := by rintro present ⟨⟩ passed; cases passed }
      · exact of_undrained session round
  | drainCompletions round =>
      simp only [Session.releaseStep, Option.some.injEq, Prod.mk.injEq]
        at moves
      obtain ⟨rfl, rfl⟩ := moves
      split
      · next none =>
        cases round with
        | first => exact of_foundNothing (by rintro present ⟨⟩; rfl)
        | second =>
            exact of_drained (found.receives _ rfl rfl)
              (found.logic _ rfl rfl) (found.mode _ rfl rfl) none
      · exact of_undrained session round
  | drainProcessing round =>
      simp only [Session.releaseStep, Option.some.injEq, Prod.mk.injEq]
        at moves
      obtain ⟨rfl, rfl⟩ := moves
      split
      · exact of_undrained session round
      · cases round with
        | first => exact of_foundNothing (by rintro present ⟨⟩; rfl)
        | second =>
            exact of_drained (found.receives _ rfl rfl)
              (found.logic _ rfl rfl) (found.mode _ rfl rfl)
              (found.completions _ rfl rfl)
  | poolTest =>
      simp only [Session.releaseStep, Option.some.injEq, Prod.mk.injEq]
        at moves
      obtain ⟨rfl, -⟩ := moves
      exact of_drained (found.receives _ rfl rfl) (found.logic _ rfl rfl)
        (found.mode _ rfl rfl) (found.completions _ rfl rfl)
  | cleaning | incrementing | lowering =>
      simp only [Session.releaseStep, Option.some.injEq, Prod.mk.injEq]
        at moves
      obtain ⟨rfl, -⟩ := moves
      exact of_drained (found.receives _ rfl rfl) (found.logic _ rfl rfl)
        (found.mode _ rfl rfl) (found.completions _ rfl rfl)
  | resetting =>
      simp only [Session.releaseStep, Option.some.injEq, Prod.mk.injEq]
        at moves
      obtain ⟨rfl, -⟩ := moves
      exact of_drained (found.receives _ rfl rfl) (found.logic _ rfl rfl)
        (found.mode _ rfl rfl) rfl
  | releasing =>
      simp only [Session.releaseStep, Option.some.injEq, Prod.mk.injEq]
        at moves
      obtain ⟨rfl, -⟩ := moves
      have drained : session.Found verdict.pc :=
        of_drained (found.receives _ rfl rfl) (found.logic _ rfl rfl)
          (found.mode _ rfl rfl) (found.completions _ rfl rfl)
      exact drained.congr (drainFields_callUnlessAborted session _)
  | resettingMode | resettingReason | resettingState =>
      simp only [Session.releaseStep, Option.some.injEq, Prod.mk.injEq]
        at moves
      obtain ⟨rfl, rfl⟩ := moves
      exact of_foundNothing (by rintro present ⟨⟩; rfl)
  | returning =>
      simp only [Session.releaseStep, Option.some.injEq, Prod.mk.injEq]
        at moves
      obtain ⟨rfl, rfl⟩ := moves
      exact of_foundNothing (by rintro _ ⟨⟩)

end Found

namespace Counted

/-- The release thread resets the counts of a drained session only. -/
theorem releaseStep
    {pc : ReleasePc} {verdict : Verdict}
    (counted : session.Counted) (found : session.Found (some pc))
    (moves : session.releaseStep pc = some (next, verdict)) :
    next.Counted := by
  cases pc with
  | shutdownSwapping round =>
      simp only [Session.releaseStep] at moves
      split at moves
      all_goals
        simp only [Option.some.injEq, Prod.mk.injEq] at moves
        obtain ⟨rfl, -⟩ := moves
        exact { counted with }
  | shutdownNotifying round | releasing =>
      simp only [Session.releaseStep, Option.some.injEq, Prod.mk.injEq]
        at moves
      obtain ⟨rfl, -⟩ := moves
      unfold callUnlessAborted
      split
      · exact counted
      · exact { counted with }
  | shutdownClosing round =>
      simp only [Session.releaseStep, Option.ite_none_left_eq_some,
        Option.some.injEq, Prod.mk.injEq, Bool.or_eq_true, not_or,
        Bool.not_eq_true] at moves
      obtain ⟨⟨brokerOut, workerOut⟩, rfl, -⟩ := moves
      have silent : ∀ {pc : RecvPc}, pc.holdsLock = false →
          pc.posts = false := by
        intro pc unlocked
        cases pc <;> first | rfl | cases unlocked
      unfold closeSocket
      split
      · refine { counted with closed := fun _ caller => ?_ }
        cases caller with
        | broker => exact silent brokerOut
        | worker => exact silent workerOut
      · exact counted
  | resetting =>
      have none := found.completions _ rfl rfl
      simp only [Session.releaseStep, Option.some.injEq, Prod.mk.injEq]
        at moves
      obtain ⟨rfl, -⟩ := moves
      exact { counted with completions := none ▸ counted.completions }
  | resettingMode =>
      have free := found.mode _ rfl rfl
      simp only [Session.releaseStep, Option.some.injEq, Prod.mk.injEq]
        at moves
      obtain ⟨rfl, -⟩ := moves
      exact
        { counted with
          sendPath := .of_not_owns (counted.not_holds free) }
  | cleaning | incrementing | lowering | resettingReason | resettingState
  | returning =>
      simp only [Session.releaseStep, Option.some.injEq, Prod.mk.injEq]
        at moves
      exact moves.1 ▸ { counted with }
  | _ =>
      simp only [Session.releaseStep, Option.some.injEq, Prod.mk.injEq]
        at moves
      exact moves.1 ▸ counted

end Counted

end Session

end SessionRelease
end MultiSocketRudp
