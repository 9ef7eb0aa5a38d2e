import MultiSocketRudp.Server.ReleaseOrder
import MultiSocketRudp.Server.SessionManager

/-!
# What the disconnect reason tells

The release thread decides by the disconnect reason whether a session has been
connected.  The state machine tells it before the session is released, and the
reason tells the same afterwards, provided that `DoDisconnect` wins connected
sessions only.
-/

namespace MultiSocketRudp
namespace SessionManager

open TransitionSystems
open SessionRelease

/-! ## Telling connected sessions from reserved ones -/

/-- What a reason tells about whether the session has been connected. -/
def tells : DisconnectReason → Option Bool
  | .normal | .byError | .byRetransmission => some true
  | .byAbortReserved => some false
  | .notDisconnected => none

theorem tells_of_isPassed
    {reason : DisconnectReason}
    (passed : isPassed reason = true) :
    tells reason = some true := by
  cases reason <;> first | rfl | cases passed

theorem eq_byAbortReserved_of_tells
    {reason : DisconnectReason}
    (reserved : tells reason = some false) :
    reason = .byAbortReserved := by
  cases reason <;> first | rfl | cases reserved

/-- What a session tells about whether it has been connected in its turn. -/
def told (session : Session) : Option Bool :=
  match session.sessionState, session.releaser with
  | .disconnected, _ | .reserved, _ => some false
  | .connected, _ => some true
  | .releasing, .won reason => tells reason
  | .releasing, .aborted | .releasing, .flagged => some false
  | .releasing, _ => tells session.disconnectedReason

/-- `DoDisconnect` does not win a session that is only reserved. -/
def sparesReserved (session : Session) : Action → Bool
  | .disconnect _ => session.sessionState ≠ .reserved
  | _ => true

section Told

variable {session next : Session}

theorem told_of_disconnected
    (idle : session.sessionState = .disconnected) :
    told session = some false := by
  simp [told, idle]

theorem told_of_reserved
    (reserved : session.sessionState = .reserved) :
    told session = some false := by
  simp [told, reserved]

theorem told_of_connected
    (connected : session.sessionState = .connected) :
    told session = some true := by
  simp [told, connected]

/-- A pushed session tells what its reason tells. -/
theorem told_of_pushed
    (releasing : session.sessionState = .releasing)
    (pushed : session.releaser = .idle) :
    told session = tells session.disconnectedReason := by
  simp [told, releasing, pushed]

/-- Only the life cycle of a session tells. -/
theorem told_of_lifecycle
    (same : next.lifecycle = session.lifecycle) :
    told next = told session := by
  have state : next.sessionState = session.sessionState :=
    congrArg Lifecycle.sessionState same
  have releaser : next.releaser = session.releaser :=
    congrArg Lifecycle.releaser same
  have reason : next.disconnectedReason = session.disconnectedReason :=
    congrArg Lifecycle.disconnectedReason same
  rw [told, state, releaser, reason, told]

/-- The threads of a session do not change what it tells, unless `TryConnect`
succeeds. -/
theorem told_act
    {action : Action}
    (placed : session.Placed)
    (connects : action ≠ .connect)
    (passed : ∀ reason, action = .disconnect reason → isPassed reason = true)
    (spares : sparesReserved session action = true)
    (moves : session.act action = some next) :
    told next = told session := by
  by_cases io : action.isIo = true
  · exact told_of_lifecycle (Session.lifecycle_act io moves)
  cases action with
  | connect => exact absurd rfl connects
  | acquire =>
      simp only [Session.act, Option.ite_none_right_eq_some,
        Option.some.injEq] at moves
      exact moves.2 ▸ rfl
  | reserve =>
      simp only [Session.act, Option.ite_none_right_eq_some,
        Option.some.injEq] at moves
      obtain ⟨⟨handedOut, -⟩, rfl⟩ := moves
      have idle := placed.unreserved (by simp [handedOut])
      rw [told_of_disconnected idle]
      exact told_of_reserved rfl
  | disconnect reason =>
      have unreserved : session.sessionState ≠ .reserved := by
        simpa [sparesReserved] using spares
      simp only [Session.act, Option.ite_none_right_eq_some,
        Option.some.injEq] at moves
      obtain ⟨wins, rfl⟩ := moves
      obtain ⟨active, unreleased, releasing⟩ :=
        Session.inUse_of_tryTransition wins
      have connected : session.sessionState = .connected := by
        cases state : session.sessionState <;> simp_all
      rw [told_of_connected connected, told]
      simp [releasing, tells_of_isPassed (passed reason rfl)]
  | abort =>
      have reserved : session.sessionState = .reserved := by
        cases state : session.sessionState <;>
          simp_all [Session.act, SessionState.tryAbortReserved]
      simp only [Session.act, Option.ite_none_right_eq_some,
        Option.some.injEq] at moves
      obtain ⟨wins, rfl⟩ := moves
      obtain ⟨-, -, releasing⟩ := Session.inUse_of_tryAbort wins
      rw [told_of_reserved reserved, told]
      simp [releasing]
  | releaser =>
      have won : session.releaser ≠ .idle →
          session.sessionState = .releasing := fun won => (placed.won won).1
      cases stands : session.releaser <;>
        simp only [Session.act, Session.releaserStep, stands, Option.some.injEq,
          reduceCtorEq] at moves
      all_goals
        have releasing := won (by simp [stands])
        subst moves
        simp [told, releasing, stands, tells]
  | _ => exact absurd rfl io

/-- `TryConnect` turns a reserved session into a connected one. -/
theorem told_connect
    (moves : session.act .connect = some next) :
    session.sessionState = .reserved ∧ session.logicWorker = .processing ∧
      told next = some true := by
  cases state : session.sessionState <;>
    simp [Session.act, SessionState.tryTransitionToConnected, state] at moves
  obtain ⟨processing, rfl⟩ := moves
  exact ⟨rfl, processing, told_of_connected rfl⟩

/-- No thread of a session calls a hook. -/
theorem hooks_act
    {action : Action}
    (moves : session.act action = some next) :
    next.turn.hooks = session.turn.hooks := by
  by_cases io : action.isIo = true
  · have same := Session.lifecycle_act io moves
    exact congrArg (fun life : Lifecycle => life.turn.hooks) same
  cases action with
  | acquire | reserve | connect | disconnect reason | abort =>
      simp only [Session.act, Option.ite_none_right_eq_some,
        Option.some.injEq] at moves
      exact moves.2 ▸ rfl
  | releaser =>
      cases stands : session.releaser <;>
        simp only [Session.act, Session.releaserStep, stands, Option.some.injEq,
          reduceCtorEq] at moves <;>
        exact moves ▸ rfl
  | _ => exact absurd rfl io

end Told

/-! ## What is true of each session -/

/-- The session tells the truth until its reason is reset, and as long as it has
not been connected nothing has happened. -/
structure Attested (session : Session) (pc : Option ReleasePc) (tally : Tally) :
    Prop where
  told : (ReleasePc.mark pc).reasonReset = false →
    told session = some tally.connected
  untouched : Untouched session.turn tally

namespace Attested

variable {session next : Session} {pc pc' : Option ReleasePc} {tally : Tally}

/-- A step that does not change what the session tells. -/
theorem move
    (attested : Attested session pc tally)
    (unreset : (ReleasePc.mark pc).reasonReset = false)
    (same : SessionManager.told next = SessionManager.told session)
    (untouched : Untouched next.turn tally) :
    Attested next pc' tally :=
  ⟨fun _ => same.trans (attested.told unreset), untouched⟩

/-- The threads of a session leave it attested, unless `TryConnect`
succeeds. -/
theorem act
    {action : Action}
    (attested : Attested session pc tally)
    (placed : session.Placed)
    (connects : action ≠ .connect)
    (passed : ∀ reason, action = .disconnect reason → isPassed reason = true)
    (spares : sparesReserved session action = true)
    (moves : session.act action = some next) :
    Attested next pc tally where
  told unreset :=
    (told_act placed connects passed spares moves).trans
      (attested.told unreset)
  untouched := by
    rw [Untouched, hooks_act moves]
    exact attested.untouched

/-- The winner of a release leaves it attested. -/
theorem push
    (attested : Attested session pc tally)
    (pushing : session.releaser = .pushing) :
    Attested { session with nowInReleaseThread := true, releaser := .idle } pc
      tally where
  told unreset := by
    rw [← attested.told unreset]
    cases state : session.sessionState <;>
      simp [SessionManager.told, pushing, state]
  untouched := attested.untouched

/-- A hook that is called unless the session was aborted is called only for a
session that has been connected. -/
theorem callUnlessAborted
    (attested : Attested session pc tally)
    (unreset : (ReleasePc.mark pc).reasonReset = false)
    (releasing : session.sessionState = .releasing)
    (pushed : session.releaser = .idle) (hook : Hook) :
    Untouched (session.callUnlessAborted hook).turn tally := by
  intro unconnected
  have reserved : tells session.disconnectedReason = some false := by
    rw [← told_of_pushed releasing pushed, attested.told unreset, unconnected]
  rw [Session.callUnlessAborted,
    if_pos (eq_byAbortReserved_of_tells reserved)]
  exact attested.untouched unconnected

end Attested

section Release

variable {session next : Session} {tally : Tally}

/-- The other hooks are called in every turn. -/
theorem Untouched.call
    (untouched : Untouched session.turn tally) {hook : Hook}
    (other : hook ≠ .onDisconnected ∧ hook ≠ .onReleased) :
    Untouched (session.call hook).turn tally := by
  intro unconnected
  obtain ⟨changes, silent, silent'⟩ := untouched unconnected
  refine ⟨changes, ?_, ?_⟩
  · simpa [Session.call, silent] using other.1.symm
  · simpa [Session.call, silent'] using other.2.symm

theorem told_callUnlessAborted (session : Session) (hook : Hook) :
    told (session.callUnlessAborted hook) = told session := by
  unfold Session.callUnlessAborted
  split <;> rfl

theorem told_closeSocket (session : Session) :
    told session.closeSocket = told session := by
  unfold Session.closeSocket
  split <;> rfl

theorem Untouched.closeSocket
    (untouched : Untouched session.turn tally) :
    Untouched session.closeSocket.turn tally := by
  unfold Session.closeSocket
  split
  · have closed : Untouched { session with socketOpen := false }.turn tally :=
      untouched
    exact closed.call (by simp)
  · exact untouched

/-- The release thread leaves a session attested until it returns it. -/
theorem Attested.releaseStep
    {pc : ReleasePc} {verdict : Verdict}
    (attested : Attested session (some pc) tally)
    (listed : session.Listed (some pc))
    (stays : pc ≠ .returning)
    (moves : session.releaseStep pc = some (next, verdict)) :
    Attested next verdict.pc tally := by
  cases pc with
  | finding | shutdownStarted round | shutdownLogic round
  | shutdownProcessing round | stateTest | poolTest | incrementing | lowering
  | resetting | resettingMode =>
      simp only [Session.releaseStep, Option.some.injEq, Prod.mk.injEq]
        at moves
      exact moves.1 ▸ attested.move rfl rfl attested.untouched
  | drainReceives round | drainLogic round | drainMode round
  | drainCompletions round | drainProcessing round =>
      simp only [Session.releaseStep, Option.some.injEq, Prod.mk.injEq]
        at moves
      exact moves.1 ▸ attested.move (by cases round <;> rfl) rfl
        attested.untouched
  | shutdownSwapping round =>
      simp only [Session.releaseStep] at moves
      split at moves
      all_goals
        simp only [Option.some.injEq, Prod.mk.injEq] at moves
        exact moves.1 ▸ attested.move rfl rfl attested.untouched
  | shutdownNotifying round | releasing =>
      have releasing := listed.releasing (by simp)
      simp only [Session.releaseStep, Option.some.injEq, Prod.mk.injEq]
        at moves
      obtain ⟨rfl, -⟩ := moves
      exact attested.move rfl (told_callUnlessAborted session _)
        (attested.callUnlessAborted rfl releasing listed.pushed _)
  | shutdownClosing round =>
      simp only [Session.releaseStep, Option.ite_none_left_eq_some,
        Option.some.injEq, Prod.mk.injEq] at moves
      obtain ⟨-, rfl, -⟩ := moves
      exact attested.move rfl (told_closeSocket session)
        attested.untouched.closeSocket
  | cleaning =>
      simp only [Session.releaseStep, Option.some.injEq, Prod.mk.injEq]
        at moves
      obtain ⟨rfl, -⟩ := moves
      exact attested.move rfl rfl (attested.untouched.call (by simp))
  | resettingReason | resettingState =>
      simp only [Session.releaseStep, Option.some.injEq, Prod.mk.injEq]
        at moves
      obtain ⟨rfl, rfl⟩ := moves
      exact ⟨by rintro ⟨⟩, attested.untouched⟩
  | returning => exact absurd rfl stays

/-- A returned session begins a new turn. -/
theorem Attested.returning
    {verdict : Verdict}
    (listed : session.Listed (some .returning))
    (moves : session.releaseStep .returning = some (next, verdict)) :
    Attested next verdict.pc .fresh := by
  simp only [Session.releaseStep, Option.some.injEq, Prod.mk.injEq] at moves
  obtain ⟨rfl, rfl⟩ := moves
  exact ⟨fun _ => told_of_disconnected (listed.reset rfl),
    fun _ => ⟨rfl, by simp, by simp⟩⟩

end Release

end SessionManager
end MultiSocketRudp
