import MultiSocketRudp.Server.DrainTest
import MultiSocketRudp.Server.NothingForgotten

/-!
# Release in order

A turn of a session runs through its phases: its socket is open, the application
has been told, the socket is closed, the IO is cleaned up, and the application
has been told again.  Each phase has its hooks.  `BeginIOShutdown` can be skipped
both times, and the drain test can be overtaken by a sender; where neither
happens, every turn runs through its phases in order and is drained when it is
cleaned up.
-/

namespace MultiSocketRudp
namespace SessionRelease

open TransitionSystems

/-! ## Phases of a turn -/

/-- How far a turn has gone. -/
inductive Phase
  | isOpen
  | notified
  | closed
  | cleaned
  | released
  deriving DecidableEq, Repr

namespace Phase

/-- Hooks that have been called. -/
def hooks (reason : DisconnectReason) : Phase → List Hook
  | .isOpen => []
  | .notified =>
      if reason = .byAbortReserved then [] else [.onDisconnected]
  | .closed => shutdownHooks reason
  | .cleaned => shutdownHooks reason ++ [.rioCleaned]
  | .released =>
      shutdownHooks reason ++
        if reason = .byAbortReserved then [.rioCleaned]
        else [.rioCleaned, .onReleased]

/-- The socket is open. -/
def socketOpen : Phase → Bool
  | .isOpen | .notified => true
  | _ => false

/-- No phase calls more than the hooks of a whole turn. -/
theorem hooks_prefix (phase : Phase) (reason : DisconnectReason) :
    phase.hooks reason <+: allHooks reason := by
  by_cases aborted : reason = .byAbortReserved
  · cases phase <;>
      simp [hooks, allHooks, shutdownHooks, releaseHooks, aborted]
  · cases phase <;>
      simp [hooks, allHooks, shutdownHooks, releaseHooks, aborted]

/-- Closing the socket ends the shutdown. -/
theorem hooks_notified (reason : DisconnectReason) :
    Phase.notified.hooks reason ++ [.socketClosed] =
      Phase.closed.hooks reason := by
  by_cases aborted : reason = .byAbortReserved <;>
    simp [hooks, shutdownHooks, aborted]

/-- The session is returned after everything else. -/
theorem hooks_released (reason : DisconnectReason) :
    Phase.released.hooks reason ++ [.returned] = allHooks reason := by
  by_cases aborted : reason = .byAbortReserved <;>
    simp [hooks, allHooks, releaseHooks, aborted]

end Phase

/-- What the position of the release thread tells about a session. -/
structure Mark where
  /-- The phase, where it does not only depend on the shutdown. -/
  phase : Option Phase
  /-- Whether the shutdown has begun, where that is certain. -/
  started : Option Bool
  /-- `InitializeSession` has reset the reason. -/
  reasonReset : Bool
  deriving DecidableEq, Repr

namespace Mark

/-- The position tells nothing. -/
def plain : Mark := ⟨none, none, false⟩

/-- The second shutdown is over. -/
def closed : Mark := ⟨some .closed, some true, false⟩

end Mark

/-- The mark of each position of the release thread. -/
def ReleasePc.mark : Option ReleasePc → Mark
  | some (.shutdownNotifying _) => ⟨some .isOpen, some true, false⟩
  | some (.shutdownClosing _) => ⟨some .notified, some true, false⟩
  | some (.drainReceives .second) | some (.drainLogic .second)
  | some (.drainMode .second) | some (.drainCompletions .second)
  | some (.drainProcessing .second) | some .cleaning => .closed
  | some .releasing => ⟨some .cleaned, some true, false⟩
  | some .poolTest | some .incrementing | some .lowering
  | some .resetting => ⟨some .released, some true, false⟩
  | some .resettingMode | some .resettingReason =>
      ⟨some .released, some false, false⟩
  | some .resettingState | some .returning =>
      ⟨some .released, some false, true⟩
  | _ => .plain

namespace Lifecycle

/-- The phase of a session with that mark. -/
def phase (life : Lifecycle) (mark : Mark) : Phase :=
  mark.phase.getD (if life.ioShutdownStarted then .closed else .isOpen)

/-- The turn is in its phase: its hooks have been called, and the socket is open
or closed. -/
structure Turned (life : Lifecycle) (mark : Mark) : Prop where
  hooks : life.turn.hooks = (life.phase mark).hooks life.turn.reason
  socket : life.place = .inUse →
    life.socketOpen = (life.phase mark).socketOpen
  reason : mark.reasonReset = false →
    life.disconnectedReason = life.turn.reason
  unreasoned : mark.reasonReset = true →
    life.disconnectedReason = .notDisconnected
  started : ∀ started ∈ mark.started, life.ioShutdownStarted = started
  pushed : life.ioShutdownStarted = true →
    life.sessionState = .releasing ∧ life.releaser = .idle
  ended : ∀ turn ∈ life.turns, turn.hooks = allHooks turn.reason

namespace Turned

variable {life : Lifecycle}

/-- A session whose shutdown has begun is closed, outside the shutdown. -/
theorem close
    (turned : life.Turned .plain)
    (started : life.ioShutdownStarted = true) :
    life.Turned .closed :=
  have closed : life.phase .plain = life.phase .closed := by
    simp [phase, Mark.plain, Mark.closed, started]
  { turned with
    hooks := closed ▸ turned.hooks
    socket := closed ▸ turned.socket
    started := fun _ certain => Option.some.inj certain ▸ started }

/-- A closed session stays closed when the release thread is done with it. -/
theorem leave
    (turned : life.Turned .closed) :
    life.Turned .plain :=
  have closed : life.phase .closed = life.phase .plain := by
    simp [phase, Mark.plain, Mark.closed, turned.started true rfl]
  { turned with
    hooks := closed ▸ turned.hooks
    socket := closed ▸ turned.socket
    started := nofun }

end Turned

end Lifecycle

namespace Session

variable {session next : Session}

/-- The release thread deals with listed sessions only. -/
def Attended (session : Session) (pc : Option ReleasePc) : Prop :=
  ∀ present ∈ pc, session.Listed (some present)

theorem Attended.none_of_not_listed
    {pc : Option ReleasePc}
    (attended : session.Attended pc)
    (unlisted : ∀ present, ¬ session.Listed (some present)) :
    pc = none := by
  cases pc with
  | none => rfl
  | some present => exact absurd (attended present rfl) (unlisted present)

/-- The threads of a session leave its turn in its phase. -/
theorem turned_act
    {pc : Option ReleasePc}
    (turned : session.lifecycle.Turned (ReleasePc.mark pc))
    (placed : session.Placed)
    (attended : session.Attended pc) {action : Action}
    (moves : session.act action = some next) :
    next.lifecycle.Turned (ReleasePc.mark pc) := by
  by_cases io : action.isIo = true
  · exact lifecycle_act io moves ▸ turned
  have open_of : session.sessionState ≠ .releasing ∨
      session.releaser ≠ .idle → session.ioShutdownStarted = false := by
    intro unpushed
    by_contra started
    have pushed := turned.pushed (Bool.eq_true_of_not_eq_false started)
    exact unpushed.elim (· pushed.1) (· pushed.2)
  cases action with
  | acquire =>
      simp only [Session.act, Option.ite_none_right_eq_some,
        Option.some.injEq] at moves
      obtain ⟨-, rfl⟩ := moves
      exact { turned with socket := by rintro ⟨⟩ }
  | reserve =>
      simp only [Session.act, Option.ite_none_right_eq_some,
        Option.some.injEq] at moves
      obtain ⟨⟨handedOut, -⟩, rfl⟩ := moves
      have idle := placed.unreserved (by simp [handedOut])
      have unstarted := open_of (.inl (by simp [idle]))
      obtain rfl : pc = none := attended.none_of_not_listed fun _ listed => by
        cases handedOut.symm.trans listed.inUse
      exact
        { turned with
          socket := fun _ => by
            simp [Lifecycle.phase, ReleasePc.mark, Mark.plain, Session.setRecv,
              lifecycle, unstarted, Phase.socketOpen]
          pushed := fun started => by cases unstarted.symm.trans started }
  | connect =>
      simp only [Session.act, Option.ite_none_right_eq_some,
        Option.some.injEq] at moves
      obtain ⟨⟨-, wins⟩, rfl⟩ := moves
      have unstarted := open_of (.inl (inUse_of_tryConnect wins).2.1)
      exact
        { turned with
          pushed := fun started => by cases unstarted.symm.trans started }
  | disconnect reason =>
      simp only [Session.act, Option.ite_none_right_eq_some,
        Option.some.injEq] at moves
      obtain ⟨wins, rfl⟩ := moves
      have unstarted := open_of (.inl (inUse_of_tryTransition wins).2.1)
      exact
        { turned with
          pushed := fun started => by cases unstarted.symm.trans started }
  | abort =>
      simp only [Session.act, Option.ite_none_right_eq_some,
        Option.some.injEq] at moves
      obtain ⟨wins, rfl⟩ := moves
      have unstarted := open_of (.inl (inUse_of_tryAbort wins).2.1)
      exact
        { turned with
          pushed := fun started => by cases unstarted.symm.trans started }
  | releaser =>
      have won : session.releaser ≠ .idle := by
        intro idle
        simp [Session.act, releaserStep, idle] at moves
      have unstarted := open_of (.inr won)
      obtain rfl : pc = none := attended.none_of_not_listed fun _ listed =>
        won listed.pushed
      have pushed : ∀ {state : SessionState} {releaser : ReleaserPc},
          session.ioShutdownStarted = true →
            state = .releasing ∧ releaser = .idle :=
        fun started => by cases unstarted.symm.trans started
      have bare : session.turn.hooks = [] := by
        simpa [Lifecycle.phase, ReleasePc.mark, Mark.plain, lifecycle,
          unstarted, Phase.hooks] using turned.hooks
      cases stands : session.releaser <;>
        simp only [Session.act, releaserStep, stands, Option.some.injEq,
          reduceCtorEq] at moves <;>
        subst moves
      case won reason =>
        exact
          { turned with
            hooks := by
              simpa [Lifecycle.phase, ReleasePc.mark, Mark.plain, lifecycle,
                unstarted, Phase.hooks] using bare
            reason := fun _ => rfl
            unreasoned := by rintro ⟨⟩
            pushed := pushed }
      case flagged =>
        exact
          { turned with
            hooks := by
              simpa [Lifecycle.phase, ReleasePc.mark, Mark.plain, lifecycle,
                unstarted, Phase.hooks] using bare
            reason := fun _ => rfl
            unreasoned := by rintro ⟨⟩
            pushed := pushed }
      all_goals exact { turned with pushed := pushed }
  | _ => exact absurd rfl io

/-- The next step of the shutdown in `Disconnect` is not skipped. -/
def shutsDown (session : Session) : ReleasePc → Bool
  | .shutdownLogic .second => session.pendingRecvLogic = 0
  | .shutdownProcessing .second => session.nowInProcessingRecvPacket = false
  | _ => true

/-- A step of the release thread moves the turn to its next phase. -/
theorem turned_releaseStep
    {pc : ReleasePc} {verdict : Verdict}
    (turned : session.lifecycle.Turned (ReleasePc.mark (some pc)))
    (listed : session.Listed (some pc))
    (shuts : session.shutsDown pc = true)
    (moves : session.releaseStep pc = some (next, verdict)) :
    next.lifecycle.Turned (ReleasePc.mark verdict.pc) := by
  cases pc with
  | finding | stateTest =>
      simp only [Session.releaseStep, Option.some.injEq, Prod.mk.injEq]
        at moves
      obtain ⟨rfl, rfl⟩ := moves
      split <;> exact turned
  | shutdownStarted round =>
      simp only [Session.releaseStep, Option.some.injEq, Prod.mk.injEq]
        at moves
      obtain ⟨rfl, rfl⟩ := moves
      split
      · next started =>
        cases round with
        | first => exact turned
        | second => exact turned.close started
      · exact turned
  | shutdownLogic round | shutdownProcessing round =>
      simp only [Session.releaseStep, Option.some.injEq, Prod.mk.injEq]
        at moves
      obtain ⟨rfl, rfl⟩ := moves
      split
      · next skipped =>
        cases round with
        | first => exact turned
        | second => simp [shutsDown, skipped] at shuts
      · exact turned
  | shutdownSwapping round =>
      simp only [Session.releaseStep] at moves
      split at moves
      · next started =>
        simp only [Option.some.injEq, Prod.mk.injEq] at moves
        obtain ⟨rfl, rfl⟩ := moves
        cases round with
        | first => exact turned
        | second => exact turned.close started
      · next unstarted =>
        simp only [Option.some.injEq, Prod.mk.injEq] at moves
        obtain ⟨rfl, rfl⟩ := moves
        have isOpen : session.lifecycle.phase (.plain) = .isOpen := by
          simp [Lifecycle.phase, Mark.plain, lifecycle, unstarted]
        have releasing := listed.releasing (by simp)
        exact
          { turned with
            hooks := turned.hooks.trans
              (congrArg (Phase.hooks session.turn.reason) isOpen)
            socket := fun inUse =>
              (turned.socket inUse).trans (congrArg Phase.socketOpen isOpen)
            started := fun _ certain => Option.some.inj certain ▸ rfl
            pushed := fun _ => ⟨releasing, listed.pushed⟩ }
  | shutdownNotifying round =>
      have bare : session.turn.hooks = [] := turned.hooks
      have reason : session.disconnectedReason = session.turn.reason :=
        turned.reason rfl
      simp only [Session.releaseStep, Option.some.injEq, Prod.mk.injEq]
        at moves
      obtain ⟨rfl, rfl⟩ := moves
      unfold callUnlessAborted
      split
      · next aborted =>
        exact
          { turned with
            hooks := by
              change session.turn.hooks =
                if session.turn.reason = .byAbortReserved then [] else _
              rw [bare, if_pos (reason ▸ aborted)] }
      · next unaborted =>
        exact
          { turned with
            hooks := by
              change session.turn.hooks ++ [.onDisconnected] =
                if session.turn.reason = .byAbortReserved then [] else _
              rw [bare, if_neg (reason ▸ unaborted)]
              rfl }
  | shutdownClosing round =>
      have isOpen : session.socketOpen = true := turned.socket listed.inUse
      have hooks : session.turn.hooks =
          Phase.notified.hooks session.turn.reason := turned.hooks
      simp only [Session.releaseStep, Option.ite_none_left_eq_some,
        Option.some.injEq, Prod.mk.injEq] at moves
      obtain ⟨-, rfl, rfl⟩ := moves
      unfold closeSocket
      rw [if_pos isOpen]
      have shut : ({ session with socketOpen := false }.call
          .socketClosed).lifecycle.Turned .closed :=
        { turned with
          hooks := by
            change session.turn.hooks ++ [.socketClosed] =
              Phase.closed.hooks session.turn.reason
            rw [hooks, Phase.hooks_notified]
          socket := fun _ => rfl }
      cases round with
      | first => exact shut.leave
      | second => exact shut
  | drainReceives round | drainLogic round | drainMode round
  | drainCompletions round | drainProcessing round =>
      simp only [Session.releaseStep, Option.some.injEq, Prod.mk.injEq]
        at moves
      obtain ⟨rfl, rfl⟩ := moves
      cases round with
      | first => split <;> exact turned
      | second =>
          split
          all_goals
            first
              | exact turned
              | exact turned.leave
  | cleaning =>
      have hooks : session.turn.hooks =
          Phase.closed.hooks session.turn.reason := turned.hooks
      simp only [Session.releaseStep, Option.some.injEq, Prod.mk.injEq]
        at moves
      obtain ⟨rfl, rfl⟩ := moves
      exact
        { turned with
          hooks := congrArg (· ++ [Hook.rioCleaned]) hooks }
  | releasing =>
      have hooks : session.turn.hooks =
          Phase.cleaned.hooks session.turn.reason := turned.hooks
      have reason : session.disconnectedReason = session.turn.reason :=
        turned.reason rfl
      simp only [Session.releaseStep, Option.some.injEq, Prod.mk.injEq]
        at moves
      obtain ⟨rfl, rfl⟩ := moves
      unfold callUnlessAborted
      split
      · next aborted =>
        exact
          { turned with
            hooks := by
              change session.turn.hooks =
                Phase.released.hooks session.turn.reason
              rw [hooks, Phase.hooks, Phase.hooks, if_pos (reason ▸ aborted)] }
      · next unaborted =>
        exact
          { turned with
            hooks := by
              change session.turn.hooks ++ [.onReleased] =
                Phase.released.hooks session.turn.reason
              rw [hooks, Phase.hooks, Phase.hooks,
                if_neg (reason ▸ unaborted), List.append_assoc]
              rfl }
  | poolTest =>
      have releasing := listed.releasing (by simp)
      simp only [Session.releaseStep, releasing, listed.inUse,
        Option.some.injEq, Prod.mk.injEq] at moves
      obtain ⟨rfl, rfl⟩ := moves
      exact turned
  | incrementing | lowering | resettingMode =>
      simp only [Session.releaseStep, Option.some.injEq, Prod.mk.injEq]
        at moves
      obtain ⟨rfl, rfl⟩ := moves
      exact { turned with }
  | resetting =>
      simp only [Session.releaseStep, Option.some.injEq, Prod.mk.injEq]
        at moves
      obtain ⟨rfl, rfl⟩ := moves
      exact
        { turned with
          started := fun _ certain => Option.some.inj certain ▸ rfl
          pushed := by rintro ⟨⟩ }
  | resettingReason =>
      simp only [Session.releaseStep, Option.some.injEq, Prod.mk.injEq]
        at moves
      obtain ⟨rfl, rfl⟩ := moves
      exact { turned with reason := by rintro ⟨⟩, unreasoned := fun _ => rfl }
  | resettingState =>
      have unstarted : session.ioShutdownStarted = false :=
        turned.started false rfl
      simp only [Session.releaseStep, Option.some.injEq, Prod.mk.injEq]
        at moves
      obtain ⟨rfl, rfl⟩ := moves
      exact
        { turned with
          reason := by rintro ⟨⟩
          pushed := fun started => by cases unstarted.symm.trans started }
  | returning =>
      have unstarted : session.ioShutdownStarted = false :=
        turned.started false rfl
      have hooks : session.turn.hooks =
          Phase.released.hooks session.turn.reason := turned.hooks
      simp only [Session.releaseStep, Option.some.injEq, Prod.mk.injEq]
        at moves
      obtain ⟨rfl, rfl⟩ := moves
      exact
        { hooks := by
            simp [Lifecycle.phase, ReleasePc.mark, Mark.plain, lifecycle,
              Verdict.pc, unstarted, Phase.hooks]
          socket := by rintro ⟨⟩
          reason := fun _ => turned.unreasoned rfl
          unreasoned := by rintro ⟨⟩
          started := by rintro _ ⟨⟩
          pushed := fun started => by cases unstarted.symm.trans started
          ended := by
            refine List.forall_mem_cons.mpr ⟨?_, turned.ended⟩
            change session.turn.hooks ++ [.returned] = _
            rw [hooks, Phase.hooks_released]
            rfl }

/-- `PushToDisconnectTargetSession` leaves the turn in its phase. -/
theorem turned_push
    {pc : Option ReleasePc}
    (turned : session.lifecycle.Turned (ReleasePc.mark pc)) :
    { session with
      nowInReleaseThread := true
      releaser := .idle }.lifecycle.Turned (ReleasePc.mark pc) :=
  { turned with
    pushed := fun started => ⟨(turned.pushed started).1, rfl⟩ }

end Session

/-! ## Every session at once -/

namespace State

variable {state next : State}

theorem sessions_proceed
    (state : State) (id : SessionId) (rest : List SessionId)
    (session : Session) (verdict : Verdict) :
    (state.proceed id rest (session, verdict)).sessions =
      Function.update state.sessions id session := by
  cases verdict <;> rfl

/-- After its step the release thread is where its verdict says. -/
theorem pcOf_proceed_self
    {id : SessionId} {rest : List SessionId} {session : Session}
    {verdict : Verdict}
    (present : state.batch = id :: rest) :
    (state.proceed id rest (session, verdict)).pcOf id = verdict.pc := by
  cases verdict with
  | next after =>
      change (if state.batch.head? = some id then some after else none) = _
      rw [present, List.head?_cons, if_pos rfl]
      rfl
  | settled | remaining => rfl

/-- It still deals with no other session. -/
theorem pcOf_proceed_of_ne
    {id other : SessionId} {rest : List SessionId} {session : Session}
    {verdict : Verdict}
    (present : state.batch = id :: rest)
    (distinct : other ≠ id) :
    (state.proceed id rest (session, verdict)).pcOf other = none := by
  cases verdict with
  | next after =>
      change (if state.batch.head? = some other then some after else none) = _
      rw [present, List.head?_cons,
        if_neg fun equal => distinct (Option.some.inj equal).symm]
  | settled | remaining => rfl

/-- The release thread goes from session to session, or it deals with one. -/
theorem releaseThread_cases
    (moves : state.releaseThread = some next) :
    ((∀ pc, state.pc ≠ .dealing pc) ∧ next.sessions = state.sessions ∧
      ∀ id, next.pcOf id = none ∨ next.pcOf id = some .finding) ∨
    ∃ pc id rest session verdict,
      state.pc = .dealing pc ∧ state.batch = id :: rest ∧
        (state.sessions id).releaseStep pc = some (session, verdict) ∧
        next = state.proceed id rest (session, verdict) := by
  cases stands : state.pc with
  | waiting | requeuing =>
      simp only [releaseThread, stands, Option.some.injEq] at moves
      subst moves
      exact .inl ⟨by simp, rfl, fun _ => .inl rfl⟩
  | choosing =>
      simp only [releaseThread, stands] at moves
      split at moves
      · simp only [Option.some.injEq] at moves
        subst moves
        exact .inl ⟨by simp, rfl, fun _ => .inl rfl⟩
      · simp only [Option.some.injEq] at moves
        subst moves
        refine .inl ⟨by simp, rfl, fun id => ?_⟩
        change (if state.batch.head? = some id then some ReleasePc.finding
            else none) = none ∨
          (if state.batch.head? = some id then some ReleasePc.finding
            else none) = some .finding
        split
        · exact .inr rfl
        · exact .inl rfl
  | dealing pc =>
      simp only [releaseThread, stands] at moves
      split at moves
      · cases moves
      next id rest present =>
      obtain ⟨⟨session, verdict⟩, steps, rfl⟩ :=
        Option.map_eq_some_iff.mp moves
      exact .inr ⟨pc, id, rest, session, verdict, rfl, present, steps, rfl⟩

end State

section Sessionwise

variable {Guard : State → Label → Prop}
variable {Holds : Session → Option ReleasePc → Prop}

/-- The induction rule for what is true of each session by itself: it is kept by
the threads of the session, by its push, and by the release thread while it deals
with it. -/
theorem sessionwise
    (holdsInitially : Holds initialSession none)
    (act : ∀ {state : State} {id : SessionId} {action : Action}
      {next : Session},
      Accounted state → Holds (state.sessions id) (state.pcOf id) →
      Guard state (.act id action) →
      (state.sessions id).act action = some next →
      Holds next (state.pcOf id))
    (push : ∀ {session : Session} {pc : Option ReleasePc},
      Holds session pc → session.releaser = .pushing →
      Holds { session with nowInReleaseThread := true, releaser := .idle } pc)
    (find : ∀ {session : Session},
      Holds session none → Holds session (some .finding))
    (releaseStep : ∀ {state : State} {id : SessionId} {pc : ReleasePc}
      {next : Session} {verdict : Verdict},
      Accounted state → state.pcOf id = some pc →
      Holds (state.sessions id) (some pc) →
      Guard state .release →
      (state.sessions id).releaseStep pc = some (next, verdict) →
      Holds next verdict.pc)
    {state : State}
    (reached : system.GuardedReachable Guard state) (id : SessionId) :
    Holds (state.sessions id) (state.pcOf id) := by
  induction reached generalizing id with
  | initial begins =>
      cases begins
      exact holdsInitially
  | @step state next label before meets moves inductionHypothesis =>
      have accounted := accounted_of_reachable before.reachable
      have between : (∀ pc, state.pc ≠ .dealing pc) →
          Holds (state.sessions id) none := fun idle =>
        State.pcOf_of_not_dealing idle ▸ inductionHypothesis id
      change SessionRelease.step state label = some next at moves
      cases label with
      | act other action =>
          obtain ⟨session, steps, rfl⟩ := Option.map_eq_some_iff.mp moves
          change Holds ((state.setSession other session).sessions id)
            (state.pcOf id)
          by_cases same : id = other
          · subst same
            rw [State.sessions_setSession_self]
            exact act accounted (inductionHypothesis id) meets steps
          · rw [state.sessions_setSession_of_ne session same]
            exact inductionHypothesis id
      | push other =>
          simp only [SessionRelease.step, State.push,
            Option.ite_none_right_eq_some, Option.some.injEq] at moves
          obtain ⟨pushing, rfl⟩ := moves
          change Holds ((state.setSession other _).sessions id)
            (state.pcOf id)
          by_cases same : id = other
          · subst same
            rw [State.sessions_setSession_self]
            exact push (inductionHypothesis id) pushing
          · rw [state.sessions_setSession_of_ne _ same]
            exact inductionHypothesis id
      | release =>
          change state.releaseThread = some next at moves
          obtain ⟨idle, same, finds⟩ |
              ⟨pc, first, rest, session, verdict, stands, present, steps,
                rfl⟩ := State.releaseThread_cases moves
          · rw [same]
            obtain stays | finding := finds id
            · exact stays ▸ between idle
            · exact finding ▸ find (between idle)
          · have deals := State.pcOf_head stands present
            rw [State.sessions_proceed]
            by_cases same : id = first
            · subst same
              rw [Function.update_self, State.pcOf_proceed_self present]
              exact releaseStep accounted deals
                (deals ▸ inductionHypothesis id) meets steps
            · rw [Function.update_of_ne same,
                State.pcOf_proceed_of_ne present same]
              exact State.pcOf_of_ne present same ▸ inductionHypothesis id

end Sessionwise

/-- The release thread deals with listed sessions only. -/
theorem Accounted.attended
    {state : State}
    (accounted : Accounted state) (id : SessionId) :
    (state.sessions id).Attended (state.pcOf id) := by
  intro present deals
  have first : id ∈ state.batch := by
    by_contra absent
    exact nomatch (state.pcOf_of_not_mem absent).symm.trans deals
  have listed := accounted.listed id (by simp [State.released, first])
  rwa [show state.pcOf id = some present from deals] at listed

/-! ## The condition -/

/-- The next step of the release thread does not skip the shutdown in
`Disconnect`. -/
def State.shutsDown (state : State) : Bool :=
  match state.pc, state.batch with
  | .dealing pc, id :: _ => (state.sessions id).shutsDown pc
  | _, _ => true

/-- No thread wins the send path of a session between the load of its IO mode by
the drain test in `Disconnect` and the reset of that mode, and the shutdown in
`Disconnect` is not skipped. -/
def State.keepsOrder (state : State) : Label → Bool
  | .act id action =>
      (state.sessions id).keepsSendPathFree (state.pcOf id) action
  | .push _ => true
  | .release => state.shutsDown

/-- The release thread is at the session with which it deals. -/
theorem State.shutsDown_of_pcOf
    {state : State} {id : SessionId} {pc : ReleasePc}
    (deals : state.pcOf id = some pc) :
    state.shutsDown = (state.sessions id).shutsDown pc := by
  unfold State.pcOf at deals
  split at deals
  · next present stands =>
    obtain ⟨first, same⟩ := Option.ite_none_right_eq_some.mp deals
    cases same
    obtain ⟨rest, batch⟩ := List.head?_eq_some_iff.mp first
    simp [State.shutsDown, stands, batch]
  · cases deals

/-- Nothing overtakes the release thread in this step. -/
def NothingOvertakes (state : State) (label : Label) : Prop :=
  state.keepsOrder label = true

instance (state : State) (label : Label) :
    Decidable (NothingOvertakes state label) :=
  inferInstanceAs (Decidable (_ = _))

/-- What is true of each session as long as nothing overtakes the release
thread. -/
structure Session.Ordered (session : Session) (pc : Option ReleasePc) :
    Prop where
  counted : session.Counted
  found : session.Found pc
  turned : session.lifecycle.Turned (ReleasePc.mark pc)

/-- After the second shutdown the socket is closed. -/
theorem Session.Ordered.staysShut
    {session : Session} {pc : Option ReleasePc}
    (ordered : session.Ordered pc)
    (attended : session.Attended pc) :
    session.StaysShut pc := by
  intro present member found
  have inUse := (attended present member).inUse
  cases member
  have socket := ordered.turned.socket inUse
  cases present with
  | drainReceives round | drainLogic round | drainMode round
  | drainCompletions round | drainProcessing round =>
      cases round with
      | first => cases found
      | second => exact socket
  | _ => first | exact socket | cases found

theorem initialSession_counted : initialSession.Counted where
  receives := rfl
  logic := rfl
  completions := rfl
  sendPath := .of_not_owns fun party holds => by
    cases party with
    | caller caller => cases holds
    | flight => exact holds rfl
    | ioWorker => cases holds
  single := Nat.zero_le 1
  closed _ _ := rfl
  worker _ := rfl

theorem initialSession_turned :
    initialSession.lifecycle.Turned (ReleasePc.mark none) where
  hooks := rfl
  socket := nofun
  reason _ := rfl
  unreasoned := nofun
  started := nofun
  pushed := nofun
  ended := nofun

/-- Each session is in order as long as nothing overtakes the release thread. -/
theorem ordered_of_nothingOvertakes
    {state : State}
    (reached : system.GuardedReachable NothingOvertakes state)
    (id : SessionId) :
    (state.sessions id).Ordered (state.pcOf id) := by
  refine sessionwise ?_ ?_ ?_ ?_ ?_ reached id
  · exact
      ⟨initialSession_counted, .of_foundNothing nofun, initialSession_turned⟩
  · intro state id action next accounted ordered keeps moves
    have attended := accounted.attended id
    exact
      { counted := ordered.counted.act moves
        found := ordered.found.act ordered.counted
          (ordered.staysShut attended) keeps moves
        turned := Session.turned_act ordered.turned (accounted.placed id)
          attended moves }
  · intro session pc ordered pushing
    exact
      { counted := { ordered.counted with }
        found := ordered.found.congr rfl
        turned := Session.turned_push ordered.turned }
  · intro session ordered
    exact ⟨ordered.counted, .of_foundNothing (by rintro present ⟨⟩; rfl),
      ordered.turned⟩
  · intro state id pc next verdict accounted deals ordered shuts moves
    have listed := accounted.attended id pc deals
    have passes : (state.sessions id).shutsDown pc = true :=
      (State.shutsDown_of_pcOf deals).symm.trans shuts
    exact
      { counted := ordered.counted.releaseStep ordered.found moves
        found := ordered.found.releaseStep moves
        turned := Session.turned_releaseStep ordered.turned listed passes
          moves }

/-- As long as nothing overtakes the release thread, sessions are released
drained and in order. -/
theorem releasedInOrder_of_nothingOvertakes
    {state : State}
    (reached : system.GuardedReachable NothingOvertakes state) :
    ReleasedInOrder state where
  drained := by
    intro id deals
    have ordered := ordered_of_nothingOvertakes reached id
    exact ordered.counted.drained
      (ordered.found.receives _ deals rfl) (ordered.found.logic _ deals rfl)
      (ordered.found.mode _ deals rfl)
      (ordered.found.completions _ deals rfl)
  present := by
    intro id
    have turned := (ordered_of_nothingOvertakes reached id).turned
    have hooks := turned.hooks
    change (state.sessions id).turn.hooks = _ at hooks
    rw [hooks]
    exact Phase.hooks_prefix _ _
  ended id := (ordered_of_nothingOvertakes reached id).turned.ended

/-! ## Sessions that are not released in order -/

/-- A thread takes the send path right after the drain test in `Disconnect` has
found it free, and the session is cleaned up. -/
def overtakenSchedule : List Label :=
  turnSchedule ++ releaseSchedule ++
  [.release, .act 0 (.send (.thread 0) true false), .release, .release]

/-- While a packet is processed the only receive completes, and the IO worker is
about to post the next one. -/
def busySchedule : List Label :=
  ([.act 0 .acquire, .act 0 .reserve] : List Label) ++
  (List.replicate 5 (.act 0 (.recv .broker true)) : List Label) ++
  ([.act 0 (.recv .broker false), .act 0 (.completeRecv 1)] : List Label) ++
  (List.replicate 3 (.act 0 (.io true false)) : List Label) ++
  (List.replicate 5 (.act 0 (.recv .worker true)) : List Label) ++
  ([.act 0 (.recv .worker false)] : List Label) ++
  (List.replicate 2 (.act 0 (.io true false)) : List Label) ++
  ([.act 0 .dequeue, .act 0 .logic, .act 0 .logic, .act 0 .logic,
    .act 0 .connect, .act 0 (.completeRecv 1)] : List Label) ++
  (List.replicate 3 (.act 0 (.io true false)) : List Label) ++
  (List.replicate 3 (.act 0 (.recv .worker true)) : List Label)

/-- Both shutdowns find a packet, and both drain tests find nothing. -/
def unshutSchedule : List Label :=
  busySchedule ++
  ([.act 0 (.disconnect .normal), .act 0 .releaser, .act 0 .releaser,
    .push 0] : List Label) ++
  (List.replicate 6 .release : List Label) ++
  ([.act 0 .logic, .act 0 .logic, .act 0 .dequeue,
    .act 0 .logic, .act 0 .logic, .act 0 .logic,
    .release, .release,
    .act 0 (.recv .worker true), .act 0 (.recv .worker true),
    .act 0 (.recv .worker false),
    .act 0 (.io true false), .act 0 (.io true false),
    .release, .release, .release,
    .act 0 (.completeRecv 1),
    .act 0 (.io true false), .act 0 (.io true false),
    .release, .release,
    .act 0 (.io true false),
    .act 0 (.recv .worker true), .act 0 (.recv .worker true),
    .act 0 (.io true false), .act 0 (.io true false),
    .act 0 .dequeue, .act 0 .logic, .act 0 .logic,
    .act 0 .logic] : List Label) ++
  (List.replicate 6 .release : List Label)

/-- The state after the first schedule. -/
def overtakenState : State :=
  (system.run initial overtakenSchedule).getD initial

/-- The state after the second one. -/
def unshutState : State :=
  (system.run initial unshutSchedule).getD initial

theorem run_overtakenSchedule :
    system.run initial overtakenSchedule = some overtakenState := rfl

theorem run_unshutSchedule :
    system.run initial unshutSchedule = some unshutState := rfl

/-- A session can be cleaned up while a thread has its send path, and another
one with its socket open and without `OnDisconnected`. -/
theorem overtakenState_unshutState_reachable :
    (system.Reachable overtakenState ∧ ¬ ReleasedInOrder overtakenState) ∧
      system.Reachable unshutState ∧ ¬ ReleasedInOrder unshutState := by
  refine ⟨⟨.run (.initial rfl) run_overtakenSchedule, fun ordered => ?_⟩,
    .run (.initial rfl) run_unshutSchedule, fun ordered => ?_⟩
  · exact nomatch (ordered.drained 0 rfl).ioMode
  · have hooks := ordered.present 0
    change [Hook.rioCleaned] <+: allHooks .normal at hooks
    simp [allHooks, shutdownHooks] at hooks

/-- A session that is cleaned up while nothing overtakes the release thread. -/
theorem releasedInOrder_at_cleaning :
    ReleasedInOrder
      ((system.run initial (turnSchedule ++ releaseSchedule ++
        List.replicate 3 .release)).getD initial) :=
  releasedInOrder_of_nothingOvertakes
    (TransitionSystem.GuardedReachable.guardedRun (.initial rfl)
      (show system.guardedRun NothingOvertakes initial
          (turnSchedule ++ releaseSchedule ++ List.replicate 3 .release) =
        some ((system.run initial (turnSchedule ++ releaseSchedule ++
          List.replicate 3 .release)).getD initial) from rfl))

end SessionRelease
end MultiSocketRudp
