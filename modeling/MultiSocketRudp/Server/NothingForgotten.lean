import MultiSocketRudp.Server.ReleaseAccounting

/-!
# No releasing session is forgotten

As long as the second drain test passes, a session leaves the lists of the
release thread only when it has been returned.  The test can fail after the
first one has passed, because a thread that has found the session not releasing
long before may take the send path for a moment; the session is then in no list,
and nobody will release it.
-/

namespace MultiSocketRudp
namespace SessionRelease

open TransitionSystems

/-! ## The condition -/

/-- The next load of the drain test in `Disconnect` finds what it must find. -/
def Session.passesSecondTest (session : Session) : ReleasePc → Bool
  | .drainReceives .second => session.outstandingRecvIo = 0
  | .drainLogic .second => session.pendingRecvLogic = 0
  | .drainMode .second => session.ioMode = .ioNoneSending
  | .drainCompletions .second => session.activeIOCompletions = 0
  | .drainProcessing .second => session.nowInProcessingRecvPacket = false
  | _ => true

/-- The release thread is not about to fail the drain test in `Disconnect`. -/
def State.passesSecondTest (state : State) : Bool :=
  match state.pc, state.batch with
  | .dealing pc, id :: _ => (state.sessions id).passesSecondTest pc
  | _, _ => true

/-- Every step of the release thread passes the drain test in `Disconnect`, when
it is at it. -/
def SecondTestPasses (state : State) (label : Label) : Prop :=
  label = .release → state.passesSecondTest = true

instance (state : State) (label : Label) :
    Decidable (SecondTestPasses state label) :=
  inferInstanceAs (Decidable (_ → _))

/-! ## The invariant -/

/-- The session is releasing and its push has completed. -/
def Session.Pushed (session : Session) : Prop :=
  session.sessionState = .releasing ∧ session.releaser = .idle

/-- Every pushed session is in one of the lists of the release thread. -/
def Kept (state : State) : Prop :=
  ∀ id, (state.sessions id).Pushed → id ∈ state.released

theorem Kept.nothingForgotten
    {state : State}
    (kept : Kept state) :
    NothingForgotten state := by
  intro id releasing idle
  have member := kept id ⟨releasing, idle⟩
  simpa [State.released, or_assoc] using member

namespace Session

variable {session next : Session}

/-- The threads of a session do not complete a push. -/
theorem pushed_of_act
    {action : Action}
    (moves : session.act action = some next)
    (pushed : next.Pushed) :
    session.Pushed := by
  by_cases io : action.isIo = true
  · have same := lifecycle_act io moves
    have state : next.sessionState = session.sessionState :=
      congrArg Lifecycle.sessionState same
    have releaser : next.releaser = session.releaser :=
      congrArg Lifecycle.releaser same
    exact ⟨state ▸ pushed.1, releaser ▸ pushed.2⟩
  cases action with
  | acquire =>
      simp only [Session.act, Option.ite_none_right_eq_some,
        Option.some.injEq] at moves
      obtain ⟨-, rfl⟩ := moves
      exact pushed
  | reserve =>
      simp only [Session.act, Option.ite_none_right_eq_some,
        Option.some.injEq] at moves
      obtain ⟨-, rfl⟩ := moves
      cases pushed.1
  | connect =>
      cases state : session.sessionState <;>
        simp [Session.act, SessionState.tryTransitionToConnected, state]
          at moves
      obtain ⟨-, rfl⟩ := moves
      cases pushed.1
  | disconnect reason =>
      simp only [Session.act, Option.ite_none_right_eq_some,
        Option.some.injEq] at moves
      obtain ⟨-, rfl⟩ := moves
      cases pushed.2
  | abort =>
      simp only [Session.act, Option.ite_none_right_eq_some,
        Option.some.injEq] at moves
      obtain ⟨-, rfl⟩ := moves
      cases pushed.2
  | releaser =>
      simp only [Session.act] at moves
      cases stands : session.releaser <;>
        simp only [releaserStep, stands, Option.some.injEq, reduceCtorEq]
          at moves <;>
        cases moves ▸ pushed.2
  | _ => exact absurd rfl io

/-- The release thread is done with a listed session only when it has returned
it, unless the second drain test fails. -/
theorem Listed.of_settled
    {pc : ReleasePc}
    (listed : session.Listed (some pc))
    (passes : session.passesSecondTest pc = true)
    (moves : session.releaseStep pc = some (next, .settled)) :
    ¬ next.Pushed := by
  cases pc with
  | finding =>
      have flagged := listed.flagged (by rintro present ⟨⟩; rfl)
      simp [Session.releaseStep, flagged] at moves
  | stateTest =>
      have releasing := listed.releasing (by simp)
      simp [Session.releaseStep, releasing] at moves
  | poolTest =>
      have releasing := listed.releasing (by simp)
      simp [Session.releaseStep, releasing, listed.inUse] at moves
  | drainReceives round | drainLogic round | drainMode round
  | drainCompletions round | drainProcessing round =>
      simp only [Session.releaseStep, Option.some.injEq, Prod.mk.injEq]
        at moves
      obtain ⟨-, settles⟩ := moves
      split at settles
      all_goals cases round
      all_goals simp_all [Round.undrained, passesSecondTest]
  | shutdownStarted round | shutdownLogic round | shutdownProcessing round =>
      simp only [Session.releaseStep, Option.some.injEq, Prod.mk.injEq]
        at moves
      obtain ⟨-, settles⟩ := moves
      split at settles <;> cases settles
  | shutdownSwapping round =>
      simp only [Session.releaseStep] at moves
      split at moves <;> simp at moves
  | returning =>
      simp only [Session.releaseStep, Option.some.injEq, Prod.mk.injEq,
        and_true] at moves
      subst moves
      exact fun pushed => by cases (listed.reset rfl).symm.trans pushed.1
  | _ => simp [Session.releaseStep] at moves

end Session

/-- The release thread takes a pushed session out of the lists only when it has
returned it. -/
theorem Kept.releaseThread
    {state next : State}
    (kept : Kept state)
    (accounted : Accounted state)
    (passes : state.passesSecondTest = true)
    (moves : state.releaseThread = some next) :
    Kept next := by
  cases stands : state.pc with
  | waiting =>
      simp only [State.releaseThread, stands, Option.some.injEq] at moves
      subst moves
      have empty := accounted.finished (.inl stands)
      intro id pushed
      simpa [State.released, empty] using kept id pushed
  | choosing =>
      simp only [State.releaseThread, stands] at moves
      split at moves
      all_goals
        simp only [Option.some.injEq] at moves
        subst moves
        exact kept
  | requeuing =>
      simp only [State.releaseThread, stands, Option.some.injEq] at moves
      subst moves
      have empty := accounted.finished (.inr stands)
      intro id pushed
      simpa [State.released, empty] using kept id pushed
  | dealing pc =>
      simp only [State.releaseThread, stands] at moves
      split at moves
      · cases moves
      next id rest present =>
      obtain ⟨⟨session, verdict⟩, steps, rfl⟩ :=
        Option.map_eq_some_iff.mp moves
      have listed := accounted.listed id (by simp [State.released, present])
      rw [State.pcOf_head stands present] at listed
      have others : ∀ other, other ≠ id →
          ((state.setSession id session).sessions other).Pushed →
          other ∈ state.released := by
        intro other distinct pushed
        rw [state.sessions_setSession_of_ne session distinct] at pushed
        exact kept other pushed
      cases verdict with
      | next after =>
          intro other pushed
          change other ∈ state.released
          by_cases same : other = id
          · subst same
            simp [State.released, present]
          · exact others other same pushed
      | remaining =>
          intro other pushed
          simp only [State.proceed, State.released, List.mem_append]
          by_cases same : other = id
          · simp [same]
          · have member := others other same pushed
            simp only [State.released, present, List.mem_append,
              List.mem_cons, same, false_or] at member
            exact member.imp_right .inl
      | settled =>
          have passed :
              (state.sessions id).passesSecondTest pc = true := by
            simpa [State.passesSecondTest, stands, present] using passes
          intro other pushed
          by_cases same : other = id
          · subst same
            change Session.Pushed
              ((state.setSession other session).sessions other) at pushed
            rw [State.sessions_setSession_self] at pushed
            exact absurd pushed (listed.of_settled passed steps)
          · have member := others other same pushed
            simpa [State.proceed, State.setSession, State.released, present,
              same] using member

/-- A step that passes the second drain test keeps every pushed session in the
lists. -/
theorem Kept.step
    {state next : State} {label : Label}
    (kept : Kept state)
    (accounted : Accounted state)
    (passes : SecondTestPasses state label)
    (moves : system.step state label = some next) :
    Kept next := by
  change SessionRelease.step state label = some next at moves
  cases label with
  | act id action =>
      obtain ⟨session, steps, rfl⟩ := Option.map_eq_some_iff.mp moves
      intro other pushed
      by_cases same : other = id
      · subst same
        rw [State.sessions_setSession_self] at pushed
        exact kept other (Session.pushed_of_act steps pushed)
      · rw [state.sessions_setSession_of_ne session same] at pushed
        exact kept other pushed
  | push id =>
      simp only [SessionRelease.step, State.push,
        Option.ite_none_right_eq_some, Option.some.injEq] at moves
      obtain ⟨-, rfl⟩ := moves
      intro other pushed
      by_cases same : other = id
      · subst same
        simp [State.released]
      · change Session.Pushed
          ((state.setSession id _).sessions other) at pushed
        rw [state.sessions_setSession_of_ne _ same] at pushed
        have before := kept other pushed
        simp only [State.released, List.mem_append] at before ⊢
        exact before.imp_left fun early => early.imp_left .inl
  | release => exact kept.releaseThread accounted (passes rfl) moves

/-- As long as the second drain test passes, no releasing session is
forgotten. -/
theorem nothingForgotten_of_secondTestPasses
    {state : State}
    (reached : system.GuardedReachable SecondTestPasses state) :
    NothingForgotten state := by
  refine Kept.nothingForgotten (reached.invariant ?_ ?_)
  · rintro state rfl
    exact fun id pushed => nomatch pushed.1
  · intro state label next before kept passes moves
    exact kept.step (accounted_of_reachable before.reachable) passes moves

/-! ## A session that is forgotten -/

/-- One turn of a session up to its release: the broker posts a receive, a
client connects, and a thread that has found the session not releasing stops
before the compare-and-swap of `DoSend`. -/
def turnSchedule : List Label :=
  ([.act 0 .acquire, .act 0 .reserve] : List Label) ++
  (List.replicate 5 (.act 0 (.recv .broker true)) : List Label) ++
  ([.act 0 (.recv .broker false), .act 0 (.completeRecv 1)] : List Label) ++
  (List.replicate 3 (.act 0 (.io true false)) : List Label) ++
  (List.replicate 5 (.act 0 (.recv .worker true)) : List Label) ++
  ([.act 0 (.recv .worker false)] : List Label) ++
  (List.replicate 2 (.act 0 (.io true false)) : List Label) ++
  ([.act 0 .dequeue, .act 0 .logic, .act 0 .logic, .act 0 .logic,
    .act 0 .connect, .act 0 .logic, .act 0 .logic,
    .act 0 (.enterSend 0), .act 0 (.send (.thread 0) true true)] : List Label)

/-- The session is disconnected and shut down, its last receive fails, and the
release thread has loaded both counts of the second drain test. -/
def releaseSchedule : List Label :=
  ([.act 0 (.disconnect .normal), .act 0 .releaser, .act 0 .releaser,
    .push 0] : List Label) ++
  (List.replicate 9 .release : List Label) ++
  ([.act 0 (.completeRecv 1)] : List Label) ++
  (List.replicate 3 (.act 0 (.io false false)) : List Label) ++
  (List.replicate 9 .release : List Label)

/-- The thread takes the send path, the drain test fails, and the thread frees
the send path again. -/
def forgottenSchedule : List Label :=
  turnSchedule ++ releaseSchedule ++
  ([.act 0 (.send (.thread 0) true false), .release, .release, .release,
    .act 0 (.send (.thread 0) true false),
    .act 0 (.send (.thread 0) true false)] : List Label)

/-- The state that it reaches. -/
def forgottenState : State :=
  (system.run initial forgottenSchedule).getD initial

theorem run_forgottenSchedule :
    system.run initial forgottenSchedule = some forgottenState := rfl

/-- A session whose release has been pushed can be in no list, although nothing
of it is under way. -/
theorem forgottenState_reachable :
    system.Reachable forgottenState ∧ ¬ NothingForgotten forgottenState := by
  refine ⟨.run (.initial rfl) run_forgottenSchedule, fun kept => ?_⟩
  have member := kept 0 rfl rfl
  change 0 ∈ [] ∨ 0 ∈ [] ∨ 0 ∈ [] at member
  simp at member

/-- A session that is released while the second drain test passes. -/
theorem nothingForgotten_during_release :
    NothingForgotten
      ((system.run initial (turnSchedule ++ releaseSchedule)).getD initial) :=
  nothingForgotten_of_secondTestPasses
    (TransitionSystem.GuardedReachable.guardedRun (.initial rfl)
      (show system.guardedRun SecondTestPasses initial
          (turnSchedule ++ releaseSchedule) =
        some ((system.run initial (turnSchedule ++ releaseSchedule)).getD
          initial) from rfl))

end SessionRelease
end MultiSocketRudp
