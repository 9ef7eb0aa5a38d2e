import MultiSocketRudp.Server.SessionRelease

/-!
# The release list

Every session in the release list, in the batch or in the remain list has been
put there by the one thread that won its release, and it stays releasing until
the release thread has returned it.  A session can only get lost when the second
drain test fails, which the release thread takes for success.
-/

namespace MultiSocketRudp
namespace SessionRelease

open TransitionSystems

/-! ## What the IO of a session leaves alone -/

/-- The fields that only the release and the reservation change. -/
structure Lifecycle where
  place : Place
  sessionState : SessionState
  nowInReleaseThread : Bool
  disconnectedReason : DisconnectReason
  ioShutdownStarted : Bool
  socketOpen : Bool
  releaser : ReleaserPc
  turn : Turn
  turns : List Turn

namespace Session

variable {session next : Session}

/-- The fields that IO leaves alone. -/
def lifecycle (session : Session) : Lifecycle where
  place := session.place
  sessionState := session.sessionState
  nowInReleaseThread := session.nowInReleaseThread
  disconnectedReason := session.disconnectedReason
  ioShutdownStarted := session.ioShutdownStarted
  socketOpen := session.socketOpen
  releaser := session.releaser
  turn := session.turn
  turns := session.turns

/-- `DoRecv` changes the receives and where its thread stands. -/
theorem recvStep_frame
    {caller : RecvCaller} {succeeds : Bool}
    (moves : session.recvStep caller succeeds = some next) :
    ∃ outstanding posted recvs,
      next = { session with
        outstandingRecvIo := outstanding
        receivesPosted := posted
        doRecvs := recvs } := by
  cases stands : session.doRecvs caller with
  | outside => simp [recvStep, stands] at moves
  | entering | locked | tested =>
      simp only [recvStep, stands, Option.some.injEq] at moves
      exact ⟨_, _, _, moves.symm⟩
  | looping | posting generation =>
      simp only [recvStep, stands, Option.some.injEq] at moves
      cases succeeds <;> exact ⟨_, _, _, moves.symm⟩

/-- `DoSend` changes the send path and where its thread stands. -/
theorem sendStep_frame
    {caller : SendCaller} {transmits again : Bool}
    (moves : session.sendStep caller transmits again = some next) :
    ∃ mode flights sends,
      next = { session with
        ioMode := mode
        sendsInFlight := flights
        doSends := sends } := by
  cases stands : session.doSends caller with
  | outside => simp [sendStep, stands] at moves
  | entering | testing | releasing again =>
      simp only [sendStep, stands, Option.some.injEq] at moves
      exact ⟨_, _, _, moves.symm⟩
  | contending | streaming =>
      simp only [sendStep, stands, Option.some.injEq] at moves
      split at moves <;> exact ⟨_, _, _, moves.symm⟩

/-- The IO worker hands a packet over, or it changes the counts, the send path
and where the threads stand. -/
theorem ioStep_frame
    {succeeded dropped : Bool}
    (moves : session.ioStep succeeded dropped = some next) :
    (∃ generation,
      session.ioWorker = .delivering generation ∧
        next = { session with
          pendingRecvLogic := session.pendingRecvLogic + 1
          recvLogicQueue := session.recvLogicQueue ++ [generation]
          ioWorker := .releasing true }) ∨
    ∃ outstanding completions mode recvs sends worker,
      next = { session with
        outstandingRecvIo := outstanding
        activeIOCompletions := completions
        ioMode := mode
        doRecvs := recvs
        doSends := sends
        ioWorker := worker } := by
  cases stands : session.ioWorker with
  | idle => simp [ioStep, stands] at moves
  | delivering generation =>
      simp only [ioStep, stands, Option.some.injEq] at moves
      exact .inl ⟨generation, rfl, moves.symm⟩
  | received generation | sent generation | storing succeeded | ending =>
      simp only [ioStep, stands, Option.some.injEq] at moves
      exact .inr ⟨_, _, _, _, _, _, moves.symm⟩
  | releasing again =>
      simp only [ioStep, stands, Option.some.injEq] at moves
      cases again <;> exact .inr ⟨_, _, _, _, _, _, moves.symm⟩
  | receiving | sending =>
      simp only [ioStep, stands, Option.ite_none_right_eq_some,
        Option.some.injEq] at moves
      exact .inr ⟨_, _, _, _, _, _, moves.2.symm⟩
  | testing =>
      simp only [ioStep, stands, Option.some.injEq] at moves
      split at moves <;> exact .inr ⟨_, _, _, _, _, _, moves.symm⟩

/-- The logic worker changes its count, its mark and where it stands. -/
theorem logicStep_frame
    (moves : session.logicStep = some next) :
    ∃ pending processing worker,
      next = { session with
        pendingRecvLogic := pending
        nowInProcessingRecvPacket := processing
        logicWorker := worker } := by
  cases stands : session.logicWorker with
  | idle => simp [logicStep, stands] at moves
  | dequeued generation | tested | starting | processing | completing =>
      simp only [logicStep, stands, Option.some.injEq] at moves
      exact ⟨_, _, _, moves.symm⟩

theorem lifecycle_recvStep
    {caller : RecvCaller} {succeeds : Bool}
    (moves : session.recvStep caller succeeds = some next) :
    next.lifecycle = session.lifecycle := by
  obtain ⟨outstanding, posted, recvs, rfl⟩ := recvStep_frame moves
  rfl

theorem lifecycle_sendStep
    {caller : SendCaller} {transmits again : Bool}
    (moves : session.sendStep caller transmits again = some next) :
    next.lifecycle = session.lifecycle := by
  obtain ⟨mode, flights, sends, rfl⟩ := sendStep_frame moves
  rfl

theorem lifecycle_ioStep
    {succeeded dropped : Bool}
    (moves : session.ioStep succeeded dropped = some next) :
    next.lifecycle = session.lifecycle := by
  obtain ⟨generation, -, rfl⟩ |
      ⟨outstanding, completions, mode, recvs, sends, worker, rfl⟩ :=
    ioStep_frame moves
  · rfl
  · rfl

theorem lifecycle_logicStep
    (moves : session.logicStep = some next) :
    next.lifecycle = session.lifecycle := by
  obtain ⟨pending, processing, worker, rfl⟩ := logicStep_frame moves
  rfl

end Session

/-- The steps of `DoRecv`, `DoSend`, the IO worker and the logic worker. -/
def Action.isIo : Action → Bool
  | .recv _ _ | .enterSend _ | .send _ _ _ | .completeRecv _
  | .completeSend _ | .io _ _ | .dequeue | .logic => true
  | _ => false

namespace Session

variable {session next : Session}

/-- IO leaves the life cycle of its session alone. -/
theorem lifecycle_act
    {action : Action}
    (io : action.isIo = true)
    (moves : session.act action = some next) :
    next.lifecycle = session.lifecycle := by
  cases action with
  | recv caller succeeds => exact lifecycle_recvStep moves
  | send caller transmits again => exact lifecycle_sendStep moves
  | io succeeded dropped => exact lifecycle_ioStep moves
  | logic => exact lifecycle_logicStep moves
  | enterSend index =>
      simp only [act, Option.ite_none_right_eq_some, Option.some.injEq]
        at moves
      exact moves.2 ▸ rfl
  | completeRecv generation =>
      simp only [act, Option.ite_none_right_eq_some, Option.some.injEq]
        at moves
      exact moves.2 ▸ rfl
  | completeSend generation =>
      simp only [act, Option.ite_none_right_eq_some, Option.some.injEq]
        at moves
      exact moves.2 ▸ rfl
  | dequeue =>
      simp only [act] at moves
      split at moves
      · simp only [Option.some.injEq] at moves
        exact moves ▸ rfl
      · cases moves
  | acquire => cases io
  | reserve => cases io
  | connect => cases io
  | disconnect reason => cases io
  | abort => cases io
  | releaser => cases io

end Session

/-! ## Sessions that are being released -/

/-- `InitializeSession` has lowered the release flag. -/
def ReleasePc.isLowered : ReleasePc → Bool
  | .resetting | .resettingMode | .resettingReason | .resettingState
  | .returning => true
  | _ => false

/-- What a session in the pool or in the hands of its winner looks like. -/
structure Session.Placed (session : Session) : Prop where
  won : session.releaser ≠ .idle →
    session.sessionState = .releasing ∧ session.place = .inUse
  unreserved : session.place ≠ .inUse → session.sessionState = .disconnected

/-- What a session looks like that the release thread has in one of its lists,
and with which it may be dealing. -/
structure Session.Listed (session : Session) (pc : Option ReleasePc) :
    Prop where
  pushed : session.releaser = .idle
  inUse : session.place = .inUse
  releasing : pc ≠ some .returning → session.sessionState = .releasing
  reset : pc = some .returning → session.sessionState = .disconnected
  flagged : (∀ present ∈ pc, present.isLowered = false) →
    session.nowInReleaseThread = true

namespace Session

variable {session next : Session}

/-- The fields that tell in whose hands a session is. -/
def custody (session : Session) :
    Place × SessionState × Bool × ReleaserPc :=
  (session.place, session.sessionState, session.nowInReleaseThread,
    session.releaser)

theorem custody_of_lifecycle
    (same : next.lifecycle = session.lifecycle) :
    next.custody = session.custody :=
  congrArg (fun lifecycle : Lifecycle =>
    (lifecycle.place, lifecycle.sessionState, lifecycle.nowInReleaseThread,
      lifecycle.releaser)) same

theorem custody_callUnlessAborted (session : Session) (hook : Hook) :
    (session.callUnlessAborted hook).custody = session.custody := by
  unfold callUnlessAborted
  split <;> rfl

theorem custody_closeSocket (session : Session) :
    session.closeSocket.custody = session.custody := by
  unfold closeSocket
  split <;> rfl

theorem Placed.congr
    (placed : session.Placed)
    (same : next.custody = session.custody) :
    next.Placed := by
  obtain ⟨place, state, -, releaser⟩ :=
    (by simpa [custody] using same :
      next.place = session.place ∧ next.sessionState = session.sessionState ∧
        next.nowInReleaseThread = session.nowInReleaseThread ∧
        next.releaser = session.releaser)
  exact ⟨by rw [releaser, place, state]; exact placed.won,
    by rw [place, state]; exact placed.unreserved⟩

theorem Listed.congr
    {pc : Option ReleasePc}
    (listed : session.Listed pc)
    (same : next.custody = session.custody) :
    next.Listed pc := by
  obtain ⟨place, state, flag, releaser⟩ :=
    (by simpa [custody] using same :
      next.place = session.place ∧ next.sessionState = session.sessionState ∧
        next.nowInReleaseThread = session.nowInReleaseThread ∧
        next.releaser = session.releaser)
  exact
    { pushed := releaser ▸ listed.pushed
      inUse := place ▸ listed.inUse
      releasing := state ▸ listed.releasing
      reset := state ▸ listed.reset
      flagged := flag ▸ listed.flagged }

/-- A listed session is placed. -/
theorem Listed.placed
    {pc : Option ReleasePc}
    (listed : session.Listed pc) :
    session.Placed :=
  ⟨fun won => absurd listed.pushed won,
    fun elsewhere => absurd listed.inUse elsewhere⟩

/-- The release thread moves on with a session whose flag and state it leaves
alone. -/
theorem Listed.move
    {pc pc' : Option ReleasePc}
    (listed : session.Listed pc)
    (before : pc ≠ some .returning)
    (after : pc' ≠ some .returning)
    (lowered : (∀ present ∈ pc', present.isLowered = false) →
      ∀ present ∈ pc, present.isLowered = false) :
    session.Listed pc' where
  pushed := listed.pushed
  inUse := listed.inUse
  releasing _ := listed.releasing before
  reset returning := absurd returning after
  flagged raised := listed.flagged (lowered raised)

/-- The compare-and-swap of `DoDisconnect` needs a session in use. -/
theorem inUse_of_tryTransition
    {state : SessionState}
    (wins : state.tryTransitionToReleasing.1 = true) :
    state ≠ .disconnected ∧ state ≠ .releasing ∧
      state.tryTransitionToReleasing.2 = .releasing := by
  cases state <;> simp_all [SessionState.tryTransitionToReleasing]

/-- So does the one of `AbortReservedSession`. -/
theorem inUse_of_tryAbort
    {state : SessionState}
    (wins : state.tryAbortReserved.1 = true) :
    state ≠ .disconnected ∧ state ≠ .releasing ∧
      state.tryAbortReserved.2 = .releasing := by
  cases state <;> simp_all [SessionState.tryAbortReserved]

/-- And the one of `TryConnect`. -/
theorem inUse_of_tryConnect
    {state : SessionState}
    (wins : state.tryTransitionToConnected.1 = true) :
    state ≠ .disconnected ∧ state ≠ .releasing ∧
      state.tryTransitionToConnected.2 ≠ .disconnected := by
  cases state <;> simp_all [SessionState.tryTransitionToConnected]

/-- A session that is not disconnected is in use. -/
theorem Placed.inUse
    (placed : session.Placed)
    (active : session.sessionState ≠ .disconnected) :
    session.place = .inUse := by
  by_contra elsewhere
  exact active (placed.unreserved elsewhere)

/-- Nobody has won the release of a session that is not releasing. -/
theorem Placed.unwon
    (placed : session.Placed)
    (active : session.sessionState ≠ .releasing) :
    session.releaser = .idle := by
  by_contra won
  exact active (placed.won won).1

/-- The threads of a session keep it placed. -/
theorem Placed.act
    (placed : session.Placed) {action : Action}
    (moves : session.act action = some next) :
    next.Placed := by
  by_cases io : action.isIo = true
  · exact placed.congr (custody_of_lifecycle (lifecycle_act io moves))
  cases action with
  | acquire =>
      simp only [Session.act, Option.ite_none_right_eq_some,
        Option.some.injEq] at moves
      obtain ⟨unused, rfl⟩ := moves
      have idle := placed.unreserved (by simp [unused])
      have unwon := placed.unwon (by simp [idle])
      exact ⟨fun won => absurd unwon won, fun _ => idle⟩
  | reserve =>
      simp only [Session.act, Option.ite_none_right_eq_some,
        Option.some.injEq] at moves
      obtain ⟨⟨handedOut, -⟩, rfl⟩ := moves
      have idle := placed.unreserved (by simp [handedOut])
      have unwon := placed.unwon (by simp [idle])
      exact ⟨fun won => absurd unwon won, fun elsewhere => absurd rfl elsewhere⟩
  | connect =>
      simp only [Session.act, Option.ite_none_right_eq_some,
        Option.some.injEq] at moves
      obtain ⟨⟨-, wins⟩, rfl⟩ := moves
      obtain ⟨active, unreleased, -⟩ := inUse_of_tryConnect wins
      have inUse := placed.inUse active
      exact ⟨fun won => absurd (placed.unwon unreleased) won,
        fun elsewhere => absurd inUse elsewhere⟩
  | disconnect reason =>
      simp only [Session.act, Option.ite_none_right_eq_some,
        Option.some.injEq] at moves
      obtain ⟨wins, rfl⟩ := moves
      obtain ⟨active, -, releasing⟩ := inUse_of_tryTransition wins
      have inUse := placed.inUse active
      exact ⟨fun _ => ⟨releasing, inUse⟩,
        fun elsewhere => absurd inUse elsewhere⟩
  | abort =>
      simp only [Session.act, Option.ite_none_right_eq_some,
        Option.some.injEq] at moves
      obtain ⟨wins, rfl⟩ := moves
      obtain ⟨active, -, releasing⟩ := inUse_of_tryAbort wins
      have inUse := placed.inUse active
      exact ⟨fun _ => ⟨releasing, inUse⟩,
        fun elsewhere => absurd inUse elsewhere⟩
  | releaser =>
      simp only [Session.act] at moves
      cases stands : session.releaser with
      | idle => simp [releaserStep, stands] at moves
      | pushing => simp [releaserStep, stands] at moves
      | won reason =>
          have won := placed.won (by simp [stands])
          simp only [releaserStep, stands, Option.some.injEq] at moves
          exact moves ▸ ⟨fun _ => won, placed.unreserved⟩
      | reasoned =>
          have won := placed.won (by simp [stands])
          simp only [releaserStep, stands, Option.some.injEq] at moves
          exact moves ▸ ⟨fun _ => won, placed.unreserved⟩
      | aborted =>
          have won := placed.won (by simp [stands])
          simp only [releaserStep, stands, Option.some.injEq] at moves
          exact moves ▸ ⟨fun _ => won, placed.unreserved⟩
      | flagged =>
          have won := placed.won (by simp [stands])
          simp only [releaserStep, stands, Option.some.injEq] at moves
          exact moves ▸ ⟨fun _ => won, placed.unreserved⟩
  | _ => exact absurd rfl io

/-- The threads of a session leave a listed session listed. -/
theorem Listed.act
    {pc : Option ReleasePc}
    (listed : session.Listed pc) {action : Action}
    (moves : session.act action = some next) :
    next.Listed pc := by
  by_cases io : action.isIo = true
  · exact listed.congr (custody_of_lifecycle (lifecycle_act io moves))
  have closed : session.sessionState ≠ .reserved ∧
      session.sessionState ≠ .connected := by
    by_cases returning : pc = some .returning
    · simp [listed.reset returning]
    · simp [listed.releasing returning]
  cases action with
  | acquire => simp [Session.act, listed.inUse] at moves
  | reserve => simp [Session.act, listed.inUse] at moves
  | connect =>
      cases state : session.sessionState <;>
        simp_all [Session.act, SessionState.tryTransitionToConnected]
  | disconnect reason =>
      cases state : session.sessionState <;>
        simp_all [Session.act, SessionState.tryTransitionToReleasing]
  | abort =>
      cases state : session.sessionState <;>
        simp_all [Session.act, SessionState.tryAbortReserved]
  | releaser => simp [Session.act, releaserStep, listed.pushed] at moves
  | _ => exact absurd rfl io

/-- What the release thread's verdict on a session entails. -/
def Follows (session : Session) : Verdict → Prop
  | .next pc => session.Listed (some pc)
  | .remaining => session.Listed none
  | .settled => session.Placed

/-- Before the flag is lowered a step of the release thread leaves the session
listed, or it is done with it. -/
theorem Listed.follows
    {pc : ReleasePc}
    (listed : session.Listed (some pc))
    (raised : pc.isLowered = false)
    (same : next.custody = session.custody) {verdict : Verdict}
    (goesOn : ∀ after, verdict = .next after → after.isLowered = false) :
    next.Follows verdict := by
  have returning : some pc ≠ some ReleasePc.returning := by
    rintro ⟨⟩
    cases raised
  have moved := listed.congr same
  cases verdict with
  | next after =>
      have below := goesOn after rfl
      refine moved.move returning ?_ fun _ present member => ?_
      · rintro ⟨⟩
        cases below
      · exact Option.some.inj member ▸ raised
  | remaining =>
      exact moved.move returning nofun fun _ present member =>
        Option.some.inj member ▸ raised
  | settled => exact moved.placed

/-- A failed drain test does not lead into `InitializeSession`. -/
theorem isLowered_undrained
    {round : Round} {after : ReleasePc}
    (next : round.undrained = .next after) :
    after.isLowered = false := by
  cases round <;> cases next

/-- A step of the release thread with a listed session. -/
theorem Listed.releaseStep
    {pc : ReleasePc} {verdict : Verdict}
    (listed : session.Listed (some pc))
    (moves : session.releaseStep pc = some (next, verdict)) :
    next.Follows verdict := by
  cases pc with
  | finding | shutdownStarted round | shutdownLogic round
  | shutdownProcessing round | stateTest | poolTest =>
      simp only [Session.releaseStep, Option.some.injEq, Prod.mk.injEq]
        at moves
      obtain ⟨rfl, rfl⟩ := moves
      refine listed.follows rfl rfl fun after goesOn => ?_
      split at goesOn <;> cases goesOn <;> rfl
  | drainReceives round | drainLogic round | drainMode round
  | drainCompletions round =>
      simp only [Session.releaseStep, Option.some.injEq, Prod.mk.injEq]
        at moves
      obtain ⟨rfl, rfl⟩ := moves
      refine listed.follows rfl rfl fun after goesOn => ?_
      split at goesOn
      · cases goesOn
        rfl
      · exact isLowered_undrained goesOn
  | drainProcessing round =>
      simp only [Session.releaseStep, Option.some.injEq, Prod.mk.injEq]
        at moves
      obtain ⟨rfl, rfl⟩ := moves
      refine listed.follows rfl rfl fun after goesOn => ?_
      split at goesOn
      · exact isLowered_undrained goesOn
      · cases goesOn
        cases round <;> rfl
  | shutdownSwapping round =>
      simp only [Session.releaseStep] at moves
      split at moves
      · simp only [Option.some.injEq, Prod.mk.injEq] at moves
        obtain ⟨rfl, rfl⟩ := moves
        refine listed.follows rfl ?_ fun after goesOn => ?_
        · rfl
        · cases goesOn
          rfl
      · simp only [Option.some.injEq, Prod.mk.injEq] at moves
        obtain ⟨rfl, rfl⟩ := moves
        refine listed.follows rfl ?_ fun after goesOn => ?_
        · rfl
        · cases goesOn
          rfl
  | shutdownNotifying round | releasing =>
      simp only [Session.releaseStep, Option.some.injEq, Prod.mk.injEq]
        at moves
      obtain ⟨rfl, rfl⟩ := moves
      refine listed.follows rfl (custody_callUnlessAborted session _)
        fun after goesOn => ?_
      cases goesOn
      rfl
  | shutdownClosing round =>
      simp only [Session.releaseStep, Option.ite_none_left_eq_some,
        Option.some.injEq, Prod.mk.injEq] at moves
      obtain ⟨-, rfl, rfl⟩ := moves
      refine listed.follows rfl (custody_closeSocket session)
        fun after goesOn => ?_
      cases goesOn
      rfl
  | cleaning | incrementing =>
      simp only [Session.releaseStep, Option.some.injEq, Prod.mk.injEq]
        at moves
      obtain ⟨rfl, rfl⟩ := moves
      refine listed.follows rfl ?_ fun after goesOn => ?_
      · rfl
      · cases goesOn
        rfl
  | lowering =>
      simp only [Session.releaseStep, Option.some.injEq, Prod.mk.injEq]
        at moves
      obtain ⟨rfl, rfl⟩ := moves
      exact
        { listed with
          releasing := fun _ => listed.releasing nofun
          reset := nofun
          flagged := fun raised => nomatch raised _ rfl }
  | resetting | resettingMode | resettingReason =>
      simp only [Session.releaseStep, Option.some.injEq, Prod.mk.injEq]
        at moves
      obtain ⟨rfl, rfl⟩ := moves
      exact
        { listed with
          releasing := fun _ => listed.releasing nofun
          reset := nofun
          flagged := fun raised => nomatch raised _ rfl }
  | resettingState =>
      simp only [Session.releaseStep, Option.some.injEq, Prod.mk.injEq]
        at moves
      obtain ⟨rfl, rfl⟩ := moves
      exact
        { listed with
          releasing := fun returning => absurd rfl returning
          reset := fun _ => rfl
          flagged := fun raised => nomatch raised _ rfl }
  | returning =>
      simp only [Session.releaseStep, Option.some.injEq, Prod.mk.injEq]
        at moves
      obtain ⟨rfl, rfl⟩ := moves
      exact ⟨fun won => absurd listed.pushed won,
        fun _ => listed.reset rfl⟩

end Session

/-! ## The lists of the release thread -/

/-- The sessions that the release thread has in one of its lists. -/
def State.released (state : State) : List SessionId :=
  state.releaseSessionIdList ++ state.batch ++ state.remainList

/-- Every session is placed, and each one in the lists is there once and still
releasing. -/
structure Accounted (state : State) : Prop where
  placed : ∀ id, (state.sessions id).Placed
  nodup : state.released.Nodup
  listed : ∀ id ∈ state.released,
    (state.sessions id).Listed (state.pcOf id)
  finished : state.pc = .waiting ∨ state.pc = .requeuing → state.batch = []
  requeued : state.pc = .waiting → state.remainList = []

namespace State

variable {state : State}

@[simp] theorem sessions_setSession_self
    (state : State) (id : SessionId) (session : Session) :
    (state.setSession id session).sessions id = session :=
  Function.update_self _ _ _

theorem sessions_setSession_of_ne
    (state : State) {id other : SessionId} (session : Session)
    (distinct : other ≠ id) :
    (state.setSession id session).sessions other = state.sessions other :=
  Function.update_of_ne distinct _ _

/-- The release thread deals with the first session of the batch. -/
theorem pcOf_head
    {pc : ReleasePc} {id : SessionId} {rest : List SessionId}
    (deals : state.pc = .dealing pc)
    (first : state.batch = id :: rest) :
    state.pcOf id = some pc := by
  simp [pcOf, deals, first]

/-- It deals with no other session. -/
theorem pcOf_of_ne
    {id other : SessionId} {rest : List SessionId}
    (first : state.batch = id :: rest)
    (distinct : other ≠ id) :
    state.pcOf other = none := by
  unfold pcOf
  split
  · rw [first, List.head?_cons, if_neg]
    exact fun same => distinct (Option.some.inj same).symm
  · rfl

/-- Between two sessions it deals with none. -/
theorem pcOf_of_not_dealing
    {id : SessionId}
    (between : ∀ pc, state.pc ≠ .dealing pc) :
    state.pcOf id = none := by
  unfold pcOf
  split
  · next pc deals => exact absurd deals (between pc)
  · rfl

/-- It deals with no session outside the batch. -/
theorem pcOf_of_not_mem
    (state : State) {id : SessionId}
    (absent : id ∉ state.batch) :
    state.pcOf id = none := by
  unfold pcOf
  split
  · refine if_neg fun first => absent ?_
    exact List.mem_of_mem_head? first
  · rfl

end State

namespace Accounted

variable {state next : State}

/-- The threads of a session keep the account. -/
theorem act
    (accounted : Accounted state) {id : SessionId} {action : Action}
    {session : Session}
    (moves : (state.sessions id).act action = some session) :
    Accounted (state.setSession id session) :=
  { accounted with
    placed := by
      intro other
      by_cases same : other = id
      · subst same
        rw [State.sessions_setSession_self]
        exact (accounted.placed other).act moves
      · rw [state.sessions_setSession_of_ne session same]
        exact accounted.placed other
    listed := by
      intro other member
      by_cases same : other = id
      · subst same
        rw [State.sessions_setSession_self]
        exact (accounted.listed other member).act moves
      · rw [state.sessions_setSession_of_ne session same]
        exact accounted.listed other member }

/-- The winner of a release puts the session into the list once. -/
theorem push
    (accounted : Accounted state) {id : SessionId}
    (moves : state.push id = some next) :
    Accounted next := by
  simp only [State.push, Option.ite_none_right_eq_some, Option.some.injEq]
    at moves
  obtain ⟨pushing, rfl⟩ := moves
  have won := (accounted.placed id).won (by simp [pushing])
  have absent : id ∉ state.released := fun member => by
    cases pushing.symm.trans (accounted.listed id member).pushed
  have order : state.releaseSessionIdList ++ [id] ++ state.batch ++
      state.remainList =
      state.releaseSessionIdList ++ id :: (state.batch ++ state.remainList) :=
    by simp
  have permuted : (state.releaseSessionIdList ++ [id] ++ state.batch ++
      state.remainList).Perm (id :: state.released) := by
    rw [order, State.released, List.append_assoc]
    exact List.perm_middle
  exact
    { accounted with
      placed := by
        intro other
        by_cases same : other = id
        · subst same
          rw [State.sessions_setSession_self]
          exact ⟨fun won => absurd rfl won,
            fun elsewhere => absurd won.2 elsewhere⟩
        · rw [state.sessions_setSession_of_ne _ same]
          exact accounted.placed other
      nodup := permuted.nodup_iff.mpr
        (List.nodup_cons.mpr ⟨absent, accounted.nodup⟩)
      listed := by
        intro other member
        by_cases same : other = id
        · subst same
          rw [State.sessions_setSession_self]
          have away : state.pcOf other = none :=
            state.pcOf_of_not_mem fun first =>
              absent (by simp [State.released, first])
          change Session.Listed _ (state.pcOf other)
          rw [away]
          exact
            { pushed := rfl
              inUse := won.2
              releasing := fun _ => won.1
              reset := by simp
              flagged := fun _ => rfl }
        · have before : other ∈ state.released :=
            (List.mem_cons.mp (permuted.mem_iff.mp member)).resolve_left same
          rw [state.sessions_setSession_of_ne _ same]
          exact accounted.listed other before }

/-- A step with the first session of the batch keeps the account. -/
theorem proceed
    (accounted : Accounted state) {pc : ReleasePc} {id : SessionId}
    {rest : List SessionId} {session : Session} {verdict : Verdict}
    (deals : state.pc = .dealing pc)
    (present : state.batch = id :: rest)
    (steps : (state.sessions id).releaseStep pc = some (session, verdict)) :
    Accounted (state.proceed id rest (session, verdict)) := by
  have first : id ∈ state.released := by simp [State.released, present]
  have listed := accounted.listed id first
  rw [State.pcOf_head deals present] at listed
  have follows := listed.releaseStep steps
  have others : ∀ other ∈ state.released, other ≠ id →
      (state.sessions other).Listed none := fun other member distinct =>
    State.pcOf_of_ne present distinct ▸ accounted.listed other member
  have placed : session.Placed → ∀ other,
      ((state.setSession id session).sessions other).Placed := by
    intro placed other
    by_cases same : other = id
    · subst same
      rw [State.sessions_setSession_self]
      exact placed
    · rw [state.sessions_setSession_of_ne session same]
      exact accounted.placed other
  have nodup := accounted.nodup
  rw [State.released, present] at nodup
  cases verdict with
  | next after =>
      have moved : session.Listed (some after) := follows
      exact
        { placed := placed moved.placed
          nodup := accounted.nodup
          listed := by
            intro other member
            change ((state.setSession id session).sessions other).Listed
              (if state.batch.head? = some other then some after else none)
            rw [present, List.head?_cons]
            by_cases same : other = id
            · subst same
              rw [State.sessions_setSession_self, if_pos rfl]
              exact moved
            · rw [state.sessions_setSession_of_ne session same,
                if_neg fun equal => same (Option.some.inj equal).symm]
              exact others other member same
          finished := nofun
          requeued := nofun }
  | settled =>
      have shorter : (state.releaseSessionIdList ++ rest ++
          state.remainList).Sublist state.released := by
        rw [State.released, present]
        exact ((List.sublist_cons_self id rest).append_left _).append_right _
      have gone : id ∉ state.releaseSessionIdList ++ rest ++
          state.remainList := by
        simp only [List.append_assoc, List.cons_append] at nodup ⊢
        exact (List.nodup_middle.mp nodup).notMem
      exact
        { placed := placed follows
          nodup := shorter.nodup accounted.nodup
          listed := by
            intro other member
            have same : other ≠ id := fun same => gone (same ▸ member)
            change ((state.setSession id session).sessions other).Listed none
            rw [state.sessions_setSession_of_ne session same]
            exact others other (shorter.subset member) same
          finished := nofun
          requeued := nofun }
  | remaining =>
      have moved : session.Listed none := follows
      have permuted : (state.releaseSessionIdList ++ rest ++
          (state.remainList ++ [id])).Perm state.released := by
        rw [State.released, present]
        simp only [List.append_assoc, List.cons_append]
        refine List.Perm.append_left _ ?_
        rw [← List.append_assoc]
        exact List.perm_append_singleton id (rest ++ state.remainList)
      exact
        { placed := placed moved.placed
          nodup := permuted.nodup_iff.mpr accounted.nodup
          listed := by
            intro other member
            change ((state.setSession id session).sessions other).Listed none
            by_cases same : other = id
            · subst same
              rw [State.sessions_setSession_self]
              exact moved
            · rw [state.sessions_setSession_of_ne session same]
              exact others other (permuted.mem_iff.mp member) same
          finished := nofun
          requeued := nofun }

/-- The release thread keeps the account. -/
theorem releaseThread
    (accounted : Accounted state)
    (moves : state.releaseThread = some next) :
    Accounted next := by
  have none_of : ∀ {id : SessionId}, (∀ pc, state.pc ≠ .dealing pc) →
      id ∈ state.released → (state.sessions id).Listed none :=
    fun between member =>
      State.pcOf_of_not_dealing between ▸ accounted.listed _ member
  cases stands : state.pc with
  | waiting =>
      simp only [State.releaseThread, stands, Option.some.injEq] at moves
      subst moves
      have empty := accounted.finished (.inl stands)
      have members : ∀ id, id ∈ [] ++ state.releaseSessionIdList ++
          state.remainList → id ∈ state.released := by
        simp [State.released, empty]
      have nodup := accounted.nodup
      rw [State.released, empty, List.append_nil] at nodup
      exact
        { placed := accounted.placed
          nodup := nodup
          listed := fun id member =>
            none_of (by simp [stands]) (members id member)
          finished := nofun
          requeued := nofun }
  | choosing =>
      simp only [State.releaseThread, stands] at moves
      split at moves
      · next present =>
        simp only [Option.some.injEq] at moves
        subst moves
        exact
          { placed := accounted.placed
            nodup := accounted.nodup
            listed := fun id member => none_of (by simp [stands]) member
            finished := fun _ => present
            requeued := nofun }
      · next id rest present =>
        simp only [Option.some.injEq] at moves
        subst moves
        exact
          { placed := accounted.placed
            nodup := accounted.nodup
            listed := by
              intro other member
              have listed := none_of (by simp [stands]) member
              change (state.sessions other).Listed
                (if state.batch.head? = some other then some .finding
                  else none)
              split
              · exact listed.move nofun nofun nofun
              · exact listed
            finished := nofun
            requeued := nofun }
  | requeuing =>
      simp only [State.releaseThread, stands, Option.some.injEq] at moves
      subst moves
      have empty := accounted.finished (.inr stands)
      have members : ∀ id, id ∈ state.releaseSessionIdList ++
          state.remainList ++ state.batch ++ [] → id ∈ state.released := by
        simp [State.released, empty]
      have nodup := accounted.nodup
      rw [State.released, empty, List.append_nil] at nodup
      exact
        { placed := accounted.placed
          nodup := by simpa [State.released, empty] using nodup
          listed := fun id member =>
            none_of (by simp [stands]) (members id member)
          finished := fun _ => empty
          requeued := fun _ => rfl }
  | dealing pc =>
      simp only [State.releaseThread, stands] at moves
      split at moves
      · cases moves
      · next id rest present =>
        obtain ⟨⟨session, verdict⟩, steps, rfl⟩ :=
          Option.map_eq_some_iff.mp moves
        exact accounted.proceed stands present steps

end Accounted

/-- The account is kept in every run. -/
theorem accounted_of_reachable
    {state : State}
    (reached : system.Reachable state) :
    Accounted state := by
  refine reached.invariant ?_ ?_
  · rintro state rfl
    exact
      { placed := fun _ => ⟨fun won => absurd rfl won, fun _ => rfl⟩
        nodup := List.nodup_nil
        listed := nofun
        finished := fun _ => rfl
        requeued := fun _ => rfl }
  · intro state label next _ accounted moves
    change step state label = some next at moves
    cases label with
    | act id action =>
        obtain ⟨session, steps, rfl⟩ := Option.map_eq_some_iff.mp moves
        exact accounted.act steps
    | push id => exact accounted.push moves
    | release => exact accounted.releaseThread moves

end SessionRelease
end MultiSocketRudp
