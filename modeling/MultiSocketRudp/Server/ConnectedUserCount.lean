import Mathlib.Algebra.BigOperators.Group.Finset.Piecewise
import MultiSocketRudp.Lib.SerialNumber
import MultiSocketRudp.Server.ReleaseReason

/-!
# The number of connected users

`DecrementConnectedCount` counts down by the disconnect reason.  Where
`DoDisconnect` wins only sessions that are connected, the reason is right, the
count is exact whenever no thread is inside the session manager, and a session
that has never been connected is not noticed.  A reserved session that
`DoDisconnect` wins after an IO failure is counted down all the same.
-/

namespace MultiSocketRudp
namespace SessionManager

open TransitionSystems
open SessionRelease

/-! ## The condition -/

/-- `DoDisconnect` does not win a session that is only reserved, and
`connectedUserCount` has room for one more. -/
def State.sparesReserved (state : State) : Label → Bool
  | .session (.act id action) =>
      SessionManager.sparesReserved (state.release.sessions id) action
  | .increment id =>
      !(state.increments id = .entering &&
        state.connectedUserCount = BitVec.allOnes 16)
  | _ => true

/-- The condition on a step. -/
def SparesReserved (state : State) (label : Label) : Prop :=
  state.sparesReserved label = true

instance (state : State) (label : Label) :
    Decidable (SparesReserved state label) :=
  inferInstanceAs (Decidable (_ = _))

/-! ## What the steps of a session leave alone -/

section Frame

variable {session next : Session}

/-- The fields of the receive logic. -/
def recvLogic (session : Session) : Nat × List (BitVec 32) × LogicPc :=
  (session.pendingRecvLogic, session.recvLogicQueue, session.logicWorker)

theorem recvLogic_callUnlessAborted (session : Session) (hook : Hook) :
    recvLogic (session.callUnlessAborted hook) = recvLogic session ∧
      (session.callUnlessAborted hook).turns = session.turns := by
  unfold Session.callUnlessAborted
  split <;> exact ⟨rfl, rfl⟩

theorem recvLogic_closeSocket (session : Session) :
    recvLogic session.closeSocket = recvLogic session ∧
      session.closeSocket.turns = session.turns := by
  unfold Session.closeSocket
  split <;> exact ⟨rfl, rfl⟩

/-- The release thread leaves the receive logic alone, and until it returns the
session its ended turns too. -/
theorem recvLogic_releaseStep
    {pc : ReleasePc} {verdict : Verdict}
    (moves : session.releaseStep pc = some (next, verdict)) :
    recvLogic next = recvLogic session ∧
      (pc ≠ .returning → next.turns = session.turns) := by
  cases pc with
  | shutdownSwapping round =>
      simp only [Session.releaseStep] at moves
      split at moves
      all_goals
        simp only [Option.some.injEq, Prod.mk.injEq] at moves
        exact moves.1 ▸ ⟨rfl, fun _ => rfl⟩
  | shutdownNotifying round | releasing =>
      simp only [Session.releaseStep, Option.some.injEq, Prod.mk.injEq]
        at moves
      have frame := recvLogic_callUnlessAborted session
      exact moves.1 ▸ ⟨(frame _).1, fun _ => (frame _).2⟩
  | shutdownClosing round =>
      simp only [Session.releaseStep, Option.ite_none_left_eq_some,
        Option.some.injEq, Prod.mk.injEq] at moves
      have frame := recvLogic_closeSocket session
      exact moves.2.1 ▸ ⟨frame.1, fun _ => frame.2⟩
  | returning =>
      simp only [Session.releaseStep, Option.some.injEq, Prod.mk.injEq]
        at moves
      exact moves.1 ▸ ⟨rfl, fun stays => absurd rfl stays⟩
  | _ =>
      simp only [Session.releaseStep, Option.some.injEq, Prod.mk.injEq]
        at moves
      exact moves.1 ▸ ⟨rfl, fun _ => rfl⟩

/-- The threads of a session end no turn, and only the broker takes it from the
pool. -/
theorem turns_act
    {action : Action}
    (moves : session.act action = some next) :
    next.turns = session.turns ∧
      (action ≠ .acquire → session.place = .unused →
        next.place = .unused) := by
  by_cases io : action.isIo = true
  · have same := Session.lifecycle_act io moves
    have place : next.place = session.place := congrArg Lifecycle.place same
    exact ⟨congrArg Lifecycle.turns same, fun _ unused => place.trans unused⟩
  cases action with
  | acquire =>
      simp only [Session.act, Option.ite_none_right_eq_some,
        Option.some.injEq] at moves
      exact moves.2 ▸ ⟨rfl, fun stays => absurd rfl stays⟩
  | reserve =>
      simp only [Session.act, Option.ite_none_right_eq_some,
        Option.some.injEq] at moves
      obtain ⟨⟨handedOut, -⟩, rfl⟩ := moves
      exact ⟨rfl, fun _ unused => by cases unused.symm.trans handedOut⟩
  | connect | disconnect reason | abort =>
      simp only [Session.act, Option.ite_none_right_eq_some,
        Option.some.injEq] at moves
      exact moves.2 ▸ ⟨rfl, fun _ unused => unused⟩
  | releaser =>
      cases stands : session.releaser <;>
        simp only [Session.act, Session.releaserStep, stands, Option.some.injEq,
          reduceCtorEq] at moves <;>
        exact moves ▸ ⟨rfl, fun _ unused => unused⟩
  | _ => exact absurd rfl io

/-- Only the logic worker itself leaves `OnRecvPacket`. -/
theorem processing_act
    {action : Action}
    (other : action ≠ .logic)
    (processing : session.logicWorker = .processing)
    (moves : session.act action = some next) :
    next.logicWorker = .processing := by
  cases action with
  | logic => exact absurd rfl other
  | dequeue => simp [Session.act, processing] at moves
  | recv caller succeeds =>
      obtain ⟨outstanding, posted, recvs, rfl⟩ :=
        Session.recvStep_frame moves
      exact processing
  | send caller transmits again =>
      obtain ⟨mode, flights, sends, rfl⟩ := Session.sendStep_frame moves
      exact processing
  | io succeeded dropped =>
      obtain ⟨generation, -, rfl⟩ |
          ⟨outstanding, completions, mode, recvs, sends, worker, rfl⟩ :=
        Session.ioStep_frame moves
      · exact processing
      · exact processing
  | releaser =>
      cases stands : session.releaser <;>
        simp only [Session.act, Session.releaserStep, stands, Option.some.injEq,
          reduceCtorEq] at moves <;>
        exact moves ▸ processing
  | acquire | reserve | connect | disconnect reason | abort
  | enterSend index | completeRecv generation | completeSend generation =>
      simp only [Session.act, Option.ite_none_right_eq_some,
        Option.some.injEq] at moves
      exact moves.2 ▸ processing

end Frame

/-- Receive logic is counted in every run. -/
theorem logicCounted_of_reachable
    {release : SessionRelease.State}
    (reached : SessionRelease.system.Reachable release) (id : SessionId) :
    (release.sessions id).LogicCounted :=
  @sessionwise (fun _ _ => True) (fun session _ => session.LogicCounted) rfl
    (fun _ counted _ moves => counted.act moves) (fun counted _ => counted)
    (fun counted => counted)
    (fun _ _ counted _ moves => by
      have same := (recvLogic_releaseStep moves).1
      simp only [recvLogic, Prod.mk.injEq] at same
      rwa [Session.LogicCounted, same.1, same.2.1, same.2.2])
    release reached id

/-! ## What is true of each session -/

/-- The second drain test has found no receive logic. -/
def isPastLogic : ReleasePc → Bool
  | .drainMode .second | .drainCompletions .second | .drainProcessing .second
  | .cleaning | .releasing | .poolTest | .incrementing | .lowering
  | .resetting | .resettingMode | .resettingReason | .resettingState
  | .returning => true
  | _ => false

/-- `ReleaseSession` has loaded the reason. -/
def isReturning : ReleasePc → Bool
  | .incrementing | .lowering | .resetting | .resettingMode | .resettingReason
  | .resettingState | .returning => true
  | _ => false

/-- The release thread comes into `ReleaseSession` from its test of the pool,
and past the load of the receive logic when it finds none. -/
theorem isReturning_of_releaseStep
    {session next : Session} {pc : ReleasePc} {verdict : Verdict}
    (moves : session.releaseStep pc = some (next, verdict)) :
    ∀ after ∈ verdict.pc,
      (isReturning after = true → pc = .poolTest ∨ isReturning pc = true) ∧
        (isPastLogic after = true →
          pc = .drainLogic .second ∧ session.pendingRecvLogic = 0 ∨
            isPastLogic pc = true) := by
  cases pc with
  | poolTest | resetting | resettingMode | resettingReason | resettingState
  | incrementing | lowering | returning =>
      exact fun _ _ => ⟨by simp [isReturning], fun _ => .inr rfl⟩
  | cleaning | releasing =>
      simp only [Session.releaseStep, Option.some.injEq, Prod.mk.injEq]
        at moves
      obtain ⟨-, rfl⟩ := moves
      rintro after ⟨⟩
      exact ⟨by rintro ⟨⟩, fun _ => .inr rfl⟩
  | shutdownNotifying round =>
      simp only [Session.releaseStep, Option.some.injEq, Prod.mk.injEq]
        at moves
      obtain ⟨-, rfl⟩ := moves
      rintro after ⟨⟩
      exact ⟨by rintro ⟨⟩, by rintro ⟨⟩⟩
  | shutdownClosing round =>
      simp only [Session.releaseStep, Option.ite_none_left_eq_some,
        Option.some.injEq, Prod.mk.injEq] at moves
      obtain ⟨-, -, rfl⟩ := moves
      rintro after ⟨⟩
      cases round <;> exact ⟨by rintro ⟨⟩, by rintro ⟨⟩⟩
  | shutdownSwapping round =>
      simp only [Session.releaseStep] at moves
      split at moves
      all_goals
        simp only [Option.some.injEq, Prod.mk.injEq] at moves
        obtain ⟨-, rfl⟩ := moves
        rintro after ⟨⟩
        cases round <;> exact ⟨by rintro ⟨⟩, by rintro ⟨⟩⟩
  | finding | stateTest =>
      simp only [Session.releaseStep, Option.some.injEq, Prod.mk.injEq]
        at moves
      obtain ⟨-, rfl⟩ := moves
      split
      · rintro after ⟨⟩
        exact ⟨by rintro ⟨⟩, by rintro ⟨⟩⟩
      · rintro _ ⟨⟩
  | shutdownStarted round | shutdownLogic round | shutdownProcessing round
  | drainReceives round =>
      simp only [Session.releaseStep, Option.some.injEq, Prod.mk.injEq]
        at moves
      obtain ⟨-, rfl⟩ := moves
      split
      all_goals
        cases round <;> rintro after ⟨⟩ <;> exact ⟨by rintro ⟨⟩, by rintro ⟨⟩⟩
  | drainLogic round =>
      simp only [Session.releaseStep, Option.some.injEq, Prod.mk.injEq]
        at moves
      obtain ⟨-, rfl⟩ := moves
      split
      · next none =>
        cases round
        · rintro after ⟨⟩
          exact ⟨by rintro ⟨⟩, by rintro ⟨⟩⟩
        · rintro after ⟨⟩
          exact ⟨by rintro ⟨⟩, fun _ => .inl ⟨rfl, none⟩⟩
      · cases round <;> rintro after ⟨⟩
  | drainMode round | drainCompletions round | drainProcessing round =>
      simp only [Session.releaseStep, Option.some.injEq, Prod.mk.injEq]
        at moves
      obtain ⟨-, rfl⟩ := moves
      split
      all_goals
        cases round
        · rintro after ⟨⟩ <;> exact ⟨by rintro ⟨⟩, by rintro ⟨⟩⟩
        · rintro after ⟨⟩ <;> exact ⟨by rintro ⟨⟩, fun _ => .inr rfl⟩

/-- What the session manager knows of a session. -/
structure Sound (session : Session) (pc : Option ReleasePc)
    (increment : IncrementPc) (decrement : DecrementPc) (tally : Tally)
    (tallies : List Tally) : Prop where
  attested : Attested session pc tally
  counting : increment ≠ .outside →
    tally.connected = true ∧ session.logicWorker = .processing
  drained : ∀ present ∈ pc, isPastLogic present = true → increment = .outside
  loaded : ∀ present ∈ pc, isReturning present = true →
    ∃ reason, decrement = .loaded reason ∧ tells reason = some tally.connected
  ended : List.Forall₂ Untouched session.turns tallies

namespace Sound

variable {session next : Session} {pc : Option ReleasePc}
variable {increment : IncrementPc} {decrement decrement' : DecrementPc}
variable {tally : Tally} {tallies : List Tally}

/-- The threads of a session keep it sound, unless `TryConnect` succeeds. -/
theorem act
    {action : Action}
    (sound : Sound session pc increment decrement tally tallies)
    (placed : session.Placed)
    (connects : action ≠ .connect)
    (passed : ∀ reason, action = .disconnect reason → isPassed reason = true)
    (free : action = .logic → increment = .outside)
    (spares : sparesReserved session action = true)
    (moves : session.act action = some next) :
    Sound next pc increment decrement tally tallies :=
  { sound with
    attested := sound.attested.act placed connects passed spares moves
    counting := by
      intro counting
      obtain ⟨connected, processing⟩ := sound.counting counting
      exact ⟨connected,
        processing_act (fun same => counting (free same)) processing moves⟩
    ended := (turns_act moves).1 ▸ sound.ended }

/-- `TryConnect` begins to count the session. -/
theorem connect
    (sound : Sound session none increment decrement tally tallies)
    (moves : session.act .connect = some next) :
    Sound next none .entering decrement { tally with connected := true }
      tallies :=
  have processing : next.logicWorker = .processing :=
    processing_act (by simp) (told_connect moves).2.1 moves
  { attested := ⟨fun _ => (told_connect moves).2.2, nofun⟩
    counting := fun _ => ⟨rfl, processing⟩
    drained := nofun
    loaded := nofun
    ended := (turns_act moves).1 ▸ sound.ended }

/-- A push leaves the session sound. -/
theorem push
    (sound : Sound session pc increment decrement tally tallies)
    (pushing : session.releaser = .pushing) :
    Sound { session with nowInReleaseThread := true, releaser := .idle } pc
      increment decrement tally tallies :=
  { sound with attested := sound.attested.push pushing }

/-- So does the release thread when it finds the session. -/
theorem find
    (sound : Sound session none increment decrement tally tallies) :
    Sound session (some .finding) increment decrement tally tallies :=
  { sound with
    attested := sound.attested.move rfl rfl sound.attested.untouched
    drained := by
      rintro present ⟨⟩
      exact nofun
    loaded := by
      rintro present ⟨⟩
      exact nofun }

/-- A session that the release thread does not return does not depend on the
reason that it has loaded. -/
theorem unloaded
    (sound : Sound session pc increment decrement tally tallies)
    (elsewhere : ∀ present ∈ pc, isReturning present = false) :
    Sound session pc increment decrement' tally tallies :=
  { sound with
    loaded := fun present member returning =>
      nomatch (elsewhere present member).symm.trans returning }

/-- The release thread moves on with a session. -/
theorem releaseStep
    {pc : ReleasePc} {verdict : Verdict}
    (sound : Sound session (some pc) increment decrement tally tallies)
    (listed : session.Listed (some pc))
    (logic : session.LogicCounted)
    (before : pc ≠ .poolTest)
    (stays : pc ≠ .returning)
    (moves : session.releaseStep pc = some (next, verdict)) :
    Sound next verdict.pc increment decrement tally tallies := by
  obtain ⟨same, turns⟩ := recvLogic_releaseStep moves
  have worker : next.logicWorker = session.logicWorker :=
    congrArg (fun fields => fields.2.2) same
  have enters := isReturning_of_releaseStep moves
  exact
    { attested := sound.attested.releaseStep listed stays moves
      counting := fun counting => worker ▸ sound.counting counting
      drained := by
        intro present member past
        obtain ⟨-, none⟩ | past := (enters present member).2 past
        · by_contra counting
          have processing := (sound.counting counting).2
          exact nomatch processing.symm.trans (logic.idle none)
        · exact sound.drained pc rfl past
      loaded := fun present member returning =>
        sound.loaded pc rfl
          (((enters present member).1 returning).resolve_left before)
      ended := turns stays ▸ sound.ended }

/-- `ReleaseSession` loads the reason. -/
theorem load
    (sound : Sound session (some .poolTest) increment decrement tally tallies)
    (listed : session.Listed (some .poolTest)) :
    Sound session (some .incrementing) increment
      (.loaded session.disconnectedReason) tally tallies :=
  have releasing := listed.releasing nofun
  have told := sound.attested.told rfl
  { sound with
    attested := sound.attested.move rfl rfl sound.attested.untouched
    drained := fun _ _ _ => sound.drained _ rfl rfl
    loaded := fun _ _ _ =>
      ⟨_, rfl, (told_of_pushed releasing listed.pushed).symm.trans told⟩ }

/-- `ReleaseSession` has returned the session. -/
theorem returned
    {verdict : Verdict}
    (sound : Sound session (some .returning) increment decrement tally tallies)
    (listed : session.Listed (some .returning))
    (moves : session.releaseStep .returning = some (next, verdict)) :
    Sound next verdict.pc increment decrement' .fresh (tally :: tallies) := by
  have outside := sound.drained _ rfl rfl
  have attested := Attested.returning listed moves
  simp only [Session.releaseStep, Option.some.injEq, Prod.mk.injEq] at moves
  obtain ⟨rfl, rfl⟩ := moves
  exact
    { attested := attested
      counting := fun counting => absurd outside counting
      drained := by rintro _ ⟨⟩
      loaded := by rintro _ ⟨⟩
      ended := .cons (sound.attested.untouched.call (by simp)) sound.ended }

end Sound

/-! ## Sums over the sessions -/

section Total

variable {maxSessionSize : BitVec 16} {value value' : SessionId → Nat}

/-- The sum over the sessions of the pool. -/
def total (maxSessionSize : BitVec 16) (value : SessionId → Nat) : Nat :=
  ∑ id ∈ Finset.range maxSessionSize.toNat, value id

/-- The sum changes with the value of one session. -/
theorem total_change
    {id : SessionId}
    (member : id < maxSessionSize.toNat)
    (others : ∀ other, other ≠ id → value' other = value other) :
    total maxSessionSize value' + value id =
      total maxSessionSize value + value' id := by
  have inside := Finset.mem_range.mpr member
  have same : ((Finset.range maxSessionSize.toNat).erase id).sum value' =
      ((Finset.range maxSessionSize.toNat).erase id).sum value :=
    Finset.sum_congr rfl fun other other_mem =>
      others other (Finset.ne_of_mem_erase other_mem)
  calc total maxSessionSize value' + value id
      = value' id + ((Finset.range maxSessionSize.toNat).erase id).sum value' +
          value id := by rw [total, Finset.add_sum_erase _ value' inside]
    _ = value id + ((Finset.range maxSessionSize.toNat).erase id).sum value +
          value' id := by rw [same]; omega
    _ = total maxSessionSize value + value' id := by
        rw [total, Finset.add_sum_erase _ value inside]

end Total

/-- A connected session that `connectedUserCount` counts. -/
def counts (state : State) (id : SessionId) : Nat :=
  if (state.tally id).connected = true ∧ state.increments id ≠ .entering then 1
  else 0

/-- A session that `allConnectedCount` does not count yet. -/
def countsLater (state : State) (id : SessionId) : Nat :=
  if state.increments id = .counted then 1 else 0

namespace DecrementPc

/-- A returned session that `connectedUserCount` still counts. -/
def lingers : DecrementPc → Nat
  | .entering _ reason => if tells reason = some true then 1 else 0
  | .swapping _ _ _ => 1
  | _ => 0

/-- A returned session that `allDisconnectedCount` does not count yet. -/
def lags : DecrementPc → Nat
  | .countingRetransmission _ | .countingAll _ => 1
  | _ => 0

/-- Outside `DecrementConnectedCount` no returned session is counted. -/
theorem lingers_of_isReleasing
    {pc : DecrementPc}
    (free : pc.isReleasing = true) :
    pc.lingers = 0 ∧ pc.lags = 0 := by
  cases pc <;> first | exact ⟨rfl, rfl⟩ | cases free

/-- The session that is counted down has been connected. -/
def Owed (tallies : SessionId → List Tally) : DecrementPc → Prop
  | .outside | .loaded _ => True
  | .entering id reason =>
      ∃ tally ∈ (tallies id).head?, tells reason = some tally.connected
  | .swapping id _ connectedCount =>
      connectedCount ≠ 0 ∧ ∃ tally ∈ (tallies id).head?, tally.connected = true
  | .countingRetransmission id | .countingAll id =>
      ∃ tally ∈ (tallies id).head?, tally.connected = true

end DecrementPc

/-- A session that begins a new turn is counted no more, but it lingers until
`DecrementConnectedCount` has counted it down. -/
theorem total_counts_returned
    {maxSessionSize : BitVec 16} {state next : State} {id : SessionId}
    {reason : DisconnectReason}
    (member : id < maxSessionSize.toNat)
    (outside : state.increments id = .outside)
    (told : tells reason = some (state.tally id).connected)
    (increments : next.increments = state.increments)
    (tally : next.tally = Function.update state.tally id .fresh) :
    total maxSessionSize (counts state) =
      total maxSessionSize (counts next) +
        (DecrementPc.entering id reason).lingers := by
  have others : ∀ other, other ≠ id → counts next other = counts state other :=
    fun other distinct => by
      rw [counts, increments, tally, Function.update_of_ne distinct, counts]
  have before : counts state id = (DecrementPc.entering id reason).lingers := by
    simp [counts, outside, DecrementPc.lingers, told]
  have after : counts next id = 0 := by
    simp [counts, tally, Tally.fresh]
  rw [← before, total_change member others, after, Nat.add_zero]

/-- The counters are exact up to the threads that are inside the session
manager. -/
structure Exact (maxSessionSize : BitVec 16) (state : State) : Prop where
  sound : ∀ id,
    Sound (state.release.sessions id) (state.release.pcOf id)
      (state.increments id) state.decrement (state.tally id) (state.tallies id)
  pooled : ∀ id, maxSessionSize.toNat ≤ id →
    (state.release.sessions id).place = .unused
  owed : state.decrement.Owed state.tallies
  counted : state.connectedUserCount.toNat =
    total maxSessionSize (counts state) + state.decrement.lingers
  balanced :
    (state.allConnectedCount.toNat +
        total maxSessionSize (countsLater state)) % 2 ^ 32 =
      (state.allDisconnectedCount.toNat + state.connectedUserCount.toNat +
        state.decrement.lags) % 2 ^ 32

namespace Exact

variable {maxSessionSize : BitVec 16} {state : State} {id : SessionId}

/-- A session in use is one of the pool. -/
theorem lt_of_inUse
    (exact : Exact maxSessionSize state)
    (inUse : (state.release.sessions id).place = .inUse) :
    id < maxSessionSize.toNat := by
  by_contra beyond
  exact nomatch inUse.symm.trans (exact.pooled id (Nat.le_of_not_lt beyond))

/-- So is a connected one. -/
theorem lt_of_connected
    (exact : Exact maxSessionSize state)
    (accounted : Accounted state.release)
    (connected : (state.tally id).connected = true) :
    id < maxSessionSize.toNat := by
  refine exact.lt_of_inUse ?_
  by_contra elsewhere
  have idle := (accounted.placed id).unreserved elsewhere
  have unattended : state.release.pcOf id = none :=
    (accounted.attended id).none_of_not_listed fun _ listed =>
      elsewhere listed.inUse
  have told := (exact.sound id).attested.told (by rw [unattended]; rfl)
  rw [told_of_disconnected idle, connected] at told
  cases told

/-- A thread of a session moves on. -/
theorem act
    {action : Action} {session : Session}
    (exact : Exact maxSessionSize state)
    (accounted : Accounted state.release)
    (permitted : state.permits maxSessionSize (.act id action) = true)
    (connects : action ≠ .connect)
    (spares : sparesReserved (state.release.sessions id) action = true)
    (moves : (state.release.sessions id).act action = some session) :
    Exact maxSessionSize
      { state with release := state.release.setSession id session } :=
  { exact with
    sound := by
      intro other
      by_cases same : other = id
      · subst same
        simp only [SessionRelease.State.sessions_setSession_self]
        refine (exact.sound other).act (accounted.placed other) connects
          ?_ ?_ spares moves
        · rintro reason rfl
          exact permitted
        · rintro rfl
          simpa [State.permits] using permitted
      · simp only [state.release.sessions_setSession_of_ne session same]
        exact exact.sound other
    pooled := by
      intro other beyond
      by_cases same : other = id
      · subst same
        simp only [SessionRelease.State.sessions_setSession_self]
        refine (turns_act moves).2 ?_ (exact.pooled other beyond)
        rintro rfl
        have member : other < maxSessionSize.toNat := by
          simpa [State.permits] using permitted
        omega
      · simp only [state.release.sessions_setSession_of_ne session same]
        exact exact.pooled other beyond }

/-- `TryConnect` succeeds. -/
theorem connect
    {session : Session}
    (exact : Exact maxSessionSize state)
    (accounted : Accounted state.release)
    (moves : (state.release.sessions id).act .connect = some session) :
    Exact maxSessionSize
      (state.after (.act id .connect)
        (state.release.setSession id session)) := by
  have reserved := (told_connect moves).1
  have unattended : state.release.pcOf id = none :=
    (accounted.attended id).none_of_not_listed fun pc listed => by
      by_cases returning : pc = .returning
      · exact nomatch reserved.symm.trans
          (listed.reset (congrArg some returning))
      · exact nomatch reserved.symm.trans
          (listed.releasing fun same => returning (Option.some.inj same))
  have sound := exact.sound id
  rw [unattended] at sound
  have unconnected : (state.tally id).connected = false := by
    have told := sound.attested.told rfl
    rw [told_of_reserved reserved] at told
    exact (Option.some.inj told).symm
  have outside : state.increments id = .outside := by
    by_contra counting
    exact nomatch unconnected.symm.trans (sound.counting counting).1
  have sameCounts : counts (state.after (.act id .connect)
      (state.release.setSession id session)) = counts state := by
    funext other
    by_cases same : other = id
    · subst same
      simp [counts, State.after, unconnected]
    · simp [counts, State.after, same]
  have sameLater : countsLater (state.after (.act id .connect)
      (state.release.setSession id session)) = countsLater state := by
    funext other
    by_cases same : other = id
    · subst same
      simp [countsLater, State.after, outside]
    · simp [countsLater, State.after, same]
  exact
    { sound := by
        intro other
        by_cases same : other = id
        · subst same
          have moved := sound.connect moves
          change Sound ((state.release.setSession other session).sessions other)
            (state.release.pcOf other)
            (Function.update state.increments other .entering other)
            state.decrement (Function.update state.tally other _ other)
            (state.tallies other)
          rw [SessionRelease.State.sessions_setSession_self, unattended,
            Function.update_self, Function.update_self]
          exact moved
        · change Sound ((state.release.setSession id session).sessions other)
            (state.release.pcOf other)
            (Function.update state.increments id .entering other)
            state.decrement (Function.update state.tally id _ other)
            (state.tallies other)
          rw [state.release.sessions_setSession_of_ne session same,
            Function.update_of_ne same, Function.update_of_ne same]
          exact exact.sound other
      pooled := by
        intro other beyond
        change ((state.release.setSession id session).sessions other).place = _
        by_cases same : other = id
        · subst same
          rw [SessionRelease.State.sessions_setSession_self]
          exact (turns_act moves).2 nofun (exact.pooled other beyond)
        · rw [state.release.sessions_setSession_of_ne session same]
          exact exact.pooled other beyond
      owed := exact.owed
      counted := by
        rw [sameCounts]
        exact exact.counted
      balanced := by
        rw [sameLater]
        exact exact.balanced }

/-- A push completes. -/
theorem push
    {release : SessionRelease.State}
    (exact : Exact maxSessionSize state)
    (moves : state.release.push id = some release) :
    Exact maxSessionSize { state with release := release } := by
  simp only [SessionRelease.State.push, Option.ite_none_right_eq_some,
    Option.some.injEq] at moves
  obtain ⟨pushing, rfl⟩ := moves
  exact
    { exact with
      sound := by
        intro other
        change Sound ((state.release.setSession id _).sessions other)
          (state.release.pcOf other) (state.increments other) state.decrement
          (state.tally other) (state.tallies other)
        by_cases same : other = id
        · subst same
          rw [SessionRelease.State.sessions_setSession_self]
          exact (exact.sound other).push pushing
        · rw [state.release.sessions_setSession_of_ne _ same]
          exact exact.sound other
      pooled := by
        intro other beyond
        change ((state.release.setSession id _).sessions other).place = _
        by_cases same : other = id
        · subst same
          rw [SessionRelease.State.sessions_setSession_self]
          exact exact.pooled other beyond
        · rw [state.release.sessions_setSession_of_ne _ same]
          exact exact.pooled other beyond }

/-- The release thread makes a step with a session, and what the session manager
knows of the other sessions stays so. -/
theorem proceed
    {rest : List SessionId} {session : Session} {verdict : Verdict}
    {decrement' : DecrementPc} {tally' : SessionId → Tally}
    {tallies' : SessionId → List Tally}
    (exact : Exact maxSessionSize state)
    (present : state.release.batch = id :: rest)
    (moved : Sound session verdict.pc (state.increments id) decrement'
      (tally' id) (tallies' id))
    (others : ∀ other, other ≠ id →
      tally' other = state.tally other ∧ tallies' other = state.tallies other)
    (other : SessionId) :
    Sound ((state.release.proceed id rest (session, verdict)).sessions other)
      ((state.release.proceed id rest (session, verdict)).pcOf other)
      (state.increments other) decrement' (tally' other) (tallies' other) := by
  rw [SessionRelease.State.sessions_proceed]
  by_cases same : other = id
  · subst same
    rw [Function.update_self,
      SessionRelease.State.pcOf_proceed_self present]
    exact moved
  · have sound := exact.sound other
    rw [SessionRelease.State.pcOf_of_ne present same] at sound
    rw [Function.update_of_ne same,
      SessionRelease.State.pcOf_proceed_of_ne present same,
      (others other same).1, (others other same).2]
    exact sound.unloaded nofun

/-- It takes no session from the pool. -/
theorem pooled_proceed
    (exact : Exact maxSessionSize state)
    (inUse : (state.release.sessions id).place = .inUse)
    (rest : List SessionId) (session : Session) (verdict : Verdict)
    (other : SessionId)
    (beyond : maxSessionSize.toNat ≤ other) :
    ((state.release.proceed id rest (session, verdict)).sessions other).place =
      .unused := by
  have member := exact.lt_of_inUse inUse
  have same : other ≠ id := by
    rintro rfl
    exact Nat.not_le_of_lt member beyond
  rw [SessionRelease.State.sessions_proceed, Function.update_of_ne same]
  exact exact.pooled other beyond

/-- The release thread makes a step. -/
theorem releaseThread
    {release : SessionRelease.State}
    (exact : Exact maxSessionSize state)
    (accounted : Accounted state.release)
    (logic : ∀ id, (state.release.sessions id).LogicCounted)
    (free : state.decrement.isReleasing = true)
    (moves : state.release.releaseThread = some release) :
    Exact maxSessionSize (state.afterRelease release) := by
  obtain ⟨idle, same, finds⟩ |
      ⟨pc, id, rest, session, verdict, stands, present, steps, rfl⟩ :=
    SessionRelease.State.releaseThread_cases moves
  · have after : state.afterRelease release =
        { state with release := release } := by
      cases stands : state.release.pc with
      | dealing pc => exact absurd stands (idle pc)
      | waiting | choosing | requeuing => simp [State.afterRelease, stands]
    rw [after]
    exact
      { exact with
        sound := by
          intro id
          have sound := exact.sound id
          rw [SessionRelease.State.pcOf_of_not_dealing idle] at sound
          change Sound (release.sessions id) (release.pcOf id) _ _ _ _
          rw [same]
          obtain stays | finding := finds id
          · exact stays ▸ sound
          · exact finding ▸ sound.find
        pooled := by
          intro id beyond
          change (release.sessions id).place = .unused
          rw [same]
          exact exact.pooled id beyond }
  have deals := SessionRelease.State.pcOf_head stands present
  have listed := accounted.attended id pc deals
  have sound := exact.sound id
  rw [deals] at sound
  obtain ⟨lingers, lags⟩ := DecrementPc.lingers_of_isReleasing free
  have counted := exact.counted
  have balanced := exact.balanced
  rw [lingers, Nat.add_zero] at counted
  rw [lags] at balanced
  by_cases before : pc = .poolTest
  · subst before
    have releasing := listed.releasing nofun
    obtain ⟨same, goesOn⟩ : session = state.release.sessions id ∧
        verdict = .next .incrementing := by
      simpa [Session.releaseStep, releasing, listed.inUse, eq_comm] using steps
    have after : state.afterRelease
        (state.release.proceed id rest (session, verdict)) =
        { state with
          release := state.release.proceed id rest (session, verdict)
          decrement :=
            .loaded (state.release.sessions id).disconnectedReason } := by
      rw [goesOn]
      simp only [State.afterRelease, stands, present]
      rfl
    have moved := sound.load listed
    rw [← same, ← show verdict.pc = some .incrementing from goesOn ▸ rfl]
      at moved
    rw [after, ← same]
    exact
      { sound := exact.proceed present moved fun _ _ => ⟨rfl, rfl⟩
        pooled := exact.pooled_proceed listed.inUse _ _ _
        owed := trivial
        counted := counted
        balanced := balanced }
  by_cases stays : pc = .returning
  · subst stays
    obtain ⟨reason, loaded, told⟩ := sound.loaded _ rfl rfl
    simp only [State.afterRelease, stands, present, loaded, DecrementPc.call]
    exact
      { sound := by
          refine exact.proceed present ?_ fun other distinct =>
            ⟨Function.update_of_ne distinct _ _,
              Function.update_of_ne distinct _ _⟩
          simp only [Function.update_self]
          exact sound.returned listed steps
        pooled := exact.pooled_proceed listed.inUse _ _ _
        owed := by
          refine ⟨state.tally id, ?_, told⟩
          simp
        counted := counted.trans
          (total_counts_returned (exact.lt_of_inUse listed.inUse)
            (sound.drained _ rfl rfl) told rfl rfl)
        balanced := balanced }
  · have after : state.afterRelease
        (state.release.proceed id rest (session, verdict)) =
        { state with
          release := state.release.proceed id rest (session, verdict) } := by
      unfold State.afterRelease
      split
      · next deals' _ =>
        exact absurd (ThreadPc.dealing.inj (stands.symm.trans deals')) before
      · next deals' _ =>
        exact absurd (ThreadPc.dealing.inj (stands.symm.trans deals')) stays
      · rfl
    rw [after]
    exact
      { exact with
        sound := exact.proceed present
          (sound.releaseStep listed (logic id) before stays steps)
          fun _ _ => ⟨rfl, rfl⟩
        pooled := exact.pooled_proceed listed.inUse _ _ _ }

end Exact

/-! ## Steps inside the session manager -/

/-- A counter is changed for a turn in which the session is connected. -/
theorem Sound.count
    {session : Session} {pc : Option ReleasePc}
    {increment increment' : IncrementPc} {decrement : DecrementPc}
    {tally : Tally} {tallies : List Tally}
    (sound : Sound session pc increment decrement tally tallies)
    (counting : increment ≠ .outside) (counter : Counter) :
    Sound session pc increment' decrement (tally.change counter) tallies :=
  have connected := (sound.counting counting).1
  { sound with
    attested :=
      ⟨sound.attested.told, fun unconnected =>
        nomatch connected.symm.trans unconnected⟩
    counting := fun _ => sound.counting counting
    drained := fun present member past =>
      absurd (sound.drained present member past) counting }

/-- A counter is changed for an ended turn in which the session was
connected. -/
theorem Sound.countEnded
    {session : Session} {pc : Option ReleasePc}
    {increment : IncrementPc} {decrement : DecrementPc}
    {tally : Tally} {tallies : List Tally}
    (sound : Sound session pc increment decrement tally tallies)
    (owed : ∃ ended ∈ tallies.head?, ended.connected = true)
    (counter : Counter) :
    Sound session pc increment decrement tally
      (tallies.modifyHead (Tally.change counter)) :=
  { sound with
    ended := by
      obtain ⟨ended, member, connected⟩ := owed
      obtain ⟨rest, rfl⟩ := List.head?_eq_some_iff.mp member
      obtain ⟨turn, turns, -, others, same⟩ :=
        List.forall₂_cons_right_iff.mp sound.ended
      rw [same]
      exact .cons (fun unconnected => nomatch connected.symm.trans unconnected)
        others }

/-- The ended turn stays a connected one. -/
theorem connected_modifyHead
    {tallies : List Tally}
    (owed : ∃ ended ∈ tallies.head?, ended.connected = true)
    (counter : Counter) :
    ∃ ended ∈ (tallies.modifyHead (Tally.change counter)).head?,
      ended.connected = true := by
  obtain ⟨ended, member, connected⟩ := owed
  obtain ⟨rest, rfl⟩ := List.head?_eq_some_iff.mp member
  exact ⟨ended.change counter, rfl, connected⟩

namespace Exact

variable {maxSessionSize : BitVec 16} {state next : State} {id : SessionId}

/-- `IncrementConnectedCount` moves on. -/
theorem increment
    (exact : Exact maxSessionSize state)
    (accounted : Accounted state.release)
    (room : state.sparesReserved (.increment id) = true)
    (moves : state.incrementConnectedCount id = some next) :
    Exact maxSessionSize next := by
  have member : state.increments id ≠ .outside → id < maxSessionSize.toNat :=
    fun counting => exact.lt_of_connected accounted
      ((exact.sound id).counting counting).1
  have sound : ∀ (increment : IncrementPc) (counter : Counter),
      state.increments id ≠ .outside → ∀ other,
        Sound (state.release.sessions other) (state.release.pcOf other)
          (Function.update state.increments id increment other) state.decrement
          (Function.update state.tally id
            ((state.tally id).change counter) other)
          (state.tallies other) := by
    intro increment counter counting other
    by_cases same : other = id
    · subst same
      rw [Function.update_self, Function.update_self]
      exact (exact.sound other).count counting counter
    · rw [Function.update_of_ne same, Function.update_of_ne same]
      exact exact.sound other
  have counted := exact.counted
  have balanced := exact.balanced
  cases stands : state.increments id with
  | outside => simp [State.incrementConnectedCount, stands] at moves
  | entering =>
      have counting : state.increments id ≠ .outside := by simp [stands]
      have connected := ((exact.sound id).counting counting).1
      have notFull : state.connectedUserCount ≠ BitVec.allOnes 16 := by
        simpa [State.sparesReserved, stands] using room
      simp only [State.incrementConnectedCount, stands, Option.some.injEq]
        at moves
      have increments : next.increments =
          Function.update state.increments id .counted := moves ▸ rfl
      have tally : next.tally =
          Function.update state.tally id
            ((state.tally id).change .connectedUserCount) := moves ▸ rfl
      have one : next.connectedUserCount.toNat =
          state.connectedUserCount.toNat + 1 := by
        have bound := state.connectedUserCount.isLt
        have below : state.connectedUserCount.toNat ≠ 2 ^ 16 - 1 :=
          fun full => notFull (BitVec.eq_of_toNat_eq full)
        exact moves ▸ SerialNumber.toNat_add_one (by omega)
      have grows : total maxSessionSize (counts next) =
          total maxSessionSize (counts state) + 1 := by
        have changed := total_change (member counting) fun other distinct =>
          show counts next other = counts state other by
            simp [counts, increments, tally, distinct]
        have before : counts state id = 0 := by simp [counts, stands]
        have after : counts next id = 1 := by
          simp [counts, increments, tally, Tally.change, connected]
        rwa [before, after] at changed
      have later : total maxSessionSize (countsLater next) =
          total maxSessionSize (countsLater state) + 1 := by
        have changed := total_change (member counting) fun other distinct =>
          show countsLater next other = countsLater state other by
            simp [countsLater, increments, distinct]
        have before : countsLater state id = 0 := by simp [countsLater, stands]
        have after : countsLater next id = 1 := by
          simp [countsLater, increments]
        rwa [before, after] at changed
      exact
        { sound := moves ▸ sound _ _ counting
          pooled := moves ▸ exact.pooled
          owed := moves ▸ exact.owed
          counted := by
            have same : next.decrement = state.decrement := moves ▸ rfl
            rw [one, grows, same]
            omega
          balanced := by
            have same : next.decrement = state.decrement := moves ▸ rfl
            have all : next.allConnectedCount = state.allConnectedCount :=
              moves ▸ rfl
            have ended :
                next.allDisconnectedCount = state.allDisconnectedCount :=
              moves ▸ rfl
            rw [one, later, same, all, ended]
            omega }
  | counted =>
      have counting : state.increments id ≠ .outside := by simp [stands]
      simp only [State.incrementConnectedCount, stands, Option.some.injEq]
        at moves
      have increments : next.increments =
          Function.update state.increments id .outside := moves ▸ rfl
      have tally : next.tally =
          Function.update state.tally id
            ((state.tally id).change .allConnectedCount) := moves ▸ rfl
      have sameCounts : counts next = counts state := by
        funext other
        by_cases same : other = id
        · subst same
          simp [counts, increments, tally, Tally.change, stands]
        · simp [counts, increments, tally, same]
      have shrinks : total maxSessionSize (countsLater next) + 1 =
          total maxSessionSize (countsLater state) := by
        have changed := total_change (member counting) fun other distinct =>
          show countsLater next other = countsLater state other by
            simp [countsLater, increments, distinct]
        have before : countsLater state id = 1 := by simp [countsLater, stands]
        have after : countsLater next id = 0 := by
          simp [countsLater, increments]
        rwa [before, after] at changed
      have one : next.allConnectedCount.toNat =
          (state.allConnectedCount.toNat + 1) % 2 ^ 32 :=
        moves ▸ BitVec.toNat_add _ _
      have user : next.connectedUserCount = state.connectedUserCount :=
        moves ▸ rfl
      have same : next.decrement = state.decrement := moves ▸ rfl
      have ended : next.allDisconnectedCount = state.allDisconnectedCount :=
        moves ▸ rfl
      exact
        { sound := moves ▸ sound _ _ counting
          pooled := moves ▸ exact.pooled
          owed := moves ▸ exact.owed
          counted := by
            rw [user, sameCounts, same]
            exact counted
          balanced := by
            rw [one, user, same, ended]
            omega }

/-- A returned session lingers in the count, so the count is not zero. -/
theorem ne_zero
    (exact : Exact maxSessionSize state)
    (lingers : state.decrement.lingers = 1) :
    state.connectedUserCount ≠ 0 := by
  intro zero
  have counted := exact.counted
  rw [zero, lingers] at counted
  exact nomatch counted

/-- Where the release thread is inside `DecrementConnectedCount`, it returns no
session. -/
theorem unloaded
    {decrement : DecrementPc}
    (exact : Exact maxSessionSize state)
    (busy : state.decrement.isReleasing = false) (id : SessionId) :
    Sound (state.release.sessions id) (state.release.pcOf id)
      (state.increments id) decrement (state.tally id) (state.tallies id) := by
  refine (exact.sound id).unloaded fun present member => ?_
  by_contra returning
  obtain ⟨reason, loaded, -⟩ := (exact.sound id).loaded present member
    (Bool.eq_true_of_not_eq_false returning)
  rw [loaded] at busy
  cases busy

/-- A counter is changed for the turn that has just ended. -/
theorem soundEnded
    {decrement : DecrementPc}
    (exact : Exact maxSessionSize state)
    (busy : state.decrement.isReleasing = false)
    (owed : ∃ ended ∈ (state.tallies id).head?, ended.connected = true)
    (counter : Counter) (other : SessionId) :
    Sound (state.release.sessions other) (state.release.pcOf other)
      (state.increments other) decrement (state.tally other)
      (Function.update state.tallies id
        ((state.tallies id).modifyHead (Tally.change counter)) other) := by
  by_cases same : other = id
  · subst same
    rw [Function.update_self]
    exact (exact.unloaded busy other).countEnded owed counter
  · rw [Function.update_of_ne same]
    exact exact.unloaded busy other

/-- Counting down undoes counting up. -/
theorem toNat_sub_one
    {count : BitVec 16}
    (notZero : count ≠ 0) :
    (count - 1).toNat + 1 = count.toNat := by
  have positive : count.toNat ≠ 0 := fun zero =>
    notZero (BitVec.eq_of_toNat_eq zero)
  have bound := count.isLt
  have less : (count - 1).toNat = (2 ^ 16 - 1 + count.toNat) % 2 ^ 16 :=
    BitVec.toNat_sub _ _
  omega

/-- `DecrementConnectedCount` moves on without changing a counter. -/
theorem redirect
    {decrement : DecrementPc}
    (exact : Exact maxSessionSize state)
    (busy : state.decrement.isReleasing = false)
    (owed : decrement.Owed state.tallies)
    (lingers : decrement.lingers = state.decrement.lingers)
    (lags : decrement.lags = state.decrement.lags) :
    Exact maxSessionSize { state with decrement := decrement } :=
  { exact with
    sound := exact.unloaded busy
    owed := owed
    counted := lingers ▸ exact.counted
    balanced := lags ▸ exact.balanced }

/-- It loads the count for a session that has been connected. -/
theorem load
    {reason : DisconnectReason} {isRetransmissionDisconnect : Bool}
    (exact : Exact maxSessionSize state)
    (stands : state.decrement = .entering id reason)
    (connects : tells reason = some true) :
    Exact maxSessionSize { state with
      decrement :=
        .swapping id isRetransmissionDisconnect state.connectedUserCount } := by
  have lingers : state.decrement.lingers = 1 := by
    simp [stands, DecrementPc.lingers, connects]
  have owed := exact.owed
  rw [stands] at owed
  obtain ⟨tally, member, told⟩ := owed
  have connected : tally.connected = true :=
    (Option.some.inj (connects.symm.trans told)).symm
  exact exact.redirect (by rw [stands]; rfl)
    ⟨exact.ne_zero lingers, tally, member, connected⟩ lingers.symm
    (by rw [stands]; rfl)

/-- `DecrementConnectedCount` moves on. -/
theorem decrement
    {swaps : Bool}
    (exact : Exact maxSessionSize state)
    (moves : state.decrementConnectedCount swaps = some next) :
    Exact maxSessionSize next := by
  have counted := exact.counted
  have balanced := exact.balanced
  have owed := exact.owed
  cases stands : state.decrement with
  | outside => simp [State.decrementConnectedCount, stands] at moves
  | loaded reason => simp [State.decrementConnectedCount, stands] at moves
  | entering id reason =>
      simp only [State.decrementConnectedCount, stands, Option.some.injEq]
        at moves
      subst moves
      cases reason with
      | byAbortReserved | notDisconnected =>
          exact exact.redirect (by rw [stands]; rfl) trivial
            (by rw [stands]; rfl) (by rw [stands]; rfl)
      | byRetransmission | normal | byError => exact exact.load stands rfl
  | swapping id isRetransmissionDisconnect connectedCount =>
      have busy : state.decrement.isReleasing = false := by rw [stands]; rfl
      have lingers : state.decrement.lingers = 1 := by rw [stands]; rfl
      rw [stands] at owed
      obtain ⟨notZero, ended⟩ := owed
      simp only [State.decrementConnectedCount, stands, Option.some.injEq]
        at moves
      subst moves
      rw [if_neg notZero]
      split
      · next swapped =>
        obtain ⟨-, rfl⟩ := swapped
        have less : (state.connectedUserCount - 1).toNat + 1 =
            state.connectedUserCount.toNat :=
          toNat_sub_one notZero
        rw [stands] at counted balanced
        exact
          { exact with
            sound := exact.soundEnded busy ended _
            owed := by
              have connected := connected_modifyHead ended
                .connectedUserCount
              cases isRetransmissionDisconnect <;>
                simpa [State.recordEnded, DecrementPc.Owed] using connected
            counted := by
              have moved : (state.connectedUserCount - 1).toNat =
                  total maxSessionSize (counts state) + 0 := by
                simp only [DecrementPc.lingers] at counted
                omega
              cases isRetransmissionDisconnect <;> exact moved
            balanced := by
              have moved : (state.allConnectedCount.toNat +
                    total maxSessionSize (countsLater state)) % 2 ^ 32 =
                  (state.allDisconnectedCount.toNat +
                    (state.connectedUserCount - 1).toNat + 1) % 2 ^ 32 := by
                simp only [DecrementPc.lags] at balanced
                rw [Nat.add_assoc _ _ 1, less]
                exact balanced
              cases isRetransmissionDisconnect <;> exact moved }
      · exact exact.redirect busy ⟨exact.ne_zero lingers, ended⟩
          (by rw [stands]; rfl) (by rw [stands]; rfl)
  | countingRetransmission id =>
      rw [stands] at owed counted balanced
      simp only [State.decrementConnectedCount, stands, Option.some.injEq]
        at moves
      subst moves
      exact
        { exact with
          sound := exact.soundEnded (by rw [stands]; rfl) owed _
          owed := by
            have connected := connected_modifyHead owed
              .allDisconnectedByRetransmissionCount
            simpa [State.recordEnded, DecrementPc.Owed] using connected
          counted := counted
          balanced := balanced }
  | countingAll id =>
      rw [stands] at owed counted balanced
      simp only [State.decrementConnectedCount, stands, Option.some.injEq]
        at moves
      subst moves
      exact
        { exact with
          sound := exact.soundEnded (by rw [stands]; rfl) owed _
          owed := trivial
          counted := counted
          balanced := by
            have one : (state.allDisconnectedCount + 1).toNat =
                (state.allDisconnectedCount.toNat + 1) % 2 ^ 32 :=
              BitVec.toNat_add _ _
            have moved : (state.allConnectedCount.toNat +
                  total maxSessionSize (countsLater state)) % 2 ^ 32 =
                ((state.allDisconnectedCount + 1).toNat +
                  state.connectedUserCount.toNat + 0) % 2 ^ 32 := by
              rw [one]
              simp only [DecrementPc.lags] at balanced
              omega
            exact moved }

/-- A step of the sessions. -/
theorem session
    {label : SessionRelease.Label}
    (exact : Exact maxSessionSize state)
    (reached : SessionRelease.system.Reachable state.release)
    (spares : state.sparesReserved (.session label) = true)
    (moves : step maxSessionSize state (.session label) = some next) :
    Exact maxSessionSize next := by
  have accounted := accounted_of_reachable reached
  obtain ⟨permitted, moves⟩ := Option.ite_none_right_eq_some.mp moves
  obtain ⟨release, steps, rfl⟩ := Option.map_eq_some_iff.mp moves
  cases label with
  | push id => exact exact.push steps
  | release =>
      exact exact.releaseThread accounted (logicCounted_of_reachable reached)
        permitted steps
  | act id action =>
      obtain ⟨session, acts, rfl⟩ := Option.map_eq_some_iff.mp steps
      by_cases connects : action = .connect
      · subst connects
        exact exact.connect accounted acts
      · have moved := exact.act accounted permitted connects spares acts
        cases action with
        | connect => exact absurd rfl connects
        | _ => exact moved

end Exact

/-! ## Every run -/

/-- The session manager leaves the sessions to the model of the release. -/
theorem release_after
    (state : State) (label : SessionRelease.Label)
    (release : SessionRelease.State) :
    (state.after label release).release = release := by
  unfold State.after State.afterRelease
  split
  · rfl
  · split <;> rfl
  · rfl

/-- The sessions of a session manager move as in the model of the release. -/
theorem release_reachable
    {maxSessionSize : BitVec 16} {Guard : State → Label → Prop} {state : State}
    (reached : (system maxSessionSize).GuardedReachable Guard state) :
    SessionRelease.system.Reachable state.release := by
  induction reached with
  | initial begins =>
      cases begins
      exact .initial rfl
  | @step state next label _ _ moves before =>
    change SessionManager.step maxSessionSize state label = some next at moves
    cases label with
    | session label =>
        obtain ⟨-, moves⟩ := Option.ite_none_right_eq_some.mp moves
        obtain ⟨release, steps, rfl⟩ := Option.map_eq_some_iff.mp moves
        rw [release_after]
        exact before.step steps
    | increment id =>
        change state.incrementConnectedCount id = some next at moves
        cases stands : state.increments id <;>
          simp only [State.incrementConnectedCount, stands, Option.some.injEq,
            reduceCtorEq] at moves <;>
          exact moves ▸ before
    | decrement swaps =>
        change state.decrementConnectedCount swaps = some next at moves
        cases stands : state.decrement with
        | outside | loaded reason =>
            simp [State.decrementConnectedCount, stands] at moves
        | swapping id isRetransmissionDisconnect connectedCount =>
            simp only [State.decrementConnectedCount, stands,
              Option.some.injEq] at moves
            subst moves
            split
            · exact before
            · split <;> exact before
        | entering id reason | countingRetransmission id | countingAll id =>
            simp only [State.decrementConnectedCount, stands,
              Option.some.injEq] at moves
            exact moves ▸ before

/-- Nothing is counted at first. -/
theorem exact_initial (maxSessionSize : BitVec 16) :
    Exact maxSessionSize initial where
  sound _ :=
    { attested := ⟨fun _ => rfl, fun _ => ⟨rfl, nofun, nofun⟩⟩
      counting := fun counting => absurd rfl counting
      drained := nofun
      loaded := nofun
      ended := .nil }
  pooled _ _ := rfl
  owed := trivial
  counted := by
    have none : total maxSessionSize (counts initial) = 0 :=
      Finset.sum_eq_zero fun _ _ => rfl
    rw [none]
    rfl
  balanced := by
    have none : total maxSessionSize (countsLater initial) = 0 :=
      Finset.sum_eq_zero fun _ _ => rfl
    rw [none]
    rfl

/-- The counters stay exact up to the threads inside the session manager. -/
theorem exact_of_sparesReserved
    {maxSessionSize : BitVec 16} {state : State}
    (reached : (system maxSessionSize).GuardedReachable SparesReserved state) :
    Exact maxSessionSize state := by
  refine reached.invariant ?_ ?_
  · rintro state rfl
    exact exact_initial maxSessionSize
  · intro state label next before exact spares moves
    have release := release_reachable before
    cases label with
    | session label => exact exact.session release spares moves
    | increment id =>
        exact exact.increment (accounted_of_reachable release) spares moves
    | decrement swaps => exact exact.decrement moves

/-- Where `DoDisconnect` spares reserved sessions, the count of the connected
users is exact. -/
theorem countExact_of_sparesReserved
    {maxSessionSize : BitVec 16} {state : State}
    (reached : (system maxSessionSize).GuardedReachable SparesReserved state) :
    CountExact maxSessionSize state := by
  have exact := exact_of_sparesReserved reached
  have counted : NoCallInProgress state →
      state.connectedUserCount.toNat =
        connectedSessions maxSessionSize state := by
    intro rests
    have counted := exact.counted
    have sum : total maxSessionSize (counts state) =
        connectedSessions maxSessionSize state := by
      rw [connectedSessions, Finset.card_filter]
      exact Finset.sum_congr rfl fun id _ => by simp [counts, rests.increments]
    rw [rests.decrement, sum] at counted
    exact counted
  have balanced : NoCallInProgress state →
      state.connectedUserCount.setWidth 32 =
        state.allConnectedCount - state.allDisconnectedCount := by
    intro rests
    have balanced := exact.balanced
    have none : total maxSessionSize (countsLater state) = 0 :=
      Finset.sum_eq_zero fun id _ => by simp [countsLater, rests.increments]
    rw [rests.decrement, none] at balanced
    have bound := state.connectedUserCount.isLt
    have all := state.allConnectedCount.isLt
    have ended := state.allDisconnectedCount.isLt
    apply BitVec.eq_of_toNat_eq
    simp only [BitVec.toNat_setWidth, BitVec.toNat_sub, DecrementPc.lags]
      at balanced ⊢
    omega
  exact
    { connected := counted
      balanced := balanced
      present := fun id => (exact.sound id).attested.untouched
      ended := fun id => (exact.sound id).ended }

/-! ## A reserved session that is counted down -/

/-- The threads of a session make their moves. -/
def acts (id : SessionId) (actions : List Action) : List Label :=
  actions.map fun action => .session (.act id action)

/-- The broker reserves a session and posts its receive. -/
def reservation (id : SessionId) : List Label :=
  acts id (([.acquire, .reserve] : List Action) ++
    (List.replicate 5 (.recv .broker true) : List Action) ++
    ([.recv .broker false] : List Action))

/-- The client connects. -/
def connection (id : SessionId) : List Label :=
  acts id (([.completeRecv 1] : List Action) ++
    (List.replicate 3 (.io true false) : List Action) ++
    (List.replicate 5 (.recv .worker true) : List Action) ++
    ([.recv .worker false] : List Action) ++
    (List.replicate 2 (.io true false) : List Action) ++
    ([.dequeue, .logic, .logic, .logic, .connect] : List Action)) ++
  ([.increment id, .increment id] : List Label) ++ acts id [.logic, .logic]

/-- The receive fails, and `HandleFailedCompletion` disconnects the session. -/
def ioFailure (id : SessionId) : List Label :=
  acts id [.completeRecv 1, .io false false, .io false false,
    .disconnect .byError, .releaser, .releaser] ++
  [.session (.push id)] ++ acts id [.io false false]

/-- `AbortReservedSession` releases the session, and its receive fails. -/
def abortion (id : SessionId) : List Label :=
  acts id [.abort, .releaser, .releaser] ++ [.session (.push id)] ++
  acts id [.completeRecv 1, .io false false, .io false false,
    .io false false]

/-- The release thread returns the session of a batch, counts it down and waits
again. -/
def returning (countsDown : List Label) : List Label :=
  List.replicate 31 (.session .release) ++ countsDown ++
  List.replicate 2 (.session .release)

/-- A session is connected and another one fails while it is reserved. -/
def failureSchedule : List Label :=
  reservation 0 ++ connection 0 ++ reservation 1 ++ ioFailure 1 ++
  returning (List.replicate 3 (.decrement true))

/-- A session is connected and the reservation of another one is aborted. -/
def abortionSchedule : List Label :=
  reservation 0 ++ connection 0 ++ reservation 1 ++ abortion 1 ++
  returning [.decrement true]

/-- The state after the first schedule. -/
def failureState : State :=
  ((system 2).run initial failureSchedule).getD initial

/-- The state after the second one. -/
def abortionState : State :=
  ((system 2).run initial abortionSchedule).getD initial

set_option maxRecDepth 4000 in
theorem run_failureSchedule :
    (system 2).run initial failureSchedule = some failureState := rfl

set_option maxRecDepth 4000 in
theorem guardedRun_abortionSchedule :
    (system 2).guardedRun SparesReserved initial abortionSchedule =
      some abortionState := rfl

/-- No call is in progress after the first schedule. -/
theorem noCallInProgress_failureState : NoCallInProgress failureState where
  sessions id := by
    match id with
    | 0 | 1 =>
        exact ⟨nofun, fun caller => by cases caller <;> rfl, fun _ => rfl,
          rfl, rfl, rfl⟩
    | id + 2 => exact ⟨nofun, fun _ => rfl, fun _ => rfl, rfl, rfl, rfl⟩
  releaseThread := rfl
  increments id := by
    match id with
    | 0 | 1 => rfl
    | id + 2 => rfl
  decrement := rfl

/-- A session whose receive fails while it is reserved is counted down and gets
its hooks, and a connected session is counted no more. -/
theorem failureState_reachable :
    (system 2).Reachable failureState ∧ NoCallInProgress failureState ∧
      failureState.connectedUserCount = 0 ∧
      connectedSessions 2 failureState = 1 ∧
      ¬ CountExact 2 failureState := by
  have zero : failureState.connectedUserCount = 0 := rfl
  have one : connectedSessions 2 failureState = 1 := rfl
  refine ⟨.run (.initial rfl) run_failureSchedule,
    noCallInProgress_failureState, zero, one, fun exact => ?_⟩
  have counted := exact.connected noCallInProgress_failureState
  rw [zero, one] at counted
  exact nomatch counted

/-- An aborted reservation leaves the count of the connected session. -/
theorem countExact_after_abortion : CountExact 2 abortionState :=
  countExact_of_sparesReserved
    (TransitionSystem.GuardedReachable.guardedRun (.initial rfl)
      guardedRun_abortionSchedule)

end SessionManager
end MultiSocketRudp
