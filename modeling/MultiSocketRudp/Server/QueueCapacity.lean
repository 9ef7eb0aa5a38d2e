import MultiSocketRudp.Server.CompletionQueues
import MultiSocketRudp.Server.ReleaseOrder
import Mathlib.Data.Int.CardIntervalMod
import Mathlib.Algebra.Order.BigOperators.Group.Finset

/-!
# Capacity of the completion queues

A session has at most as many receives posted as it has receive contexts, and one
send.  A new reservation brings new contexts, so the bound needs that the session
came back from its last turn with nothing posted.  It does when nothing overtakes
its release.
-/

namespace MultiSocketRudp
namespace SessionRelease

/-! ## A session that has been cleaned up -/

/-- `FinalizeRIOCleanup` has run, and the session is not yet in the pool. -/
def ReleasePc.isCleaned : ReleasePc → Bool
  | .releasing | .poolTest | .incrementing | .lowering | .resetting
  | .resettingMode | .resettingReason | .resettingState | .returning => true
  | _ => false

namespace Session

variable {session next : Session}

/-- The session is in the pool or on its way there. -/
def Vacant (session : Session) (pc : Option ReleasePc) : Prop :=
  session.place ≠ .inUse ∨ ∃ present ∈ pc, present.isCleaned = true

/-- A vacant session has a closed socket and no receives. -/
def Emptied (session : Session) (pc : Option ReleasePc) : Prop :=
  session.Vacant pc →
    session.socketOpen = false ∧ session.outstandingRecvIo = 0

/-- On a closed socket no receive begins. -/
theorem Counted.outstandingRecvIo_act
    (counted : session.Counted)
    (shut : session.socketOpen = false)
    (none : session.outstandingRecvIo = 0)
    {action : Action}
    (moves : session.act action = some next) :
    next.outstandingRecvIo = 0 := by
  -- The load of the receives alone has been passed there.
  have found : session.Found (some (.drainLogic .second)) :=
    { receives := fun _ _ _ => none
      logic := by rintro present ⟨⟩ ⟨⟩
      mode := by rintro present ⟨⟩ ⟨⟩
      completions := by rintro present ⟨⟩ ⟨⟩ }
  have keeps : session.keepsSendPathFree (some (.drainLogic .second)) action =
      true := by
    cases action with
    | send caller transmits again =>
        simp [keepsSendPathFree, ReleasePc.foundSendPathFree,
          ReleasePc.foundNoCompletion]
    | _ => rfl
  exact (found.act counted (fun _ _ _ => shut) keeps moves).receives _ rfl rfl

/-- Only the reservation opens the socket. -/
theorem socketOpen_act
    {action : Action}
    (unreserved : action ≠ .reserve)
    (moves : session.act action = some next) :
    next.socketOpen = session.socketOpen := by
  by_cases io : action.isIo = true
  · exact congrArg Lifecycle.socketOpen (lifecycle_act io moves)
  cases action with
  | reserve => exact absurd rfl unreserved
  | acquire | connect | abort =>
      simp only [Session.act, Option.ite_none_right_eq_some,
        Option.some.injEq] at moves
      obtain ⟨-, rfl⟩ := moves
      rfl
  | disconnect reason =>
      simp only [Session.act, Option.ite_none_right_eq_some,
        Option.some.injEq] at moves
      obtain ⟨-, rfl⟩ := moves
      rfl
  | releaser =>
      cases stands : session.releaser <;>
        simp only [Session.act, releaserStep, stands, Option.some.injEq,
          reduceCtorEq] at moves <;>
        exact moves ▸ rfl
  | _ => exact absurd rfl io

/-- Only the reservation and the broker change who has the session. -/
theorem place_act
    {action : Action}
    (moves : session.act action = some next) :
    next.place = session.place ∨ session.place ≠ .inUse := by
  by_cases io : action.isIo = true
  · exact .inl (congrArg Lifecycle.place (lifecycle_act io moves))
  cases action with
  | acquire =>
      simp only [Session.act, Option.ite_none_right_eq_some,
        Option.some.injEq] at moves
      exact .inr (by simp [moves.1])
  | reserve =>
      simp only [Session.act, Option.ite_none_right_eq_some,
        Option.some.injEq] at moves
      exact .inr (by simp [moves.1.1])
  | connect | abort =>
      simp only [Session.act, Option.ite_none_right_eq_some,
        Option.some.injEq] at moves
      exact .inl (moves.2 ▸ rfl)
  | disconnect reason =>
      simp only [Session.act, Option.ite_none_right_eq_some,
        Option.some.injEq] at moves
      exact .inl (moves.2 ▸ rfl)
  | releaser =>
      cases stands : session.releaser <;>
        simp only [Session.act, releaserStep, stands, Option.some.injEq,
          reduceCtorEq] at moves <;>
        exact .inl (moves ▸ rfl)
  | _ => exact absurd rfl io

/-- The threads of a session leave it empty until it is reserved. -/
theorem Emptied.act
    {pc : Option ReleasePc}
    (emptied : session.Emptied pc)
    (counted : session.Counted)
    (attended : session.Attended pc)
    {action : Action}
    (moves : session.act action = some next) :
    next.Emptied pc := by
  by_cases reserves : action = .reserve
  · subst reserves
    simp only [Session.act, Option.ite_none_right_eq_some,
      Option.some.injEq] at moves
    obtain ⟨⟨handedOut, -⟩, rfl⟩ := moves
    obtain rfl : pc = none := attended.none_of_not_listed fun _ listed => by
      cases handedOut.symm.trans listed.inUse
    rintro (elsewhere | ⟨present, ⟨⟩, -⟩)
    exact absurd rfl elsewhere
  · intro vacant
    have before : session.Vacant pc := by
      rcases vacant with elsewhere | cleaned
      · obtain same | before := place_act moves
        · exact .inl (same ▸ elsewhere)
        · exact .inl before
      · exact .inr cleaned
    obtain ⟨shut, none⟩ := emptied before
    exact ⟨(socketOpen_act reserves moves).trans shut,
      counted.outstandingRecvIo_act shut none moves⟩

/-- A session in use with which the release thread has not come to the cleanup
need not be empty. -/
theorem Emptied.of_uncleaned
    {pc : Option ReleasePc}
    (inUse : session.place = .inUse)
    (uncleaned : ∀ present ∈ pc, present.isCleaned = false) :
    session.Emptied pc := by
  rintro (elsewhere | ⟨present, member, cleaned⟩)
  · exact absurd inUse elsewhere
  · exact nomatch (uncleaned present member).symm.trans cleaned

theorem isCleaned_undrained (round : Round) :
    ∀ present ∈ round.undrained.pc, present.isCleaned = false := by
  cases round <;> rintro present ⟨⟩

/-- The release thread cleans up a session that has been emptied. -/
theorem Emptied.releaseStep
    {pc : ReleasePc} {verdict : Verdict}
    (emptied : session.Emptied (some pc))
    (ordered : session.Ordered (some pc))
    (listed : session.Listed (some pc))
    (moves : session.releaseStep pc = some (next, verdict)) :
    next.Emptied verdict.pc := by
  have inUse := listed.inUse
  have vacated : pc.isCleaned = true →
      session.socketOpen = false ∧ session.outstandingRecvIo = 0 :=
    fun cleaned => emptied (.inr ⟨pc, rfl, cleaned⟩)
  cases pc with
  | finding | stateTest =>
      simp only [Session.releaseStep, Option.some.injEq, Prod.mk.injEq]
        at moves
      obtain ⟨rfl, rfl⟩ := moves
      refine .of_uncleaned inUse ?_
      split
      · rintro present ⟨⟩
        rfl
      · rintro present ⟨⟩
  | shutdownStarted round | shutdownLogic round | shutdownProcessing round =>
      simp only [Session.releaseStep, Option.some.injEq, Prod.mk.injEq]
        at moves
      obtain ⟨rfl, rfl⟩ := moves
      refine .of_uncleaned inUse ?_
      split <;> (rintro present ⟨⟩; rfl)
  | shutdownSwapping round =>
      simp only [Session.releaseStep] at moves
      split at moves
      all_goals
        simp only [Option.some.injEq, Prod.mk.injEq] at moves
        obtain ⟨rfl, rfl⟩ := moves
        exact .of_uncleaned inUse (by rintro present ⟨⟩; rfl)
  | shutdownNotifying round =>
      simp only [Session.releaseStep, Option.some.injEq, Prod.mk.injEq]
        at moves
      obtain ⟨rfl, rfl⟩ := moves
      refine .of_uncleaned ?_ (by rintro present ⟨⟩; rfl)
      exact (congrArg Prod.fst (custody_callUnlessAborted session _)).trans
        inUse
  | shutdownClosing round =>
      simp only [Session.releaseStep, Option.ite_none_left_eq_some,
        Option.some.injEq, Prod.mk.injEq] at moves
      obtain ⟨-, rfl, rfl⟩ := moves
      refine .of_uncleaned ?_ (by rintro present ⟨⟩; rfl)
      exact (congrArg Prod.fst (custody_closeSocket session)).trans inUse
  | drainReceives round | drainLogic round | drainMode round
  | drainCompletions round =>
      simp only [Session.releaseStep, Option.some.injEq, Prod.mk.injEq]
        at moves
      obtain ⟨rfl, rfl⟩ := moves
      refine .of_uncleaned inUse ?_
      split
      · rintro present ⟨⟩
        rfl
      · exact isCleaned_undrained round
  | drainProcessing round =>
      simp only [Session.releaseStep, Option.some.injEq, Prod.mk.injEq]
        at moves
      obtain ⟨rfl, rfl⟩ := moves
      refine .of_uncleaned inUse ?_
      split
      · exact isCleaned_undrained round
      · rintro present ⟨⟩
        cases round <;> rfl
  | cleaning =>
      simp only [Session.releaseStep, Option.some.injEq, Prod.mk.injEq]
        at moves
      obtain ⟨rfl, rfl⟩ := moves
      exact fun _ => ⟨ordered.turned.socket inUse,
        ordered.found.receives _ rfl rfl⟩
  | releasing =>
      simp only [Session.releaseStep, Option.some.injEq, Prod.mk.injEq]
        at moves
      obtain ⟨rfl, rfl⟩ := moves
      intro vacant
      obtain ⟨shut, none⟩ := vacated rfl
      unfold callUnlessAborted
      split
      · exact ⟨shut, none⟩
      · exact ⟨shut, none⟩
  | poolTest | incrementing | lowering | resetting | resettingMode
  | resettingReason | resettingState | returning =>
      simp only [Session.releaseStep, Option.some.injEq, Prod.mk.injEq]
        at moves
      obtain ⟨rfl, rfl⟩ := moves
      exact fun _ => vacated rfl

/-! ## Receive contexts -/

end Session

/-- The IO worker has the context of a receive. -/
def IoPc.contexts : IoPc → Nat
  | .received _ | .delivering _ => 1
  | _ => 0

namespace Session

variable {session next : Session}

/-- Receive contexts that are not free: posted, or in the hands of a thread. -/
def contexts (session : Session) : Nat :=
  session.receivesPosted.length + (session.doRecvs .broker).receives +
    (session.doRecvs .worker).receives + session.ioWorker.contexts

/-- The counted receives and the contexts in use differ in what the IO worker
has. -/
theorem contexts_add_receives (session : Session) :
    session.contexts + session.ioWorker.receives =
      session.receives + session.ioWorker.contexts := by
  unfold contexts receives
  omega

/-- Every context in use is counted as a receive. -/
theorem contexts_le_receives (session : Session) :
    session.contexts ≤ session.receives := by
  have worker : session.ioWorker.contexts ≤ session.ioWorker.receives := by
    cases session.ioWorker <;> simp [IoPc.contexts, IoPc.receives]
  have differ := session.contexts_add_receives
  omega

/-- A thread that moves on inside `DoRecv` changes its own share. -/
theorem contexts_setRecv
    (session : Session) (caller : RecvCaller) (pc : RecvPc) :
    (session.setRecv caller pc).contexts + (session.doRecvs caller).receives =
      session.contexts + pc.receives := by
  have moved := session.receives_setRecv caller pc
  have before := session.contexts_add_receives
  have after := (session.setRecv caller pc).contexts_add_receives
  change (session.setRecv caller pc).contexts + session.ioWorker.receives =
    (session.setRecv caller pc).receives + session.ioWorker.contexts at after
  omega

/-- The release thread takes no receive context. -/
theorem contexts_releaseStep
    {pc : ReleasePc} {verdict : Verdict}
    (moves : session.releaseStep pc = some (next, verdict)) :
    next.contexts = session.contexts := by
  cases pc with
  | shutdownSwapping round =>
      simp only [Session.releaseStep] at moves
      split at moves
      all_goals
        simp only [Option.some.injEq, Prod.mk.injEq] at moves
        exact moves.1 ▸ rfl
  | shutdownNotifying round | releasing =>
      simp only [Session.releaseStep, Option.some.injEq, Prod.mk.injEq]
        at moves
      obtain ⟨rfl, -⟩ := moves
      unfold callUnlessAborted
      split <;> rfl
  | shutdownClosing round =>
      simp only [Session.releaseStep, Option.ite_none_left_eq_some,
        Option.some.injEq, Prod.mk.injEq] at moves
      obtain ⟨-, rfl, -⟩ := moves
      unfold closeSocket
      split <;> rfl
  | _ =>
      simp only [Session.releaseStep, Option.some.injEq, Prod.mk.injEq]
        at moves
      exact moves.1 ▸ rfl

end Session

end SessionRelease

namespace CompletionQueues

open TransitionSystems
open SessionRelease hiding State step initial system

section Contexts

variable {session next : Session} {free after : Nat}

/-- A thread that moves on between posts takes no context. -/
theorem contexts_setRecv_of_idle
    {caller : RecvCaller} {pc : RecvPc}
    (before : (session.doRecvs caller).receives = 0)
    (idle : pc.receives = 0) :
    (session.setRecv caller pc).contexts = session.contexts := by
  have moved := session.contexts_setRecv caller pc
  omega

/-- A step of `DoRecv` exchanges free contexts for contexts in use. -/
theorem contexts_recvStep
    {caller : RecvCaller} {succeeds : Bool}
    (moves : session.recvStep caller succeeds = some next)
    (takes : contextsAfter session free (.recv caller succeeds) = some after) :
    after + next.contexts = free + session.contexts := by
  cases stands : session.doRecvs caller with
  | outside => simp [Session.recvStep, stands] at moves
  | entering | locked | tested =>
      simp only [Session.recvStep, contextsAfter, stands, Option.some.injEq]
        at moves takes
      subst moves takes
      rw [contexts_setRecv_of_idle (by rw [stands]; rfl) (by
        first | rfl | (split <;> rfl))]
  | looping =>
      simp only [Session.recvStep, contextsAfter, stands, Option.some.injEq]
        at moves takes
      cases succeeds with
      | true =>
          simp only [if_true, Option.ite_none_left_eq_some,
            Option.some.injEq] at moves takes
          obtain ⟨some_free, rfl⟩ := takes
          subst moves
          have moved := { session with
            outstandingRecvIo := session.outstandingRecvIo + 1
            }.contexts_setRecv caller (.posting session.sessionGeneration)
          simp only [stands] at moved
          change _ + 0 = session.contexts + 1 at moved
          omega
      | false =>
          simp only [Bool.false_eq_true, if_false, Option.some.injEq]
            at moves takes
          subst moves takes
          rw [contexts_setRecv_of_idle (by rw [stands]; rfl) rfl]
  | posting generation =>
      simp only [Session.recvStep, contextsAfter, stands, Option.some.injEq]
        at moves takes
      cases succeeds with
      | true =>
          simp only [if_true] at moves takes
          subst moves takes
          have moved := { session with
            receivesPosted := generation :: session.receivesPosted
            }.contexts_setRecv caller .looping
          simp only [stands] at moved
          change _ + 1 = { session with
            receivesPosted := generation :: session.receivesPosted
            }.contexts + 0 at moved
          simp only [Session.contexts, List.length_cons] at moved ⊢
          omega
      | false =>
          simp only [Bool.false_eq_true, if_false] at moves takes
          subst moves takes
          have moved := { session with
            outstandingRecvIo := session.outstandingRecvIo - 1
            }.contexts_setRecv caller .outside
          simp only [stands] at moved
          change _ + 1 = session.contexts + 0 at moved
          omega

/-- The IO worker puts a context back when it is done with it. -/
theorem contexts_ioStep
    {succeeded dropped : Bool}
    (counted : session.Counted)
    (moves : session.ioStep succeeded dropped = some next)
    (takes : contextsAfter session free (.io succeeded dropped) =
      some after) :
    after + next.contexts = free + session.contexts := by
  cases stands : session.ioWorker with
  | idle => simp [Session.ioStep, stands] at moves
  | received generation =>
      simp only [Session.ioStep, contextsAfter, stands, Option.some.injEq]
        at moves takes
      subst moves takes
      simp only [Session.contexts, stands]
      by_cases stale : generation ≠ session.sessionGeneration ∨
          succeeded = false
      · simp only [stale, ← or_assoc, true_or, if_true, IoPc.contexts]
        omega
      · cases dropped with
        | true =>
            simp only [stale, or_true, if_true, if_false, IoPc.contexts]
            omega
        | false => simp [stale, IoPc.contexts]
  | delivering generation =>
      simp only [Session.ioStep, contextsAfter, stands, Option.some.injEq]
        at moves takes
      subst moves takes
      simp only [Session.contexts, stands, IoPc.contexts]
      omega
  | releasing again =>
      simp only [Session.ioStep, contextsAfter, stands, Option.some.injEq]
        at moves takes
      subst takes
      have outside := counted.worker (by simp [stands])
      cases again with
      | true =>
          simp only [if_true] at moves
          subst moves
          rw [contexts_setRecv_of_idle (by simp [outside, RecvPc.receives])
            rfl]
          simp only [Session.contexts, stands, IoPc.contexts]
      | false =>
          simp only [Bool.false_eq_true, if_false] at moves
          subst moves
          simp only [Session.contexts, stands, IoPc.contexts]
  | receiving | sending =>
      simp only [Session.ioStep, contextsAfter, stands,
        Option.ite_none_right_eq_some, Option.some.injEq] at moves takes
      obtain ⟨-, rfl⟩ := moves
      subst takes
      simp only [Session.contexts, stands, IoPc.contexts]
  | sent generation =>
      simp only [Session.ioStep, contextsAfter, stands, Option.some.injEq]
        at moves takes
      subst moves takes
      simp only [Session.contexts, stands]
      split <;> rfl
  | storing succeeded =>
      simp only [Session.ioStep, contextsAfter, stands, Option.some.injEq]
        at moves takes
      subst moves takes
      simp only [Session.contexts, stands]
      split <;> rfl
  | testing =>
      simp only [Session.ioStep, contextsAfter, stands, Option.some.injEq]
        at moves takes
      subst moves takes
      split <;> simp only [Session.contexts, Session.setSend, stands,
        IoPc.contexts]
  | ending =>
      simp only [Session.ioStep, contextsAfter, stands, Option.some.injEq]
        at moves takes
      subst moves takes
      simp only [Session.contexts, stands, IoPc.contexts]

/-- No more contexts are used than the session has. -/
def Slotted (session : Session) (free : Nat) : Prop :=
  free + session.contexts ≤ ReceiveSlots.recvOutstandingCount

/-- The threads of a session use its own contexts. -/
theorem Slotted.act
    {action : Action}
    (slotted : Slotted session free)
    (counted : session.Counted)
    (emptied : session.place ≠ .inUse → session.outstandingRecvIo = 0)
    (moves : session.act action = some next)
    (takes : contextsAfter session free action = some after) :
    Slotted next after := by
  cases action with
  | recv caller succeeds =>
      have balance := contexts_recvStep moves takes
      unfold Slotted at slotted ⊢
      omega
  | io succeeded dropped =>
      have balance := contexts_ioStep counted moves takes
      unfold Slotted at slotted ⊢
      omega
  | reserve =>
      simp only [Session.act, contextsAfter, Option.ite_none_right_eq_some,
        Option.some.injEq] at moves takes
      obtain ⟨⟨handedOut, outside⟩, rfl⟩ := moves
      subst takes
      have none := emptied (by simp [handedOut])
      have unused : session.contexts = 0 := by
        have counts := counted.receives
        have bound := session.contexts_le_receives
        omega
      unfold Slotted
      rw [contexts_setRecv_of_idle (by simp [outside, RecvPc.receives]) rfl]
      change _ + session.contexts ≤ _
      omega
  | completeRecv generation =>
      simp only [Session.act, contextsAfter, Option.ite_none_right_eq_some,
        Option.some.injEq] at moves takes
      obtain ⟨⟨member, idle⟩, rfl⟩ := moves
      subst takes
      have shorter := List.length_erase_of_mem member
      have positive := List.length_pos_of_mem member
      simp only [Slotted, Session.contexts, idle, IoPc.contexts]
        at slotted ⊢
      omega
  | completeSend generation =>
      simp only [Session.act, contextsAfter, Option.ite_none_right_eq_some,
        Option.some.injEq] at moves takes
      obtain ⟨⟨-, idle⟩, rfl⟩ := moves
      subst takes
      simpa only [Slotted, Session.contexts, idle, IoPc.contexts]
        using slotted
  | send caller transmits again =>
      simp only [contextsAfter, Option.some.injEq] at takes
      subst takes
      obtain ⟨mode, flights, sends, rfl⟩ := Session.sendStep_frame moves
      exact slotted
  | logic =>
      simp only [contextsAfter, Option.some.injEq] at takes
      subst takes
      obtain ⟨pending, processing, worker, rfl⟩ :=
        Session.logicStep_frame moves
      exact slotted
  | dequeue =>
      simp only [contextsAfter, Option.some.injEq] at takes
      subst takes
      simp only [Session.act] at moves
      split at moves
      · simp only [Option.some.injEq] at moves
        exact moves ▸ slotted
      · cases moves
  | acquire | connect | abort | disconnect reason | enterSend index =>
      simp only [Session.act, contextsAfter, Option.ite_none_right_eq_some,
        Option.some.injEq] at moves takes
      exact takes ▸ moves.2 ▸ slotted
  | releaser =>
      simp only [contextsAfter, Option.some.injEq] at takes
      subst takes
      cases stands : session.releaser <;>
        simp only [Session.act, Session.releaserStep, stands, Option.some.injEq,
          reduceCtorEq] at moves <;>
        exact moves ▸ slotted

end Contexts

/-! ## All sessions -/

/-- Nothing overtakes the release thread of the server in this step. -/
def NothingOvertakes (state : State) (label : Label) : Prop :=
  SessionRelease.NothingOvertakes state.server label

instance (state : State) (label : Label) :
    Decidable (NothingOvertakes state label) :=
  inferInstanceAs (Decidable (SessionRelease.NothingOvertakes _ _))

/-- The server takes each step by itself. -/
theorem server_step
    {state next : State} {label : Label}
    (moves : step state label = some next) :
    SessionRelease.step state.server label = some next.server := by
  cases label with
  | act id action =>
      obtain ⟨free, -, moved⟩ := Option.bind_eq_some_iff.mp moves
      obtain ⟨server, steps, rfl⟩ := Option.map_eq_some_iff.mp moved
      exact steps
  | push id | release =>
      obtain ⟨server, steps, rfl⟩ := Option.map_eq_some_iff.mp moves
      exact steps

/-- The server of a reachable state is reachable. -/
theorem server_reachable
    {state : State}
    (reached : system.GuardedReachable NothingOvertakes state) :
    SessionRelease.system.GuardedReachable SessionRelease.NothingOvertakes
      state.server :=
  reached.project State.server (fun _ begins => begins ▸ .initial rfl)
    fun _ label _ keeps moves => ⟨label, keeps, server_step moves⟩

/-- A vacant session is empty as long as nothing overtakes the release thread. -/
theorem emptied_of_nothingOvertakes
    {server : SessionRelease.State}
    (reached : SessionRelease.system.GuardedReachable
      SessionRelease.NothingOvertakes server)
    (id : SessionId) :
    (server.sessions id).Emptied (server.pcOf id) := by
  have strengthened := reached.withInvariant ordered_of_nothingOvertakes
  refine sessionwise ?_ ?_ ?_ ?_ ?_ strengthened id
  · exact fun _ => ⟨rfl, rfl⟩
  · intro state id action next accounted emptied meets moves
    exact emptied.act (meets.1 id).counted (accounted.attended id) moves
  · intro session pc emptied pushing
    exact emptied
  · rintro session emptied (elsewhere | ⟨present, ⟨⟩, ⟨⟩⟩)
    exact emptied (.inl elsewhere)
  · intro state id pc next verdict accounted deals emptied meets moves
    exact emptied.releaseStep (deals ▸ meets.1 id)
      (accounted.attended id pc deals) moves

/-- No session uses more receive contexts than it has. -/
def AllSlotted (state : State) : Prop :=
  ∀ id, Slotted (state.server.sessions id) (state.freeRecvContexts id)

/-- A step keeps the sessions within their receive contexts. -/
theorem AllSlotted.step
    {state next : State} {label : Label}
    (slotted : AllSlotted state)
    (counted : ∀ id, (state.server.sessions id).Counted)
    (emptied : ∀ id, (state.server.sessions id).place ≠ .inUse →
      (state.server.sessions id).outstandingRecvIo = 0)
    (moves : step state label = some next) :
    AllSlotted next := by
  intro id
  cases label with
  | act other action =>
      obtain ⟨free, takes, moved⟩ := Option.bind_eq_some_iff.mp moves
      obtain ⟨server, steps, rfl⟩ := Option.map_eq_some_iff.mp moved
      obtain ⟨session, acts, rfl⟩ := Option.map_eq_some_iff.mp steps
      by_cases same : id = other
      · subst same
        have kept := (slotted id).act (counted id) (emptied id) acts takes
        simpa only [SessionRelease.State.sessions_setSession_self,
          Function.update_self] using kept
      · simpa only [SessionRelease.State.sessions_setSession_of_ne _ _ same,
          Function.update_of_ne same] using slotted id
  | push other =>
      obtain ⟨server, steps, rfl⟩ := Option.map_eq_some_iff.mp moves
      simp only [SessionRelease.step, SessionRelease.State.push,
        Option.ite_none_right_eq_some, Option.some.injEq] at steps
      obtain ⟨-, rfl⟩ := steps
      by_cases same : id = other
      · subst same
        simp only [SessionRelease.State.sessions_setSession_self]
        exact slotted id
      · simpa only [SessionRelease.State.sessions_setSession_of_ne _ _ same]
          using slotted id
  | release =>
      obtain ⟨server, steps, rfl⟩ := Option.map_eq_some_iff.mp moves
      obtain ⟨-, same, -⟩ |
          ⟨pc, first, rest, session, verdict, -, -, releases, rfl⟩ :=
        SessionRelease.State.releaseThread_cases steps
      · simpa only [same] using slotted id
      · have kept := slotted id
        simp only [SessionRelease.State.sessions_proceed]
        by_cases same : id = first
        · subst same
          rw [Function.update_self]
          unfold Slotted at kept ⊢
          rwa [Session.contexts_releaseStep releases]
        · rwa [Function.update_of_ne same]

/-- As long as nothing overtakes the release thread, no session uses more receive
contexts than it has. -/
theorem allSlotted_of_nothingOvertakes
    {state : State}
    (reached : system.GuardedReachable NothingOvertakes state) :
    AllSlotted state :=
  reached.invariant
    (fun _ begins id => by
      cases begins
      exact Nat.zero_le _)
    fun _ _ _ before slotted _ moves =>
      have ordered := ordered_of_nothingOvertakes (server_reachable before)
      have emptied := emptied_of_nothingOvertakes (server_reachable before)
      slotted.step (fun id => (ordered id).counted)
        (fun id elsewhere => (emptied id (.inl elsewhere)).2) moves

/-! ## The size of the queues -/

section Sizes

variable {numOfSockets numOfWorkerThreads : Size} {size : BitVec 32}

/-- The number of sessions of a worker is computed without overflow. -/
theorem sessionsPerWorker_toNat
    (workers : numOfWorkerThreads ≠ 0) :
    (sessionsPerWorker numOfSockets numOfWorkerThreads).toNat =
      numOfSockets.toNat / numOfWorkerThreads.toNat +
        if numOfSockets.toNat % numOfWorkerThreads.toNat ≠ 0 then 1 else 0 := by
  have positive : 0 < numOfWorkerThreads.toNat :=
    Nat.pos_of_ne_zero fun zero => workers (BitVec.eq_of_toNat_eq zero)
  have bounded := numOfSockets.isLt
  have quotient := Nat.div_le_self numOfSockets.toNat numOfWorkerThreads.toNat
  have remains : numOfSockets % numOfWorkerThreads ≠ 0 ↔
      numOfSockets.toNat % numOfWorkerThreads.toNat ≠ 0 := by
    rw [ne_eq, ne_eq, ← BitVec.toNat_inj, BitVec.toNat_umod]
    rfl
  unfold sessionsPerWorker
  by_cases even : numOfSockets.toNat % numOfWorkerThreads.toNat = 0
  · rw [if_neg (by rw [remains]; exact not_not.mpr even),
      if_neg (not_not.mpr even)]
    change (numOfSockets / numOfWorkerThreads + 0#64).toNat = _
    rw [BitVec.add_zero, BitVec.toNat_udiv, Nat.add_zero]
  · rw [if_pos (remains.mpr even), if_pos even, BitVec.toNat_add,
      BitVec.toNat_udiv]
    -- A remainder is left by two workers or more only.
    have several : 2 ≤ numOfWorkerThreads.toNat := by
      by_contra few
      have one : numOfWorkerThreads.toNat = 1 := by omega
      exact even (one ▸ Nat.mod_one _)
    have halved : numOfSockets.toNat / numOfWorkerThreads.toNat ≤
        numOfSockets.toNat / 2 := Nat.div_le_div_left several (by omega)
    exact Nat.mod_eq_of_lt (show _ + 1 < 2 ^ 64 by omega)

/-- `RIOManager::Initialize` computes the size without overflow. -/
theorem size_of_rioManagerInitialize
    (initializes : rioManagerInitialize numOfSockets numOfWorkerThreads =
      some size) :
    numOfWorkerThreads ≠ 0 ∧
      size.toNat =
        (sessionsPerWorker numOfSockets numOfWorkerThreads).toNat *
          (ReceiveSlots.recvOutstandingCount + 1) := by
  simp only [rioManagerInitialize, Option.ite_none_left_eq_some, not_or,
    Option.some.injEq, gt_iff_lt, BitVec.not_lt] at initializes
  obtain ⟨⟨-, workers⟩, fits, rfl⟩ := initializes
  refine ⟨workers, ?_⟩
  have small : (sessionsPerWorker numOfSockets numOfWorkerThreads).toNat ≤
      477218588 := fits
  rw [BitVec.toNat_setWidth, BitVec.toNat_mul]
  change _ * 9 % 2 ^ 64 % 2 ^ 32 = _ * 9
  omega

/-- A worker has no more sessions than every worker is counted to have. -/
theorem card_sessions_le
    (sockets : Nat) {workers : Nat} (positive : 0 < workers) (queue : Nat) :
    ((Finset.range sockets).filter fun id => id % workers = queue).card ≤
      sockets / workers + if sockets % workers ≠ 0 then 1 else 0 := by
  by_cases served : queue < workers
  · have counted := Nat.count_modEq_card sockets positive queue
    rw [Nat.count_eq_card_filter_range] at counted
    have same : ∀ id, id % workers = queue ↔ id ≡ queue [MOD workers] := by
      intro id
      rw [Nat.ModEq, Nat.mod_eq_of_lt served]
    simp only [same, counted]
    split
    · split <;> omega
    · omega
  · have empty : (Finset.range sockets).filter
        (fun id => id % workers = queue) = ∅ :=
      Finset.filter_eq_empty_iff.mpr fun id _ equal =>
        served (equal ▸ Nat.mod_lt id positive)
    rw [empty]
    exact Nat.zero_le _

end Sizes

/-- A session has at most one send and its receive contexts on its queue. -/
theorem requests_le
    {session : Session} {free : Nat}
    (slotted : Slotted session free)
    (single : session.sendsInFlight.length ≤ 1) :
    requests session ≤ ReceiveSlots.recvOutstandingCount + 1 := by
  unfold Slotted Session.contexts at slotted
  unfold requests
  omega

/-- As long as nothing overtakes the release thread, no completion queue
overflows. -/
theorem neverOverflows_of_nothingOvertakes
    {state : State}
    (reached : system.GuardedReachable NothingOvertakes state) :
    NeverOverflows state := by
  intro numOfSockets numOfWorkerThreads size initializes
  obtain ⟨workers, sized⟩ := size_of_rioManagerInitialize initializes
  have perWorker : (sessionsPerWorker numOfSockets numOfWorkerThreads).toNat =
      _ := sessionsPerWorker_toNat workers
  have slotted := allSlotted_of_nothingOvertakes reached
  have ordered := ordered_of_nothingOvertakes (server_reachable reached)
  refine ⟨perWorker ▸ sized, fun queue => ?_⟩
  have positive : 0 < numOfWorkerThreads.toNat :=
    Nat.pos_of_ne_zero fun zero => workers (BitVec.eq_of_toNat_eq zero)
  calc posted state numOfSockets.toNat numOfWorkerThreads.toNat queue
      ≤ ((Finset.range numOfSockets.toNat).filter
            fun id => id % numOfWorkerThreads.toNat = queue).card *
          (ReceiveSlots.recvOutstandingCount + 1) :=
        Finset.sum_le_card_nsmul _ _ _ fun id _ =>
          requests_le (slotted id) (ordered id).counted.single
    _ ≤ (sessionsPerWorker numOfSockets numOfWorkerThreads).toNat *
          (ReceiveSlots.recvOutstandingCount + 1) :=
        Nat.mul_le_mul_right _
          (perWorker ▸ card_sessions_le numOfSockets.toNat positive queue)
    _ = size.toNat := sized.symm

/-! ## A queue that overflows -/

/-- The broker is between two posts of its `DoRecv`; the first receive completes
while the reservation is aborted, so that its packet waits for the logic
worker. -/
def abortedSchedule : List Label :=
  ([.act 0 .acquire, .act 0 .reserve] : List Label) ++
  (List.replicate 5 (.act 0 (.recv .broker true)) : List Label) ++
  ([.act 0 (.completeRecv 1)] : List Label) ++
  (List.replicate 3 (.act 0 (.io true false)) : List Label) ++
  ([.act 0 .abort, .act 0 .releaser, .act 0 .releaser, .push 0] : List Label) ++
  (List.replicate 2 (.act 0 (.recv .worker true)) : List Label) ++
  (List.replicate 2 (.act 0 (.io true false)) : List Label)

/-- The first `BeginIOShutdown` finds the packet and the second one finds the
packet of the broker's next receive.  The broker posts a third receive when the
second drain test has loaded the outstanding receives, and the session goes back
to the pool. -/
def unshutReleaseSchedule : List Label :=
  (List.replicate 5 .release : List Label) ++
  (.act 0 .dequeue :: List.replicate 3 (.act 0 .logic) : List Label) ++
  (List.replicate 6 .release : List Label) ++
  (List.replicate 2 (.act 0 (.recv .broker true)) : List Label) ++
  (.act 0 (.completeRecv 1) ::
    List.replicate 3 (.act 0 (.io true false)) : List Label) ++
  (List.replicate 2 (.act 0 (.recv .worker true)) : List Label) ++
  (List.replicate 2 (.act 0 (.io true false)) : List Label) ++
  (List.replicate 3 .release : List Label) ++
  (.act 0 .dequeue :: List.replicate 3 (.act 0 .logic) : List Label) ++
  (List.replicate 2 (.act 0 (.recv .broker true)) : List Label) ++
  (List.replicate 16 .release : List Label)

/-- The broker's next post fails without a request queue.  The next reservation
posts all contexts, a client connects, and the reply to it is sent. -/
def reconnectSchedule : List Label :=
  ([.act 0 (.recv .broker true), .act 0 (.recv .broker false),
    .act 0 .acquire, .act 0 .reserve] : List Label) ++
  (List.replicate 19 (.act 0 (.recv .broker true)) : List Label) ++
  (.act 0 (.recv .broker false) :: .act 0 (.completeRecv 2) ::
    List.replicate 3 (.act 0 (.io true false)) : List Label) ++
  (List.replicate 5 (.act 0 (.recv .worker true)) : List Label) ++
  (.act 0 (.recv .worker false) ::
    List.replicate 2 (.act 0 (.io true false)) : List Label) ++
  (.act 0 .dequeue :: List.replicate 3 (.act 0 .logic) : List Label) ++
  (.act 0 .connect :: .act 0 (.enterSend 0) ::
    List.replicate 4 (.act 0 (.send (.thread 0) true false)) : List Label)

/-- The session is back in the pool with a posted receive. -/
def returnedState : State :=
  (system.run initial (abortedSchedule ++ unshutReleaseSchedule)).getD initial

/-- It is connected again, and a reply has been sent. -/
def overfullState : State :=
  (system.run returnedState reconnectSchedule).getD initial

set_option maxRecDepth 2000 in
theorem run_unshutReleaseSchedule :
    system.run initial (abortedSchedule ++ unshutReleaseSchedule) =
      some returnedState := rfl

set_option maxRecDepth 2000 in
theorem run_reconnectSchedule :
    system.run returnedState reconnectSchedule = some overfullState := rfl

/-- One session can have ten requests on the queue that is made for nine. -/
theorem overfullState_overflows :
    system.Reachable overfullState ∧ rioManagerInitialize 1 1 = some 9 ∧
      posted overfullState 1 1 0 = 10 ∧
      ¬ ∀ state, system.Reachable state → NeverOverflows state := by
  have reachable : system.Reachable overfullState :=
    .run (.run (.initial rfl) run_unshutReleaseSchedule)
      run_reconnectSchedule
  have overfull : posted overfullState 1 1 0 = 10 := rfl
  refine ⟨reachable, by decide, overfull, fun never => ?_⟩
  have fits := never _ reachable 1 1 9 (by decide)
  have capacity : posted overfullState 1 1 0 ≤ 9 := fits.capacity 0
  omega

/-- The states of a turn that nothing overtakes. -/
theorem neverOverflows_at_reservation :
    NeverOverflows
      ((system.run initial ([.act 0 .acquire, .act 0 .reserve] ++
        List.replicate 19 (.act 0 (.recv .broker true)))).getD initial) :=
  neverOverflows_of_nothingOvertakes
    (TransitionSystem.GuardedReachable.guardedRun (.initial rfl)
      (show system.guardedRun NothingOvertakes initial
          ([.act 0 .acquire, .act 0 .reserve] ++
            List.replicate 19 (.act 0 (.recv .broker true))) =
        some ((system.run initial ([.act 0 .acquire, .act 0 .reserve] ++
          List.replicate 19 (.act 0 (.recv .broker true)))).getD initial)
        from rfl))

end CompletionQueues
end MultiSocketRudp
