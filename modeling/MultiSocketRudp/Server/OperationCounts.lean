import MultiSocketRudp.Lib.ExclusiveOwnership
import MultiSocketRudp.Server.ReleaseAccounting

/-!
# What the drain test counts

The counters of a session count the operations that are under way: receives from
`BeginRecvIo` to `ReleaseRecvContext`, packets from the hand-over to the end of
the receive logic, and completions.  A send is not counted; the IO mode is the
mark of the one party that has the send path.
-/

namespace MultiSocketRudp
namespace SessionRelease

open ExclusiveOwnership

/-! ## Operations under way -/

/-- Receives that a thread inside `DoRecv` has counted and not posted yet. -/
def RecvPc.receives : RecvPc → Nat
  | .posting _ => 1
  | _ => 0

/-- The thread may still post a receive. -/
def RecvPc.posts : RecvPc → Bool
  | .looping | .posting _ => true
  | _ => false

/-- Receives that the IO worker has taken and not counted as ended. -/
def IoPc.receives : IoPc → Nat
  | .received _ | .delivering _ | .releasing _ => 1
  | _ => 0

/-- The IO worker has the send path of the completed send. -/
def IoPc.owns : IoPc → Bool
  | .sent _ | .storing _ => true
  | _ => false

/-- The thread has won the compare-and-swap of `DoSend`. -/
def SendPc.owns : SendPc → Bool
  | .testing | .streaming | .releasing _ => true
  | _ => false

/-- Who can have the send path. -/
inductive Holder
  | caller (caller : SendCaller)
  /-- The network, until the send has completed. -/
  | flight
  | ioWorker

namespace Session

variable {session next : Session}

/-- Receives that are counted. -/
def receives (session : Session) : Nat :=
  session.receivesPosted.length + (session.doRecvs .broker).receives +
    (session.doRecvs .worker).receives + session.ioWorker.receives

/-- The party has the send path. -/
def Holds (session : Session) : Holder → Prop
  | .caller caller => (session.doSends caller).owns = true
  | .flight => session.sendsInFlight ≠ []
  | .ioWorker => session.ioWorker.owns = true

/-- The counters are exact, one party has the send path, and nobody posts a
receive on a closed socket. -/
structure Counted (session : Session) : Prop where
  receives : session.outstandingRecvIo = session.receives
  logic : session.pendingRecvLogic =
    session.recvLogicQueue.length +
      if session.logicWorker = .idle then 0 else 1
  completions : session.activeIOCompletions =
    if session.ioWorker = .idle then 0 else 1
  sendPath : Exclusive (session.ioMode = .ioSending) session.Holds
  single : session.sendsInFlight.length ≤ 1
  closed : session.socketOpen = false →
    ∀ caller, (session.doRecvs caller).posts = false
  worker : session.ioWorker ≠ .receiving →
    session.doRecvs .worker = .outside

namespace Counted

/-- With the send path free nobody has it. -/
theorem not_holds
    (counted : session.Counted)
    (free : session.ioMode = .ioNoneSending) (party : Holder) :
    ¬ session.Holds party :=
  counted.sendPath.not_owns
    (fun sending => IoMode.noConfusion (free.symm.trans sending)) party

/-- When the drain test finds nothing, nothing is under way. -/
theorem drained
    (counted : session.Counted)
    (receives : session.outstandingRecvIo = 0)
    (logic : session.pendingRecvLogic = 0)
    (mode : session.ioMode = .ioNoneSending)
    (completions : session.activeIOCompletions = 0) :
    session.Drained := by
  have noReceive := counted.receives.symm.trans receives
  have noLogic := counted.logic.symm.trans logic
  have noCompletion := counted.completions.symm.trans completions
  have noFlight := counted.not_holds mode .flight
  simp only [Session.receives, Nat.add_eq_zero_iff,
    List.length_eq_zero_iff] at noReceive
  simp only [Nat.add_eq_zero_iff, List.length_eq_zero_iff, ite_eq_left_iff,
    one_ne_zero, imp_false, not_not] at noLogic noCompletion
  exact
    { outstandingRecvIo := receives
      receivesPosted := noReceive.1.1.1
      pendingRecvLogic := logic
      recvLogicQueue := noLogic.1
      logicWorker := noLogic.2
      activeIOCompletions := completions
      ioWorker := noCompletion
      ioMode := mode
      sendsInFlight := not_not.mp noFlight }

end Counted

/-! ## Receive logic -/

/-- Receive logic is pending for the packets that wait and for the one that the
logic worker has taken. -/
def LogicCounted (session : Session) : Prop :=
  session.pendingRecvLogic =
    session.recvLogicQueue.length +
      if session.logicWorker = .idle then 0 else 1

namespace LogicCounted

/-- Without pending receive logic the logic worker is idle. -/
theorem idle
    (counted : session.LogicCounted)
    (none : session.pendingRecvLogic = 0) :
    session.logicWorker = .idle := by
  have exact := counted.symm.trans none
  simp only [Nat.add_eq_zero_iff, ite_eq_left_iff, one_ne_zero, imp_false,
    not_not] at exact
  exact exact.2

/-- A step of the logic worker keeps the count. -/
theorem logicStep
    (counted : session.LogicCounted)
    (moves : session.logicStep = some next) :
    next.LogicCounted := by
  unfold LogicCounted at counted
  cases stands : session.logicWorker with
  | idle => simp [Session.logicStep, stands] at moves
  | dequeued generation | tested =>
      simp only [Session.logicStep, stands, Option.some.injEq] at moves
      subst moves
      simp only [stands, reduceCtorEq, if_false] at counted
      simp only [LogicCounted]
      split <;> simpa using counted
  | starting | processing =>
      simp only [Session.logicStep, stands, Option.some.injEq] at moves
      subst moves
      simp only [stands, reduceCtorEq, if_false] at counted
      simpa [LogicCounted] using counted
  | completing =>
      simp only [Session.logicStep, stands, Option.some.injEq] at moves
      subst moves
      simp only [stands, reduceCtorEq, if_false] at counted
      simp only [LogicCounted, if_true]
      omega

/-- So does the logic worker when it takes a packet. -/
theorem dequeue
    (counted : session.LogicCounted)
    (moves : session.act .dequeue = some next) :
    next.LogicCounted := by
  simp only [Session.act] at moves
  split at moves
  · next generation queue waits idle =>
    simp only [Option.some.injEq] at moves
    subst moves
    simpa [LogicCounted, waits, idle] using counted
  · cases moves

/-- The threads of a session keep the count. -/
theorem act
    (counted : session.LogicCounted) {action : Action}
    (moves : session.act action = some next) :
    next.LogicCounted := by
  cases action with
  | logic => exact counted.logicStep moves
  | dequeue => exact counted.dequeue moves
  | recv caller succeeds =>
      obtain ⟨outstanding, posted, recvs, rfl⟩ := recvStep_frame moves
      exact counted
  | send caller transmits again =>
      obtain ⟨mode, flights, sends, rfl⟩ := sendStep_frame moves
      exact counted
  | io succeeded dropped =>
      obtain ⟨generation, -, rfl⟩ |
          ⟨outstanding, completions, mode, recvs, sends, worker, rfl⟩ :=
        ioStep_frame moves
      · unfold LogicCounted at counted ⊢
        simp only [counted, List.length_append, List.length_singleton]
        omega
      · exact counted
  | releaser =>
      cases stands : session.releaser <;>
        simp only [Session.act, releaserStep, stands, Option.some.injEq,
          reduceCtorEq] at moves <;>
        exact moves ▸ counted
  | acquire | reserve | connect | disconnect reason | abort
  | enterSend index | completeRecv generation | completeSend generation =>
      simp only [Session.act, Option.ite_none_right_eq_some,
        Option.some.injEq] at moves
      exact moves.2 ▸ counted

end LogicCounted

/-! ## Moves inside `DoRecv` -/

theorem setRecv_self
    (session : Session) (caller : RecvCaller) (pc : RecvPc) :
    (session.setRecv caller pc).doRecvs caller = pc :=
  Function.update_self _ _ _

theorem setRecv_of_ne
    (session : Session) {caller other : RecvCaller} (pc : RecvPc)
    (distinct : other ≠ caller) :
    (session.setRecv caller pc).doRecvs other = session.doRecvs other :=
  Function.update_of_ne distinct _ _

/-- A thread that moves on inside `DoRecv` changes its own share of the count. -/
theorem receives_setRecv
    (session : Session) (caller : RecvCaller) (pc : RecvPc) :
    (session.setRecv caller pc).receives + (session.doRecvs caller).receives =
      session.receives + pc.receives := by
  cases caller with
  | broker =>
      have self := session.setRecv_self .broker pc
      have other := session.setRecv_of_ne pc
        (nofun : RecvCaller.worker ≠ .broker)
      simp only [receives, self, other]
      simp only [setRecv]
      omega
  | worker =>
      have self := session.setRecv_self .worker pc
      have other := session.setRecv_of_ne pc
        (nofun : RecvCaller.broker ≠ .worker)
      simp only [receives, self, other]
      simp only [setRecv]
      omega

namespace Counted

/-- A thread inside `DoRecv` moves on and accounts for what it counts. -/
theorem moveRecv
    (counted : session.Counted) {caller : RecvCaller} {pc : RecvPc}
    {outstanding : Nat} {posted : List (BitVec 32)}
    (worker : caller = .worker → session.ioWorker = .receiving)
    (counts : outstanding + session.receivesPosted.length +
        (session.doRecvs caller).receives =
      session.outstandingRecvIo + posted.length + pc.receives)
    (closed : session.socketOpen = false → pc.posts = false) :
    ({ session with
      outstandingRecvIo := outstanding
      receivesPosted := posted }.setRecv caller pc).Counted :=
  { counted with
    receives := by
      have before := counted.receives
      have moved := receives_setRecv
        { session with
          outstandingRecvIo := outstanding
          receivesPosted := posted } caller pc
      simp only [Session.receives] at before moved ⊢
      change outstanding = _
      simp only [setRecv] at moved ⊢
      omega
    closed := by
      intro shut other
      by_cases same : other = caller
      · subst same
        rw [setRecv_self]
        exact closed shut
      · rw [setRecv_of_ne _ _ same]
        exact counted.closed shut other
    worker := by
      intro elsewhere
      have other : RecvCaller.worker ≠ caller := fun same =>
        elsewhere (worker same.symm)
      rw [setRecv_of_ne _ _ other]
      exact counted.worker elsewhere }

/-- A step inside `DoRecv` keeps the counts. -/
theorem recvStep
    (counted : session.Counted) {caller : RecvCaller} {succeeds : Bool}
    (moves : session.recvStep caller succeeds = some next) :
    next.Counted := by
  have worker : session.doRecvs caller ≠ .outside →
      caller = .worker → session.ioWorker = .receiving := by
    rintro inside rfl
    by_contra elsewhere
    exact inside (counted.worker elsewhere)
  cases stands : session.doRecvs caller with
  | outside => simp [Session.recvStep, stands] at moves
  | entering =>
      simp only [Session.recvStep, stands, Option.some.injEq] at moves
      subst moves
      exact counted.moveRecv (worker (by simp [stands]))
        (by simp [stands, RecvPc.receives]) fun _ => rfl
  | locked =>
      simp only [Session.recvStep, stands, Option.some.injEq] at moves
      subst moves
      split
      all_goals
        exact counted.moveRecv (worker (by simp [stands]))
          (by simp [stands, RecvPc.receives]) fun _ => rfl
  | tested =>
      simp only [Session.recvStep, stands, Option.some.injEq] at moves
      subst moves
      split
      · next isOpen =>
        exact counted.moveRecv (worker (by simp [stands]))
          (by simp [stands, RecvPc.receives])
          fun shut => by cases isOpen.symm.trans shut
      · exact counted.moveRecv (worker (by simp [stands]))
          (by simp [stands, RecvPc.receives]) fun _ => rfl
  | looping =>
      have isOpen : session.socketOpen ≠ false := fun shut => by
        simpa [stands, RecvPc.posts] using counted.closed shut caller
      simp only [Session.recvStep, stands, Option.some.injEq] at moves
      subst moves
      cases succeeds with
      | true =>
          exact counted.moveRecv (worker (by simp [stands]))
            (by simp only [stands, RecvPc.receives]; omega)
            fun shut => absurd shut isOpen
      | false =>
          exact counted.moveRecv (worker (by simp [stands]))
            (by simp [stands, RecvPc.receives]) fun _ => rfl
  | posting generation =>
      have isOpen : session.socketOpen ≠ false := fun shut => by
        simpa [stands, RecvPc.posts] using counted.closed shut caller
      have positive : 1 ≤ session.outstandingRecvIo := by
        have exact := counted.receives
        cases caller <;>
          simp only [Session.receives, stands, RecvPc.receives] at exact <;>
          omega
      simp only [Session.recvStep, stands, Option.some.injEq] at moves
      subst moves
      cases succeeds with
      | true =>
          exact counted.moveRecv (worker (by simp [stands]))
            (by simp only [stands, RecvPc.receives, List.length_cons]; omega)
            fun shut => absurd shut isOpen
      | false =>
          exact counted.moveRecv (worker (by simp [stands]))
            (by simp only [stands, RecvPc.receives]; omega) fun _ => rfl

end Counted

/-! ## Moves inside `DoSend` -/

theorem setSend_self
    (session : Session) (caller : SendCaller) (pc : SendPc) :
    (session.setSend caller pc).doSends caller = pc :=
  Function.update_self _ _ _

theorem setSend_of_ne
    (session : Session) {caller other : SendCaller} (pc : SendPc)
    (distinct : other ≠ caller) :
    (session.setSend caller pc).doSends other = session.doSends other :=
  Function.update_of_ne distinct _ _

/-- A thread that moves on inside `DoSend` decides only whether it has the send
path itself. -/
theorem holds_of_setSend
    {caller : SendCaller} {pc : SendPc} {party : Holder}
    (holds : (session.setSend caller pc).Holds party) :
    session.Holds party ∧ party ≠ .caller caller ∨
      party = .caller caller ∧ pc.owns = true := by
  cases party with
  | caller other =>
      by_cases same : other = caller
      · subst same
        rw [Holds, setSend_self] at holds
        exact .inr ⟨rfl, holds⟩
      · rw [Holds, setSend_of_ne _ _ same] at holds
        exact .inl ⟨holds, fun equal => same (Holder.caller.inj equal)⟩
  | flight => exact .inl ⟨holds, nofun⟩
  | ioWorker => exact .inl ⟨holds, nofun⟩

namespace Counted

/-- A thread inside `DoSend` that does not take the send path only can free
it. -/
theorem moveSend
    (counted : session.Counted) {caller : SendCaller} {pc : SendPc}
    (owns : pc.owns = true → (session.doSends caller).owns = true) :
    (session.setSend caller pc).Counted :=
  { counted with
    sendPath := counted.sendPath.mono fun party holds => by
      obtain ⟨before, -⟩ | ⟨rfl, after⟩ := holds_of_setSend holds
      · exact before
      · exact owns after }

/-- A step inside `DoSend` keeps one holder of the send path. -/
theorem sendStep
    (counted : session.Counted) {caller : SendCaller}
    {transmits again : Bool}
    (moves : session.sendStep caller transmits again = some next) :
    next.Counted := by
  have holds : (session.doSends caller).owns = true →
      session.Holds (.caller caller) := id
  cases stands : session.doSends caller with
  | outside => simp [Session.sendStep, stands] at moves
  | entering =>
      simp only [Session.sendStep, stands, Option.some.injEq] at moves
      subst moves
      split
      all_goals exact counted.moveSend (by rintro ⟨⟩)
  | contending =>
      simp only [Session.sendStep, stands, Option.some.injEq] at moves
      subst moves
      split
      · next free =>
        have unmarked : ¬ session.ioMode = .ioSending := by simp [free]
        exact
          { counted with
            sendPath := counted.sendPath.acquire unmarked rfl
              (.caller caller) fun party after =>
                (holds_of_setSend after).imp And.left And.left }
      · exact counted.moveSend (by rintro ⟨⟩)
  | testing =>
      simp only [Session.sendStep, stands, Option.some.injEq] at moves
      subst moves
      exact counted.moveSend fun _ => by rw [stands]; rfl
  | streaming =>
      have mine := holds (by rw [stands]; rfl)
      simp only [Session.sendStep, stands, Option.some.injEq] at moves
      subst moves
      split
      · have noFlight : session.sendsInFlight = [] := by
          by_contra flies
          cases counted.sendPath.unique _ .flight mine flies
        exact
          { counted with
            sendPath := counted.sendPath.handOver mine .flight
              fun party after => by
                cases party with
                | flight => exact .inr rfl
                | caller other =>
                    obtain before | ⟨-, after⟩ := holds_of_setSend after
                    · exact .inl before
                    · cases after
                | ioWorker => exact .inl ⟨after, by simp⟩
            single := by
              change (session.sessionGeneration ::
                session.sendsInFlight).length ≤ 1
              rw [noFlight]
              exact Nat.le_refl 1 }
      · exact counted.moveSend fun _ => by rw [stands]; rfl
  | releasing retries =>
      have mine := holds (by rw [stands]; rfl)
      simp only [Session.sendStep, stands, Option.some.injEq] at moves
      subst moves
      exact
        { counted with
          sendPath := counted.sendPath.release mine fun party after => by
            obtain before | ⟨-, after⟩ := holds_of_setSend after
            · exact before
            · cases retries <;> cases after }

end Counted

/-! ## Moves of the workers -/

namespace Counted

/-- The IO worker moves on with what it has taken. -/
theorem moveWorker
    (counted : session.Counted) {pc : IoPc}
    (busy : session.ioWorker ≠ .idle)
    (stays : pc ≠ .idle)
    (receives : pc.receives = session.ioWorker.receives)
    (owns : pc.owns = true → session.ioWorker.owns = true)
    (inside : session.ioWorker = .receiving →
      session.doRecvs .worker = .outside) :
    { session with ioWorker := pc }.Counted :=
  { counted with
    receives := by
      have before := counted.receives
      simp only [Session.receives] at before ⊢
      omega
    completions := by
      have before := counted.completions
      simp only [busy, if_false] at before
      simpa only [stays, if_false] using before
    sendPath := counted.sendPath.mono fun party holds => by
      cases party with
      | caller caller => exact holds
      | flight => exact holds
      | ioWorker => exact owns holds
    worker := by
      intro _
      by_cases receiving : session.ioWorker = .receiving
      · exact inside receiving
      · exact counted.worker receiving }

/-- A step of the IO worker keeps the counts. -/
theorem ioStep
    (counted : session.Counted) {succeeded dropped : Bool}
    (moves : session.ioStep succeeded dropped = some next) :
    next.Counted := by
  have move : ∀ {pc : IoPc}, session.ioWorker ≠ .idle →
      session.ioWorker ≠ .receiving → pc ≠ .idle →
      pc.receives = session.ioWorker.receives →
      (pc.owns = true → session.ioWorker.owns = true) →
      { session with ioWorker := pc }.Counted :=
    fun busy elsewhere stays receives owns =>
      counted.moveWorker busy stays receives owns
        fun receiving => absurd receiving elsewhere
  cases stands : session.ioWorker with
  | idle => simp [Session.ioStep, stands] at moves
  | received generation =>
      simp only [Session.ioStep, stands, Option.some.injEq] at moves
      subst moves
      split
      · exact move (by simp [stands]) (by simp [stands]) (by simp)
          (by rw [stands]; rfl) (by rintro ⟨⟩)
      · split
        all_goals
          exact move (by simp [stands]) (by simp [stands]) (by simp)
            (by rw [stands]; rfl) (by rintro ⟨⟩)
  | delivering generation =>
      have moved : { session with ioWorker := .releasing true }.Counted :=
        move (by simp [stands]) (by simp [stands]) (by simp)
          (by rw [stands]; rfl) (by rintro ⟨⟩)
      simp only [Session.ioStep, stands, Option.some.injEq] at moves
      subst moves
      exact
        { moved with
          logic := by
            have before := counted.logic
            simp only [List.length_append, List.length_singleton]
            omega }
  | releasing again =>
      have ended : ∀ {pc : IoPc}, pc ≠ .idle → pc.receives = 0 →
          pc.owns = false →
          { session with
            outstandingRecvIo := session.outstandingRecvIo - 1
            ioWorker := pc }.Counted := by
        intro pc stays none unowned
        exact
          { counted with
            receives := by
              have before := counted.receives
              simp only [Session.receives, stands, IoPc.receives] at before
              simp only [Session.receives, none]
              omega
            completions := by
              have before := counted.completions
              simpa only [stands, stays, reduceCtorEq, if_false] using before
            sendPath := counted.sendPath.mono fun party holds => by
              cases party with
              | caller caller => exact holds
              | flight => exact holds
              | ioWorker => cases unowned.symm.trans holds
            worker := fun _ => counted.worker (by simp [stands]) }
      have outside := counted.worker (by simp [stands])
      simp only [Session.ioStep, stands, Option.some.injEq] at moves
      subst moves
      cases again with
      | true =>
          have receiving : { session with
              outstandingRecvIo := session.outstandingRecvIo - 1
              ioWorker := .receiving }.Counted :=
            ended (by simp) rfl rfl
          exact receiving.moveRecv (fun _ => rfl)
            (by rw [outside]; rfl) fun _ => rfl
      | false => exact ended (by simp) rfl rfl
  | receiving =>
      simp only [Session.ioStep, stands, Option.ite_none_right_eq_some,
        Option.some.injEq] at moves
      obtain ⟨outside, rfl⟩ := moves
      exact counted.moveWorker (by simp [stands]) (by simp)
        (by rw [stands]; rfl) (by rintro ⟨⟩) fun _ => outside
  | sent generation =>
      simp only [Session.ioStep, stands, Option.some.injEq] at moves
      subst moves
      split
      all_goals
        exact move (by simp [stands]) (by simp [stands]) (by simp)
          (by rw [stands]; rfl) fun _ => by rw [stands]; rfl
  | storing succeeded =>
      have mine : session.Holds .ioWorker := by
        rw [Holds, stands]
        rfl
      have moved : { session with
          ioWorker := if succeeded then .testing else .ending }.Counted :=
        move (by simp [stands]) (by simp [stands])
          (by cases succeeded <;> simp)
          (by rw [stands]; cases succeeded <;> rfl)
          (by cases succeeded <;> rintro ⟨⟩)
      simp only [Session.ioStep, stands, Option.some.injEq] at moves
      subst moves
      exact
        { moved with
          sendPath := counted.sendPath.release mine fun party after => by
            cases party with
            | caller caller => exact ⟨after, by simp⟩
            | flight => exact ⟨after, by simp⟩
            | ioWorker => cases succeeded <;> cases after }
  | testing =>
      simp only [Session.ioStep, stands, Option.some.injEq] at moves
      subst moves
      split
      · exact move (by simp [stands]) (by simp [stands]) (by simp)
          (by rw [stands]; rfl) (by rintro ⟨⟩)
      · have moved : { session with ioWorker := .sending }.Counted :=
          move (by simp [stands]) (by simp [stands]) (by simp)
            (by rw [stands]; rfl) (by rintro ⟨⟩)
        exact moved.moveSend (by rintro ⟨⟩)
  | sending =>
      simp only [Session.ioStep, stands, Option.ite_none_right_eq_some,
        Option.some.injEq] at moves
      obtain ⟨-, rfl⟩ := moves
      exact move (by simp [stands]) (by simp [stands]) (by simp)
        (by rw [stands]; rfl) (by rintro ⟨⟩)
  | ending =>
      simp only [Session.ioStep, stands, Option.some.injEq] at moves
      subst moves
      exact
        { counted with
          receives := by
            have before := counted.receives
            simpa only [Session.receives, stands, IoPc.receives] using before
          completions := by
            have before := counted.completions
            simp only [stands, reduceCtorEq, if_false] at before
            simp [before]
          sendPath := counted.sendPath.mono fun party holds => by
            cases party with
            | caller caller => exact holds
            | flight => exact holds
            | ioWorker => cases holds
          worker := fun _ => counted.worker (by simp [stands]) }

/-- A step of the logic worker keeps the counts. -/
theorem logicStep
    (counted : session.Counted)
    (moves : session.logicStep = some next) :
    next.Counted := by
  have logic := LogicCounted.logicStep counted.logic moves
  obtain ⟨pending, processing, worker, rfl⟩ := logicStep_frame moves
  exact { counted with logic := logic }

/-! ## All moves of the session -/

/-- The threads of a session keep its counts. -/
theorem act
    (counted : session.Counted) {action : Action}
    (moves : session.act action = some next) :
    next.Counted := by
  cases action with
  | recv caller succeeds => exact counted.recvStep moves
  | send caller transmits again => exact counted.sendStep moves
  | io succeeded dropped => exact counted.ioStep moves
  | logic => exact counted.logicStep moves
  | enterSend index =>
      simp only [Session.act, Option.ite_none_right_eq_some,
        Option.some.injEq] at moves
      obtain ⟨-, rfl⟩ := moves
      exact counted.moveSend (by rintro ⟨⟩)
  | completeRecv generation =>
      simp only [Session.act, Option.ite_none_right_eq_some,
        Option.some.injEq] at moves
      obtain ⟨⟨posted, idle⟩, rfl⟩ := moves
      exact
        { counted with
          receives := by
            have before := counted.receives
            have shorter := List.length_erase_of_mem posted
            have positive := List.length_pos_of_mem posted
            simp only [Session.receives, idle, IoPc.receives] at before ⊢
            omega
          completions := by
            have before := counted.completions
            simp [before, idle]
          sendPath := counted.sendPath.mono fun party holds => by
            cases party with
            | caller caller => exact holds
            | flight => exact holds
            | ioWorker => cases holds
          worker := fun _ => counted.worker (by simp [idle]) }
  | completeSend generation =>
      simp only [Session.act, Option.ite_none_right_eq_some,
        Option.some.injEq] at moves
      obtain ⟨⟨flies, idle⟩, rfl⟩ := moves
      have held : session.Holds .flight := List.ne_nil_of_mem flies
      have landed : session.sendsInFlight.erase generation = [] := by
        have shorter := List.length_erase_of_mem flies
        have single := counted.single
        exact List.length_eq_zero_iff.mp (by omega)
      exact
        { counted with
          receives := by
            have before := counted.receives
            simpa only [Session.receives, idle, IoPc.receives] using before
          completions := by
            have before := counted.completions
            simp [before, idle]
          sendPath := counted.sendPath.handOver held .ioWorker
            fun party holds => by
              cases party with
              | caller caller => exact .inl ⟨holds, by simp⟩
              | flight => exact absurd landed holds
              | ioWorker => exact .inr rfl
          single := by simp [landed]
          worker := fun _ => counted.worker (by simp [idle]) }
  | dequeue =>
      have logic := LogicCounted.dequeue counted.logic moves
      simp only [Session.act] at moves
      split at moves
      · simp only [Option.some.injEq] at moves
        subst moves
        exact { counted with logic := logic }
      · cases moves
  | reserve =>
      simp only [Session.act, Option.ite_none_right_eq_some,
        Option.some.injEq] at moves
      obtain ⟨⟨-, outside⟩, rfl⟩ := moves
      have opened : { session with
          place := .inUse
          sessionState := .reserved
          socketOpen := true }.Counted :=
        { counted with closed := by simp }
      exact opened.moveRecv (by simp) (by rw [outside]; rfl) fun _ => rfl
  | acquire | connect | abort =>
      simp only [Session.act, Option.ite_none_right_eq_some,
        Option.some.injEq] at moves
      obtain ⟨-, rfl⟩ := moves
      exact { counted with }
  | disconnect reason =>
      simp only [Session.act, Option.ite_none_right_eq_some,
        Option.some.injEq] at moves
      obtain ⟨-, rfl⟩ := moves
      exact { counted with }
  | releaser =>
      cases stands : session.releaser <;>
        simp only [Session.act, releaserStep, stands, Option.some.injEq,
          reduceCtorEq] at moves <;>
        exact moves ▸ { counted with }

end Counted

end Session

end SessionRelease
end MultiSocketRudp
