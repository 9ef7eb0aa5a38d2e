import MultiSocketRudp.Client.BufferAccounting

/-!
# Conservation of the client's references

`Stop` empties the map and the pending queue, and the threads have freed what they
held.  Nobody empties `sendBufferQueue` and `recvPacketHoldingQueue`, and a call of
`SendPacket` that is not over yet keeps its buffer.
-/

namespace MultiSocketRudp
namespace BufferReferences

open TransitionSystems ReferenceCounting HoldingQueue

variable {state next : State}

/-! ## Where `Stop` stands -/

/-- `JoinThreads` has returned. -/
def Stopper.hasJoined : Stopper → Bool
  | .joined | .cleared | .returned => true
  | .running | .signalling | .closing | .joining => false

/-- Nothing is left that somebody would have to free. -/
structure State.IsEmpty (state : State) : Prop where
  sendPacketInfoMap : state.sendPacketInfoMap = []
  pendingPacketQueue : state.pendingPacketQueue = []
  sendBufferQueue : state.sendBufferQueue = []
  recvPacketHoldingQueue : state.recvPacketHoldingQueue = []
  calls : state.calls.filterMap Call.held = []

/-- What `Stop` finds. -/
structure Stopping (state : State) : Prop where
  started : state.stopper ≠ .running → state.starter = .returned
  processed : state.retransmission = .looping ∨
    state.retransmission = .collecting ∨ state.retransmission = .ended →
      state.retransmitTargets = []
  joined : state.stopper.hasJoined = true →
    state.retransmission = .ended ∧ state.sender = .ended ∧
      state.receiver = .ended
  returned : state.stopper = .returned → state.IsEmpty

/-- What the receive thread and the send thread leave to others. -/
def State.control (state : State) :
    Starter × Stopper × Retransmission × List InfoId :=
  (state.starter, state.stopper, state.retransmission, state.retransmitTargets)

theorem packetStep_control
    {buffer recvPacketBuffer : BufferId} {phase : PacketPhase} {choice : Choice}
    (moves : packetStep state buffer recvPacketBuffer phase choice = some next) :
    next.control = state.control := by
  cases phase with
  | erasing packetSequence =>
      cases choice with
      | next =>
          obtain rfl := Option.some.inj moves
          obtain ⟨buffers, infoPool, liveInfos, map, same⟩ :=
            eraseAcked_frame state packetSequence
          rw [same]
          rfl
      | _ => cases moves
  | _ =>
      simp only [packetStep] at moves
      split at moves
      all_goals
        try split at moves
        all_goals cases moves <;> rfl

theorem receiverStep_control
    {choice : Choice} (moves : receiverStep state choice = some next) :
    next.control = state.control := by
  simp only [receiverStep] at moves
  split at moves
  case h_6 => exact packetStep_control moves
  all_goals
    try split at moves
    all_goals cases moves <;> rfl

theorem senderStep_control (moves : senderStep state = some next) :
    next.control = state.control := by
  simp only [senderStep] at moves
  split at moves
  all_goals
    try split at moves
    all_goals
      try split at moves
      all_goals cases moves <;> rfl

theorem callStep_control
    {call : Call} (moves : callStep state call = some next) :
    next.control = state.control ∧ next.receiver = state.receiver ∧
      next.sender = state.sender := by
  simp only [callStep] at moves
  split at moves
  all_goals
    try split at moves
    all_goals cases moves <;> exact ⟨rfl, rfl, rfl⟩

namespace Stopping

/-- A step before the threads have been joined. -/
theorem unjoined
    (stopping : Stopping state)
    (starter : next.starter = state.starter)
    (stopper : next.stopper = state.stopper)
    (before : state.stopper.hasJoined = false)
    (processed : next.retransmission = .looping ∨
      next.retransmission = .collecting ∨ next.retransmission = .ended →
        next.retransmitTargets = []) :
    Stopping next where
  started := by
    rw [starter, stopper]
    exact stopping.started
  processed := processed
  joined joined := by
    rw [stopper, before] at joined
    cases joined
  returned returned := by
    rw [stopper] at returned
    rw [returned] at before
    cases before

/-- A step of the receive thread or of the send thread before that. -/
theorem ofControl
    (stopping : Stopping state)
    (control : next.control = state.control)
    (before : state.stopper.hasJoined = false) :
    Stopping next := by
  simp only [State.control, Prod.mk.injEq] at control
  obtain ⟨starter, stopper, retransmission, targets⟩ := control
  refine stopping.unjoined starter stopper before ?_
  rw [retransmission, targets]
  exact stopping.processed

/-- A step of a call before `Stop` has returned. -/
theorem unreturned
    (stopping : Stopping state)
    (control : next.control = state.control)
    (receiver : next.receiver = state.receiver)
    (sender : next.sender = state.sender)
    (before : state.stopper ≠ .returned) :
    Stopping next := by
  simp only [State.control, Prod.mk.injEq] at control
  obtain ⟨starter, stopper, retransmission, targets⟩ := control
  exact
    { started := by
        rw [starter, stopper]
        exact stopping.started
      processed := by
        rw [retransmission, targets]
        exact stopping.processed
      joined := by
        rw [stopper, retransmission, receiver, sender]
        exact stopping.joined
      returned := fun returned => absurd (stopper.symm.trans returned) before }

/-- A step of the application, which only takes packets out of
`recvPacketHoldingQueue`. -/
theorem polled
    (stopping : Stopping state)
    {nextRecvPacketSequence : PacketSequence}
    {recvPacketHoldingQueue : List (RecvPacketInfo BufferId)}
    {application : List BufferId} {polling : Bool} {buffers : Pool BufferId}
    (taken : state.recvPacketHoldingQueue = [] → recvPacketHoldingQueue = []) :
    Stopping { state with
      nextRecvPacketSequence, recvPacketHoldingQueue, application, polling,
      buffers } where
  started := stopping.started
  processed := stopping.processed
  joined := stopping.joined
  returned returned :=
    have empty := stopping.returned returned
    { empty with
      recvPacketHoldingQueue := taken empty.recvPacketHoldingQueue }

/-- So does a round of `GetReceivedPacket`. -/
theorem round (stopping : Stopping state) : Stopping (round state) := by
  unfold BufferReferences.round
  split
  next => exact stopping.polled id
  next top rest queued =>
    have notEmpty : state.recvPacketHoldingQueue = [] → rest = [] := by
      rw [queued]
      nofun
    split
    · exact stopping.polled notEmpty
    · split
      · exact stopping.polled id
      · split
        · exact stopping.polled notEmpty
        · exact stopping.polled notEmpty

/-- While a thread runs, it has not been joined. -/
theorem notJoined
    (stopping : Stopping state)
    (runs : ¬ (state.retransmission = .ended ∧ state.sender = .ended ∧
      state.receiver = .ended)) :
    state.stopper.hasJoined = false := by
  rw [← Bool.not_eq_true]
  exact fun joined => runs (stopping.joined joined)

/-- A call that holds a buffer is over before `Stop` returns. -/
theorem notReturned
    (stopping : Stopping state) {call : Call}
    (runs : call ∈ state.calls) (held : call.held = some call.buffer) :
    state.stopper ≠ .returned := by
  intro returned
  have among : call.buffer ∈ state.calls.filterMap Call.held :=
    List.mem_filterMap.mpr ⟨call, runs, held⟩
  rw [(stopping.returned returned).calls] at among
  cases among

/-- A call of `SendPacket` goes on. -/
theorem callStep
    (stopping : Stopping state) {call : Call}
    (runs : call ∈ state.calls)
    (moves : callStep state call = some next) :
    Stopping next := by
  obtain ⟨control, receiver, sender⟩ := callStep_control moves
  cases stands : call.phase with
  | signalling =>
      simp only [BufferReferences.callStep, stands, Option.some.injEq] at moves
      subst moves
      refine { stopping with returned := fun returned => ?_ }
      have empty := stopping.returned returned
      refine { empty with calls := List.eq_nil_iff_forall_not_mem.mpr ?_ }
      intro buffer among
      have before := ((List.erase_sublist).filterMap Call.held).subset among
      rw [empty.calls] at before
      cases before
  | allocated | windowLoaded window | toPending | registering | registered =>
      exact stopping.unreturned control receiver sender
        (stopping.notReturned runs (by simp only [Call.held, stands]))

/-- The retransmission thread leaves the loop over its packets when it has
processed them all. -/
theorem retransmissionStep
    {maxPacketRetransmissionCount : Nat}
    (stopping : Stopping state) {due : List InfoId}
    (moves : retransmissionStep maxPacketRetransmissionCount state due =
      some next) :
    Stopping next := by
  have runs : state.retransmission ≠ .ended := by
    intro ended
    simp [BufferReferences.retransmissionStep, ended] at moves
  have before := stopping.notJoined fun ended => runs ended.1
  cases stands : state.retransmission with
  | looping =>
      simp only [BufferReferences.retransmissionStep, stands,
        Option.some.injEq] at moves
      subst moves
      exact stopping.unjoined rfl rfl before
        fun _ => stopping.processed (.inl stands)
  | collecting =>
      simp only [BufferReferences.retransmissionStep, stands,
        Option.ite_none_right_eq_some, Option.some.injEq] at moves
      obtain ⟨-, rfl⟩ := moves
      exact stopping.unjoined rfl rfl before nofun
  | processing =>
      simp only [BufferReferences.retransmissionStep, stands] at moves
      split at moves
      next targets =>
        obtain rfl := Option.some.inj moves
        exact stopping.unjoined rfl rfl before fun _ => targets
      next info rest targets =>
        obtain rfl := Option.some.inj moves
        exact stopping.unjoined rfl rfl before nofun
  | checking info =>
      simp only [BufferReferences.retransmissionStep, stands,
        Option.some.injEq] at moves
      subst moves
      refine stopping.unjoined rfl rfl before ?_
      dsimp only
      split <;> nofun
  | finding info =>
      simp only [BufferReferences.retransmissionStep, stands] at moves
      split at moves
      next =>
        obtain rfl := Option.some.inj moves
        exact stopping.unjoined rfl rfl before nofun
      next =>
        obtain rfl := Option.some.inj moves
        refine stopping.unjoined rfl rfl before ?_
        dsimp only
        split <;> nofun
  | freeing info =>
      simp only [BufferReferences.retransmissionStep, stands,
        Option.some.injEq] at moves
      subst moves
      obtain ⟨buffers, infoPool, liveInfos, same⟩ := freeInfo_frame
        { state with retransmission := .processing } info
      rw [same]
      exact stopping.unjoined rfl rfl before nofun
  | exceeded info | resending info | signalling info | enqueueing info buffer =>
      simp only [BufferReferences.retransmissionStep, stands,
        Option.some.injEq] at moves
      subst moves
      exact stopping.unjoined rfl rfl before nofun
  | ended => exact absurd stands runs

end Stopping

/-! ## What keeps the account -/

/-- No sequence is registered while the map has it.  When `Stop` returns, the two
queues that it does not empty are empty, nothing has been registered since it has
emptied the map, and no call of `SendPacket` holds a buffer; and none begins after
that. -/
def LeavesNothing (state : State) : Label → Prop
  | .sendPacket => state.stopper ≠ .returned
  | .call call =>
      call.phase = .registering → state.registered call.packetSequence = none
  | .receive .next =>
      match state.receiver with
      | .packet _ _ (.flushRegistering _ entry) =>
          state.registered entry.1 = none
      | _ => True
  | .stop =>
      match state.stopper with
      | .cleared =>
          state.sendPacketInfoMap = [] ∧ state.sendBufferQueue = [] ∧
            state.recvPacketHoldingQueue = [] ∧
            state.calls.filterMap Call.held = []
      | _ => True
  | _ => True

instance (state : State) (label : Label) :
    Decidable (LeavesNothing state label) := by
  unfold LeavesNothing
  split
  · infer_instance
  · infer_instance
  · split <;> infer_instance
  · split <;> infer_instance
  · infer_instance

/-- The account is exact, and `Stop` finds what it expects. -/
structure Kept (state : State) : Prop where
  accounted : Accounted state
  stopping : Stopping state

namespace Kept

/-- A step of `Stop` keeps the account. -/
theorem stopStep
    (kept : Kept state)
    (meets : LeavesNothing state .stop)
    (moves : stopStep state = some next) :
    Kept next := by
  obtain ⟨accounted, stopping⟩ := kept
  cases stands : state.stopper with
  | running =>
      simp only [BufferReferences.stopStep, stands, Option.ite_none_right_eq_some,
        Option.some.injEq] at moves
      obtain ⟨started, rfl⟩ := moves
      exact
        { accounted := accounted.congr rfl rfl (fun _ => rfl)
            fun _ => rfl
          stopping :=
            { started := fun _ => started
              processed := stopping.processed
              joined := by rintro ⟨⟩
              returned := by simp } }
  | signalling | closing =>
      simp only [BufferReferences.stopStep, stands, Option.some.injEq] at moves
      subst moves
      exact
        { accounted := accounted.congr rfl rfl (fun _ => rfl)
            fun _ => rfl
          stopping :=
            { started := fun _ => stopping.started (by rw [stands]; simp)
              processed := stopping.processed
              joined := by rintro ⟨⟩
              returned := by simp } }
  | joining =>
      simp only [BufferReferences.stopStep, stands, Option.ite_none_right_eq_some,
        Option.some.injEq] at moves
      obtain ⟨ended, rfl⟩ := moves
      exact
        { accounted := accounted.congr rfl rfl (fun _ => rfl)
            fun _ => rfl
          stopping :=
            { started := fun _ => stopping.started (by rw [stands]; simp)
              processed := stopping.processed
              joined := fun _ => ended
              returned := by simp } }
  | joined =>
      simp only [BufferReferences.stopStep, stands, Option.some.injEq] at moves
      subst moves
      have cleared := accounted.clearMap
      obtain ⟨buffers, infoPool, liveInfos, same⟩ := foldl_freeInfo_frame state
        (state.sendPacketInfoMap.map Prod.snd)
      rw [same] at cleared ⊢
      exact
        { accounted := cleared.congr rfl rfl (fun _ => rfl)
            fun _ => rfl
          stopping :=
            { started := fun _ => stopping.started (by rw [stands]; simp)
              processed := stopping.processed
              joined := fun _ => stopping.joined (by rw [stands]; rfl)
              returned := by simp } }
  | cleared =>
      simp only [BufferReferences.stopStep, stands, Option.some.injEq] at moves
      simp only [LeavesNothing, stands] at meets
      obtain ⟨map, queued, holding, calls⟩ := meets
      subst moves
      exact
        { accounted :=
            { buffers := accounted.buffers.freeAll rfl fun other => by
                simp only [State.bufferReferences, List.map_nil, List.count_nil]
                omega
              infos := accounted.infos.congr rfl fun _ => rfl }
          stopping :=
            { started := fun _ => stopping.started (by rw [stands]; simp)
              processed := stopping.processed
              joined := fun _ => stopping.joined (by rw [stands]; rfl)
              returned := fun _ => ⟨map, rfl, queued, holding, calls⟩ } }
  | returned => simp [BufferReferences.stopStep, stands] at moves

/-- Every step keeps the account, if it leaves nothing. -/
theorem step
    {maxPacketRetransmissionCount : Nat}
    (kept : Kept state) {label : Label}
    (meets : LeavesNothing state label)
    (moves : (system maxPacketRetransmissionCount).step state label =
      some next) :
    Kept next := by
  have ⟨accounted, stopping⟩ := kept
  cases label with
  | connect =>
      simp only [system, BufferReferences.step, Option.ite_none_right_eq_some,
        Option.some.injEq] at moves
      obtain ⟨launched, rfl⟩ := moves
      have running : state.stopper = .running := by
        by_contra stopped
        exact absurd (launched.symm.trans (stopping.started stopped)) (by simp)
      have begun := accounted.begin 0 fun _ => (rfl :
        (Call.mk _ 0 .registering).held = _)
      exact
        { accounted := begun.congr rfl rfl (fun _ => rfl) fun _ => rfl
          stopping :=
            { started := fun stopped => absurd running stopped
              processed := stopping.processed
              joined := fun joined => by
                change state.stopper.hasJoined = true at joined
                rw [running] at joined
                cases joined
              returned := fun returned => by
                change state.stopper = .returned at returned
                rw [running] at returned
                cases returned } }
  | startReturns =>
      have returns : Kept { state with starter := .returned } :=
        { accounted := accounted.congr rfl rfl (fun _ => rfl)
            fun _ => rfl
          stopping :=
            { stopping with
              started := fun _ => rfl
              returned := fun returned => { stopping.returned returned with } } }
      simp only [system, BufferReferences.step] at moves
      split at moves
      next =>
        obtain rfl := Option.some.inj moves
        exact returns
      next =>
        simp only [Option.ite_none_right_eq_some, Option.some.injEq] at moves
        obtain ⟨-, rfl⟩ := moves
        exact returns
      next => cases moves
  | sendPacket =>
      obtain rfl := Option.some.inj moves
      have begun := accounted.begin (state.lastSendPacketSequence + 1)
        fun _ => (rfl : (Call.mk _ _ .allocated).held = _)
      exact
        { accounted := begun.congr rfl rfl (fun _ => rfl) fun _ => rfl
          stopping := stopping.unreturned rfl rfl rfl meets }
  | call call =>
      obtain ⟨runs, moves⟩ := Option.ite_none_right_eq_some.mp moves
      exact ⟨accounted.callStep runs meets moves, stopping.callStep runs moves⟩
  | callFails call =>
      simp only [system, BufferReferences.step, Option.ite_none_right_eq_some,
        Option.some.injEq] at moves
      obtain ⟨⟨runs, stands⟩, rfl⟩ := moves
      exact
        { accounted := accounted.callFails runs stands
          stopping := stopping.unreturned rfl rfl rfl
            (stopping.notReturned runs (by simp only [Call.held, stands])) }
  | getReceivedPacket =>
      simp only [system, BufferReferences.step, Option.ite_none_right_eq_some,
        Option.some.injEq] at moves
      obtain ⟨-, rfl⟩ := moves
      exact
        { accounted := accounted.congr rfl rfl (fun _ => rfl)
            fun _ => rfl
          stopping := stopping.polled id }
  | round =>
      simp only [system, BufferReferences.step, Option.ite_none_right_eq_some,
        Option.some.injEq] at moves
      obtain ⟨-, rfl⟩ := moves
      exact ⟨accounted.round, stopping.round⟩
  | applicationFrees buffer =>
      simp only [system, BufferReferences.step, Option.ite_none_right_eq_some,
        Option.some.injEq] at moves
      obtain ⟨received, rfl⟩ := moves
      exact ⟨accounted.applicationFrees received, stopping.polled id⟩
  | receive choice =>
      change receiverStep state choice = some next at moves
      have runs : state.receiver ≠ .ended := by
        intro ended
        simp [BufferReferences.receiverStep, ended] at moves
      refine ⟨accounted.receiverStep ?_ moves,
        stopping.ofControl (receiverStep_control moves)
          (stopping.notJoined fun ended => runs ended.2.2)⟩
      intro buffer recvPacketBuffer window entry stands chosen
      subst chosen
      simpa only [LeavesNothing, stands] using meets
  | send =>
      change senderStep state = some next at moves
      have runs : state.sender ≠ .ended := by
        intro ended
        simp [BufferReferences.senderStep, ended] at moves
      exact ⟨accounted.senderStep moves,
        stopping.ofControl (senderStep_control moves)
          (stopping.notJoined fun ended => runs ended.2.1)⟩
  | retransmit due =>
      exact ⟨accounted.retransmissionStep
          (fun collecting => stopping.processed (.inr (.inl collecting))) moves,
        stopping.retransmissionStep moves⟩
  | stop => exact kept.stopStep meets moves

/-- When `Stop` has returned nothing else refers to anything. -/
theorem referencesConserved (kept : Kept state) : ReferencesConserved state := by
  obtain ⟨accounted, stopping⟩ := kept
  refine ⟨accounted.buffers.conserved, accounted.infos.ledger.conserved,
    accounted.infos.live, fun returned => ?_⟩
  obtain ⟨map, pending, queued, holding, calls⟩ := stopping.returned returned
  obtain ⟨retransmission, sender, receiver⟩ :=
    stopping.joined (by rw [returned]; rfl)
  have targets := stopping.processed (.inr (.inr retransmission))
  have unreferred (info : InfoId) : state.infoReferences info = 0 := by
    simp [State.infoReferences, map, targets, retransmission, Retransmission.info]
  have dead : state.liveInfos = [] := by
    refine List.eq_nil_iff_forall_not_mem.mpr fun info live => ?_
    have counted := accounted.infos.live info
    rw [if_pos (unreferred info)] at counted
    exact absurd (List.count_pos_iff.mpr live) (by omega)
  refine ⟨fun buffer => ?_, unreferred⟩
  simp [State.bufferReferences, dead, pending, queued, holding, calls, receiver,
    sender, retransmission, Receiver.held, Sender.held, Retransmission.held]

/-- Nobody refers to anything before the receive thread begins. -/
theorem initial : Kept {} where
  accounted :=
    { buffers := .empty
      infos := ⟨.empty, fun _ => rfl⟩ }
  stopping :=
    { started := fun stopped => absurd rfl stopped
      processed := fun _ => rfl
      joined := nofun
      returned := nofun }

end Kept

/-! ## Main results -/

/-- A client connects, and receives and acknowledges a packet. -/
def receivedSchedule : List Label :=
  [.receive .next, .connect, .call ⟨1, 0, .registering⟩,
    .call ⟨1, 0, .registered⟩, .call ⟨1, 0, .signalling⟩, .startReturns, .send,
    .send, .send, .send, .receive .datagram, .receive .another,
    .receive (.replied 0 1), .receive .next, .receive .next, .receive .next,
    .receive .next, .receive .next, .receive .datagram, .receive .another,
    .receive (.received 1 .sendType), .receive .next, .receive .next,
    .receive .next, .receive .next, .receive .next, .receive .next, .send, .send,
    .send, .send]

/-- The application takes the packet and sends two, of which one is retransmitted
and the other one has to wait. -/
def sentSchedule : List Label :=
  [.getReceivedPacket, .round, .sendPacket, .call ⟨5, 1, .allocated⟩,
    .call ⟨5, 1, .windowLoaded 1⟩, .call ⟨5, 1, .registering⟩,
    .call ⟨5, 1, .registered⟩, .call ⟨5, 1, .signalling⟩, .sendPacket,
    .call ⟨6, 2, .allocated⟩, .call ⟨6, 2, .windowLoaded 1⟩,
    .call ⟨6, 2, .toPending⟩, .retransmit [], .retransmit [1], .retransmit [],
    .retransmit [], .retransmit [], .retransmit [], .retransmit [],
    .retransmit [], .retransmit [], .retransmit []]

/-- `Stop` while nothing waits for the send thread. -/
def stopSchedule : List Label :=
  [.stop, .stop, .stop, .send, .send, .retransmit [], .receive .next, .stop,
    .stop, .stop]

/-- The send thread frees two packets before it finds the stop event. -/
def drainedStopSchedule : List Label :=
  [.stop, .stop, .stop, .send, .send, .send, .send, .send, .send, .send, .send,
    .retransmit [], .receive .next, .stop, .stop, .stop]

def receivedState : State :=
  ((system 16).guardedRun LeavesNothing {} receivedSchedule).getD {}

def sentState : State :=
  ((system 16).guardedRun LeavesNothing receivedState sentSchedule).getD {}

def conservedState : State :=
  ((system 16).guardedRun LeavesNothing sentState drainedStopSchedule).getD {}

theorem receivedState_reached :
    (system 16).GuardedReachable LeavesNothing receivedState :=
  .guardedRun (.initial rfl)
    (show (system 16).guardedRun LeavesNothing {} receivedSchedule =
      some receivedState from rfl)

/-- `Stop` while the application has not taken a packet. -/
def leakedState : State :=
  ((system 16).run receivedState stopSchedule).getD {}

end BufferReferences
end MultiSocketRudp
