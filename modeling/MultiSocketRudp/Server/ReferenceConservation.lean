import MultiSocketRudp.Server.ReferenceCounts

/-!
# Conservation of references

Every step moves, adds or drops references together with the counts, with one
exception: `SetReservedSendPacketInfo` overwrites the reserved slot.  One call of
`MakeSendStream` at a time finds the slot empty, because it has taken the packet
out of it; a second one at the same time loses the packet of the first.
-/

namespace MultiSocketRudp
namespace ReferenceCounts

open TransitionSystems ReferenceCounting

/-- The reserved slot is empty when a packet is put into it. -/
def SlotIsFree (state : State) : Label → Prop
  | .stream _ .reserve => state.reservedSendPacketInfo = none
  | _ => True

instance (state : State) (label : Label) : Decidable (SlotIsFree state label) := by
  unfold SlotIsFree
  split <;> infer_instance

/-! ## References that a step moves -/

namespace State

variable {state : State}

/-- A call of `SendPacketImmediate` keeps its reference while it moves on. -/
theorem references_setCall
    {call : Call} (runs : call ∈ state.calls) (phase : CallPhase) :
    (state.setCall call phase).references = state.references := by
  funext other
  have moved := count_map_erase Call.packet runs other
  simp only [references, setCall, List.map_cons, count_cons]
  omega

/-- A call of `MakeSendStream` moves on with another reference. -/
theorem references_setStream
    {stream : Stream} (runs : stream ∈ state.streams) (phase : StreamPhase)
    (other : PacketId) :
    (state.setStream stream phase).references other +
        stream.phase.held.toList.count other =
      state.references other + phase.held.toList.count other := by
  have moved := count_filterMap_erase (fun stream => stream.phase.held) runs
    other
  simp only [references, setStream, List.filterMap_cons]
  cases held : phase.held with
  | none =>
      simp only [Option.toList_none, List.count_nil]
      omega
  | some packet =>
      simp only [Option.toList_some, count_cons, List.count_nil]
      omega

/-- A call of `MakeSendStream` ends and drops its reference. -/
theorem references_endStream
    {stream : Stream} (runs : stream ∈ state.streams) (pc : SendPc)
    (other : PacketId) :
    (state.endStream stream pc).references other +
        stream.phase.held.toList.count other =
      state.references other := by
  have moved := count_filterMap_erase (fun stream => stream.phase.held) runs
    other
  simp only [references, endStream, setSend]
  omega

/-- The retransmission thread moves on with another reference. -/
theorem references_setRetransmission
    (state : State) (phase : RetransmissionPhase) (other : PacketId) :
    (state.setRetransmission phase).references other +
        state.retransmission.held.toList.count other =
      state.references other + phase.held.toList.count other := by
  simp only [references, setRetransmission]
  omega

/-- A call of `SendPacketImmediate` refers to its packet. -/
theorem references_of_call
    {call : Call} (runs : call ∈ state.calls) :
    state.references call.packet ≠ 0 := by
  have positive : 0 < (state.calls.map Call.packet).count call.packet :=
    List.count_pos_iff.mpr (List.mem_map_of_mem runs)
  unfold references
  omega

/-- A call of `MakeSendStream` refers to the packet that it holds. -/
theorem references_of_stream
    {stream : Stream} {packet : PacketId}
    (runs : stream ∈ state.streams)
    (held : stream.phase.held = some packet) :
    state.references packet ≠ 0 := by
  have positive : 0 < (state.streams.filterMap
      fun stream => stream.phase.held).count packet :=
    List.count_pos_iff.mpr (List.mem_filterMap.mpr ⟨stream, runs, held⟩)
  unfold references
  omega

/-- So does the retransmission thread. -/
theorem references_of_retransmission
    {packet : PacketId}
    (held : state.retransmission.held = some packet) :
    state.references packet ≠ 0 := by
  unfold references
  rw [held, Option.toList_some, count_cons, point_self]
  omega

@[simp] theorem calls_insertSendPacketInfo
    (state : State) (packet : PacketId) :
    (state.insertSendPacketInfo packet).calls = state.calls := by
  unfold insertSendPacketInfo
  dsimp only
  split
  · rfl
  · split <;> rfl

@[simp] theorem calls_eraseSendPacketInfo
    (state : State) (packet : PacketId) :
    (state.eraseSendPacketInfo packet).calls = state.calls := by
  unfold eraseSendPacketInfo
  split
  · rfl
  · split <;> rfl

/-- The entry found in the map is one of the map. -/
theorem mem_of_registered
    {packetSequence : PacketSequence} {entry : PacketSequence × PacketId}
    (found : state.registered packetSequence = some entry) :
    entry ∈ state.sendPacketInfoMap :=
  List.mem_of_find?_eq_some found

end State

/-- The counts are exact and no packet is made twice. -/
structure Accounted (state : State) : Prop where
  conserved : ReferencesConserved state
  fresh : ∀ packet, state.packetsMade ≤ packet →
    state.pool.made packet = false

namespace Accounted

variable {state next : State}

theorem ledger
    (accounted : Accounted state) :
    Ledger state.pool state.packetsMade state.references :=
  ⟨accounted.conserved, accounted.fresh⟩

theorem of_ledger
    {pool : Pool PacketId} {packetsMade : Nat}
    (ledger : Ledger pool packetsMade next.references)
    (samePool : next.pool = pool)
    (sameMade : next.packetsMade = packetsMade) :
    Accounted next := by
  subst samePool sameMade
  exact ⟨ledger.conserved, ledger.fresh⟩

/-- A step that leaves pool and references alone keeps the account. -/
theorem congr
    (accounted : Accounted state)
    (pool : next.pool = state.pool)
    (packetsMade : next.packetsMade = state.packetsMade)
    (references : ∀ other, next.references other = state.references other) :
    Accounted next :=
  of_ledger (accounted.ledger.move references) pool packetsMade

/-- A reference is dropped and freed. -/
theorem freed
    (accounted : Accounted state) {packet : PacketId}
    (pool : next.pool = state.pool)
    (packetsMade : next.packetsMade = state.packetsMade)
    (references : ∀ other,
      state.references other = next.references other + point packet other) :
    Accounted (next.free packet) := by
  have freed : (next.free packet).pool = state.pool.free packet := by
    rw [State.free, pool]
  exact of_ledger (accounted.ledger.free references) freed packetsMade

/-- Several references are dropped and freed. -/
theorem freedAll
    (accounted : Accounted state) {packets : List PacketId}
    (pool : next.pool = state.pool.freeAll packets)
    (packetsMade : next.packetsMade = state.packetsMade)
    (references : ∀ other,
      state.references other = next.references other + packets.count other) :
    Accounted next :=
  of_ledger (accounted.ledger.freeAll references) pool packetsMade

/-- A reference is counted and put somewhere. -/
theorem added
    (accounted : Accounted state) {packet : PacketId}
    (referred : state.references packet ≠ 0)
    (pool : next.pool = state.pool.add packet)
    (packetsMade : next.packetsMade = state.packetsMade)
    (references : ∀ other,
      next.references other = state.references other + point packet other) :
    Accounted next :=
  of_ledger (accounted.ledger.add referred references) pool packetsMade

/-! ## Calls of `SendPacketImmediate` -/

/-- A call moves on. -/
theorem setCall
    (accounted : Accounted state) {call : Call}
    (runs : call ∈ state.calls) (phase : CallPhase) :
    Accounted (state.setCall call phase) :=
  accounted.congr rfl rfl
    (congrFun (State.references_setCall runs phase))

/-- The map refers to what is inserted. -/
theorem insert
    (accounted : Accounted state) {packet : PacketId}
    (referred : state.references packet ≠ 0) :
    Accounted (state.insertSendPacketInfo packet) := by
  unfold State.insertSendPacketInfo
  dsimp only
  split
  · exact accounted
  · split
    · exact accounted
    · refine accounted.added referred rfl rfl fun other => ?_
      simp only [State.references, State.addRefCount, List.map_cons,
        count_cons]
      omega

/-- The map gives up its reference to what is erased. -/
theorem erase
    (accounted : Accounted state) (packet : PacketId) :
    Accounted (state.eraseSendPacketInfo packet) := by
  unfold State.eraseSendPacketInfo
  split
  · exact accounted
  · split
    · exact accounted
    · next entry found =>
      refine accounted.freed rfl rfl fun other => ?_
      have taken := count_map_erase Prod.snd (State.mem_of_registered found)
        other
      simp only [State.references]
      omega

/-- The queue refers to what is pushed. -/
theorem push
    (accounted : Accounted state) {packet : PacketId}
    (referred : state.references packet ≠ 0) (caller : SendCaller) :
    Accounted (state.pushSendPacketInfo caller packet) := by
  refine accounted.added referred rfl rfl fun other => ?_
  simp only [State.references, State.pushSendPacketInfo, State.addRefCount,
    State.setSend, List.count_append, count_cons, List.count_nil]
  omega

/-- A call of `SendPacketImmediate` keeps the account. -/
theorem callStep
    (accounted : Accounted state) {call : Call}
    (runs : call ∈ state.calls)
    (moves : state.callStep call = some next) :
    Accounted next := by
  have referred := State.references_of_call runs
  cases stands : call.phase with
  | created =>
      simp only [State.callStep, stands, Option.some.injEq] at moves
      subst moves
      refine (accounted.insert referred).setCall ?_ _
      rwa [State.calls_insertSendPacketInfo]
  | inserted | validated =>
      simp only [State.callStep, stands, Option.some.injEq] at moves
      subst moves
      exact accounted.setCall runs _
  | ready =>
      simp only [State.callStep, stands, Option.some.injEq] at moves
      subst moves
      exact (accounted.push referred _).setCall runs _
  | sending =>
      simp only [State.callStep, stands] at moves
      split at moves
      · simp only [Option.some.injEq] at moves
        subst moves
        have returned : Accounted
            (state.setSend (.call call.packet) .outside) :=
          accounted.congr rfl rfl fun _ => rfl
        exact returned.setCall runs _
      · cases moves
  | failed =>
      simp only [State.callStep, stands, Option.ite_none_right_eq_some,
        Option.some.injEq] at moves
      obtain ⟨-, rfl⟩ := moves
      have marked : Accounted (state.markErased call.packet) :=
        accounted.congr rfl rfl fun _ => rfl
      exact marked.setCall runs _
  | marked =>
      simp only [State.callStep, stands, Option.some.injEq] at moves
      subst moves
      refine (accounted.erase call.packet).setCall ?_ _
      rwa [State.calls_eraseSendPacketInfo]
  | freeing =>
      simp only [State.callStep, stands, Option.some.injEq] at moves
      subst moves
      refine accounted.freed rfl rfl fun other => ?_
      have taken := count_map_erase Call.packet runs other
      simp only [State.references]
      omega

/-! ## Calls of `DoSend` -/

/-- `DoSend` itself holds no reference. -/
theorem sendStep
    (accounted : Accounted state) {caller : SendCaller} {choice : SendChoice}
    (moves : state.sendStep caller choice = some next) :
    Accounted next := by
  cases stands : state.doSends caller with
  | outside => simp [State.sendStep, stands] at moves
  | returned result => simp [State.sendStep, stands] at moves
  | streaming => simp [State.sendStep, stands] at moves
  | entering | testing | releasing after | rechecking =>
      simp only [State.sendStep, stands, Option.some.injEq] at moves
      subst moves
      exact accounted.congr rfl rfl fun _ => rfl
  | contending =>
      simp only [State.sendStep, stands, Option.some.injEq] at moves
      subst moves
      split <;> exact accounted.congr rfl rfl fun _ => rfl
  | looking =>
      simp only [State.sendStep, stands, Option.some.injEq] at moves
      subst moves
      split
      · exact accounted.congr rfl rfl fun _ => rfl
      · split <;> exact accounted.congr rfl rfl fun _ => rfl
  | built =>
      simp only [State.sendStep, stands] at moves
      split at moves
      · simp only [Option.some.injEq] at moves
        subst moves
        exact accounted.congr rfl rfl fun _ => rfl
      · simp only [Option.some.injEq] at moves
        subst moves
        exact accounted.congr rfl rfl fun _ => rfl
      · cases moves

/-! ## Calls of `MakeSendStream` -/

/-- A call that keeps its packet moves on. -/
theorem setStream
    (accounted : Accounted state) {stream : Stream}
    (runs : stream ∈ state.streams) {phase : StreamPhase}
    (same : phase.held = stream.phase.held) :
    Accounted (state.setStream stream phase) := by
  refine accounted.congr rfl rfl fun other => ?_
  have moved := State.references_setStream runs phase other
  rw [same] at moved
  omega

theorem doDisconnect
    (accounted : Accounted state) :
    Accounted state.doDisconnect := by
  unfold State.doDisconnect
  split
  · exact accounted.congr rfl rfl fun _ => rfl
  · exact accounted

/-- The heap refers to what is scheduled. -/
theorem schedule
    (accounted : Accounted state) {packet : PacketId}
    (referred : state.references packet ≠ 0) :
    Accounted (state.pushRetransmissionSchedule packet) := by
  refine accounted.added referred rfl rfl fun other => ?_
  simp only [State.references, State.pushRetransmissionSchedule,
    State.addRefCount, List.map_cons, count_cons]
  omega

/-- A call with a packet in hand keeps the account, if the slot is empty when it
puts the packet there. -/
theorem takenStep
    (accounted : Accounted state) {stream : Stream}
    (runs : stream ∈ state.streams)
    {packet : PacketId} {reserved : Bool} {choice : StreamChoice}
    (stands : stream.phase = .taken packet reserved)
    (free : choice = .reserve → state.reservedSendPacketInfo = none)
    (moves : state.takenStep stream packet reserved choice = some next) :
    Accounted next := by
  have held : ∀ goesOn, (StreamPhase.freeing packet goesOn).held =
      stream.phase.held := by
    rw [stands]
    exact fun _ => rfl
  cases choice with
  | stop => cases moves
  | duplicate =>
      simp only [State.takenStep, Option.ite_none_left_eq_some,
        Option.some.injEq] at moves
      obtain ⟨-, rfl⟩ := moves
      exact accounted.setStream runs (held _)
  | oversize =>
      simp only [State.takenStep, Option.some.injEq] at moves
      subst moves
      refine accounted.doDisconnect.setStream ?_ (held _)
      unfold State.doDisconnect
      split <;> exact runs
  | next =>
      simp only [State.takenStep, Option.some.injEq] at moves
      subst moves
      split
      · exact accounted.setStream runs (held _)
      · exact accounted.setStream runs (by rw [stands]; rfl)
  | reserve =>
      simp only [State.takenStep, Option.ite_none_left_eq_some,
        Option.some.injEq] at moves
      obtain ⟨-, rfl⟩ := moves
      refine accounted.congr rfl rfl fun other => ?_
      have dropped := State.references_endStream runs .built other
      rw [stands] at dropped
      simp only [State.references, State.endStream, State.setSend,
        free rfl, StreamPhase.held, Option.toList_some, Option.toList_none,
        count_cons, List.count_nil] at dropped ⊢
      omega

/-- A call of `MakeSendStream` keeps the account, if the slot is empty when it
puts a packet there. -/
theorem streamStep
    (accounted : Accounted state) {stream : Stream} {choice : StreamChoice}
    (runs : stream ∈ state.streams)
    (free : choice = .reserve → state.reservedSendPacketInfo = none)
    (moves : state.streamStep stream choice = some next) :
    Accounted next := by
  cases stands : stream.phase with
  | starting =>
      simp only [State.streamStep, stands, Option.some.injEq] at moves
      subst moves
      split
      · exact accounted.setStream runs (by rw [stands]; rfl)
      · next packet reserved =>
        refine accounted.congr rfl rfl fun other => ?_
        have moved := State.references_setStream runs (.taken packet true)
          other
        simp only [State.references, State.setStream, stands, reserved,
          StreamPhase.held, Option.toList_some, Option.toList_none,
          count_cons, List.count_nil] at moved ⊢
        omega
  | looping =>
      simp only [State.streamStep, stands, Option.some.injEq] at moves
      subst moves
      split
      · refine accounted.congr rfl rfl fun other => ?_
        have dropped := State.references_endStream runs .built other
        rw [stands] at dropped
        exact dropped
      · split
        · exact accounted.setStream runs (by rw [stands])
        · next packet queue queued =>
          refine accounted.congr rfl rfl fun other => ?_
          have moved := State.references_setStream runs (.taken packet false)
            other
          simp only [State.references, State.setStream, stands, queued,
            StreamPhase.held, Option.toList_some, Option.toList_none,
            count_cons, List.count_nil] at moved ⊢
          omega
  | taken packet reserved =>
      simp only [State.streamStep, stands] at moves
      exact accounted.takenStep runs stands free moves
  | refreshing packet =>
      have held : stream.phase.held = some packet := by
        rw [stands]
        rfl
      have referred := State.references_of_stream runs held
      simp only [State.streamStep, stands, Option.ite_none_right_eq_some,
        Option.some.injEq] at moves
      obtain ⟨-, rfl⟩ := moves
      split
      · exact accounted.setStream runs held.symm
      · exact (accounted.schedule referred).setStream runs held.symm
  | freeing packet goesOn =>
      simp only [State.streamStep, stands, Option.some.injEq] at moves
      subst moves
      split
      · refine accounted.freed rfl rfl fun other => ?_
        have moved := State.references_setStream runs .looping other
        rw [stands] at moved
        simp only [StreamPhase.held, Option.toList_some, Option.toList_none,
          count_cons, List.count_nil] at moved
        omega
      · refine accounted.freed rfl rfl fun other => ?_
        have dropped := State.references_endStream runs
          (.releasing (.return false)) other
        rw [stands] at dropped
        simp only [StreamPhase.held, Option.toList_some, count_cons,
          List.count_nil] at dropped
        omega

/-! ## The retransmission thread -/

/-- The thread keeps its packet. -/
theorem setRetransmission
    (accounted : Accounted state) {phase : RetransmissionPhase}
    (same : phase.held = state.retransmission.held) :
    Accounted (state.setRetransmission phase) := by
  refine accounted.congr rfl rfl fun other => ?_
  have moved := state.references_setRetransmission phase other
  rw [same] at moved
  omega

/-- The thread frees its packet. -/
theorem freeRetransmission
    (accounted : Accounted state) {packet : PacketId}
    (held : state.retransmission.held = some packet) :
    Accounted ((state.setRetransmission .processing).free packet) := by
  refine accounted.freed rfl rfl fun other => ?_
  have moved := state.references_setRetransmission .processing other
  rw [held, show RetransmissionPhase.processing.held = none from rfl] at moved
  simp only [Option.toList_some, Option.toList_none, count_cons,
    List.count_nil] at moved
  omega

/-- `ProcessRetransmission` keeps the account on every way out. -/
theorem retransmissionStep
    (accounted : Accounted state) {exceeded : Bool}
    (moves : state.retransmissionStep exceeded = some next) :
    Accounted next := by
  cases stands : state.retransmission with
  | waiting => simp [State.retransmissionStep, stands] at moves
  | collecting => simp [State.retransmissionStep, stands] at moves
  | processing => simp [State.retransmissionStep, stands] at moves
  | stopped => simp [State.retransmissionStep, stands] at moves
  | checking packet =>
      simp only [State.retransmissionStep, stands] at moves
      split at moves
      · simp only [Option.some.injEq] at moves
        subst moves
        exact accounted.freeRetransmission (by rw [stands]; rfl)
      · simp only [Option.some.injEq] at moves
        subst moves
        refine accounted.setRetransmission ?_
        rw [stands]
        split <;> rfl
  | exceeded packet | failing packet =>
      simp only [State.retransmissionStep, stands, Option.some.injEq] at moves
      subst moves
      split
      · refine accounted.doDisconnect.setRetransmission ?_
        unfold State.doDisconnect
        split
        all_goals
          change _ = state.retransmission.held
          rw [stands]
          rfl
      · exact accounted.setRetransmission (by rw [stands]; rfl)
  | calling packet | validated packet =>
      simp only [State.retransmissionStep, stands, Option.some.injEq] at moves
      subst moves
      refine accounted.setRetransmission ?_
      rw [stands]
      split <;> rfl
  | ready packet =>
      have referred := State.references_of_retransmission
        (show state.retransmission.held = some packet by rw [stands]; rfl)
      simp only [State.retransmissionStep, stands, Option.some.injEq] at moves
      subst moves
      refine (accounted.push referred _).setRetransmission ?_
      change _ = state.retransmission.held
      rw [stands]
      rfl
  | sending packet =>
      simp only [State.retransmissionStep, stands] at moves
      split at moves
      · simp only [Option.some.injEq] at moves
        subst moves
        have returned : Accounted (state.setSend .retransmission .outside) :=
          accounted.congr rfl rfl fun _ => rfl
        refine returned.setRetransmission ?_
        change _ = state.retransmission.held
        rw [stands]
        split <;> rfl
      · cases moves
  | freeing packet =>
      simp only [State.retransmissionStep, stands, Option.some.injEq] at moves
      subst moves
      exact accounted.freeRetransmission (by rw [stands]; rfl)

/-! ## Completion and release -/

/-- The completion of sends holds no reference. -/
theorem completionStep
    (accounted : Accounted state) {succeeded : Bool}
    (moves : state.completionStep succeeded = some next) :
    Accounted next := by
  cases stands : state.completion with
  | waiting => simp [State.completionStep, stands] at moves
  | dequeued generation =>
      simp only [State.completionStep, stands, Option.some.injEq] at moves
      subst moves
      exact accounted.congr rfl rfl fun _ => rfl
  | storing =>
      simp only [State.completionStep, stands, Option.some.injEq] at moves
      subst moves
      exact accounted.congr rfl rfl fun _ => rfl
  | testing =>
      simp only [State.completionStep, stands, Option.some.injEq] at moves
      subst moves
      split <;> exact accounted.congr rfl rfl fun _ => rfl
  | sending =>
      simp only [State.completionStep, stands] at moves
      split at moves
      · simp only [Option.some.injEq] at moves
        subst moves
        exact accounted.congr rfl rfl fun _ => rfl
      · cases moves

/-- The release frees what it takes out of the map, the queue and the reserved
slot. -/
theorem releaseStep
    (accounted : Accounted state)
    (moves : state.releaseStep = some next) :
    Accounted next := by
  cases stands : state.stage
  case pooled | handedOut | reserved | connected =>
    simp [State.releaseStep, stands] at moves
  case receivesDrained =>
    simp only [State.releaseStep, stands, Option.ite_none_right_eq_some,
      Option.some.injEq] at moves
    obtain ⟨-, rfl⟩ := moves
    exact accounted.congr rfl rfl fun _ => rfl
  case cleaned =>
    simp only [State.releaseStep, stands, Option.ite_none_right_eq_some,
      Option.some.injEq] at moves
    obtain ⟨-, rfl⟩ := moves
    refine accounted.freedAll rfl rfl fun other => ?_
    simp only [State.references, State.clearSendPacketInfoMap, State.setStage,
      List.map_nil, List.count_nil]
    omega
  case sequenceReset =>
    simp only [State.releaseStep, stands, Option.some.injEq] at moves
    subst moves
    refine accounted.freedAll rfl rfl fun other => ?_
    simp only [State.references, State.clearSendPacketInfoQueue,
      State.setStage, Option.toList_none, List.count_nil, List.count_append]
    omega
  all_goals
    simp only [State.releaseStep, stands, Option.some.injEq] at moves
    subst moves
    exact accounted.congr rfl rfl fun _ => rfl

/-! ## All steps -/

/-- Every step keeps the account, if the slot is empty when a packet is put into
it. -/
theorem step
    (accounted : Accounted state) {label : Label}
    (free : SlotIsFree state label)
    (moves : system.step state label = some next) :
    Accounted next := by
  change ReferenceCounts.step state label = some next at moves
  cases label with
  | acquire | reserve | connect =>
      simp only [ReferenceCounts.step, Option.ite_none_right_eq_some,
        Option.some.injEq] at moves
      obtain ⟨-, rfl⟩ := moves
      exact accounted.congr rfl rfl fun _ => rfl
  | disconnect =>
      simp only [ReferenceCounts.step, Option.some.injEq] at moves
      subst moves
      exact accounted.doDisconnect
  | release => exact accounted.releaseStep moves
  | make packetSequence isReplyType =>
      simp only [ReferenceCounts.step, Option.some.injEq] at moves
      subst moves
      refine of_ledger (accounted.ledger.make fun other => ?_) rfl rfl
      simp only [State.references, State.make, List.map_cons, count_cons]
      omega
  | call call =>
      obtain ⟨runs, moves⟩ := Option.ite_none_right_eq_some.mp moves
      exact accounted.callStep runs moves
  | ackErase packetSequence =>
      simp only [ReferenceCounts.step] at moves
      split at moves
      · cases moves
      · next entry found =>
        simp only [Option.some.injEq] at moves
        subst moves
        refine accounted.congr rfl rfl fun other => ?_
        have taken := count_map_erase Prod.snd
          (State.mem_of_registered found) other
        simp only [State.references, count_cons]
        omega
  | ackMark packet =>
      simp only [ReferenceCounts.step, Option.ite_none_right_eq_some,
        Option.some.injEq] at moves
      obtain ⟨-, rfl⟩ := moves
      exact accounted.congr rfl rfl fun _ => rfl
  | ackFree packet =>
      simp only [ReferenceCounts.step, Option.ite_none_right_eq_some,
        Option.some.injEq] at moves
      obtain ⟨⟨taken, -⟩, rfl⟩ := moves
      refine accounted.freed rfl rfl fun other => ?_
      have given := count_map_erase id taken other
      simp only [List.map_id, id] at given
      simp only [State.references]
      omega
  | send caller choice => exact accounted.sendStep moves
  | stream stream choice =>
      obtain ⟨runs, moves⟩ := Option.ite_none_right_eq_some.mp moves
      refine accounted.streamStep runs ?_ moves
      rintro rfl
      exact free
  | collect | stopCollecting =>
      simp only [ReferenceCounts.step, Option.ite_none_right_eq_some,
        Option.some.injEq] at moves
      obtain ⟨stands, rfl⟩ := moves
      exact accounted.setRetransmission (by rw [stands]; rfl)
  | popStale entry =>
      simp only [ReferenceCounts.step, Option.ite_none_right_eq_some,
        Option.some.injEq] at moves
      obtain ⟨⟨-, member, -⟩, rfl⟩ := moves
      refine accounted.freed rfl rfl fun other => ?_
      have taken := count_map_erase HeapEntry.info member other
      simp only [State.references]
      omega
  | popDue entry =>
      simp only [ReferenceCounts.step, Option.ite_none_right_eq_some,
        Option.some.injEq] at moves
      obtain ⟨⟨-, member, -⟩, rfl⟩ := moves
      refine accounted.congr rfl rfl fun other => ?_
      have taken := count_map_erase HeapEntry.info member other
      simp only [State.references, List.count_append, count_cons,
        List.count_nil]
      omega
  | takeDue =>
      simp only [ReferenceCounts.step] at moves
      split at moves
      · next packet dueList stands due =>
        simp only [Option.some.injEq] at moves
        subst moves
        refine accounted.congr rfl rfl fun other => ?_
        have moved := state.references_setRetransmission (.checking packet)
          other
        rw [stands] at moved
        simp only [State.references, State.setRetransmission, due,
          RetransmissionPhase.held, Option.toList_some, Option.toList_none,
          count_cons, List.count_nil] at moved ⊢
        omega
      · cases moves
  | finishDue =>
      simp only [ReferenceCounts.step, Option.ite_none_right_eq_some,
        Option.some.injEq] at moves
      obtain ⟨⟨stands, -⟩, rfl⟩ := moves
      exact accounted.setRetransmission (by rw [stands]; rfl)
  | retransmit exceeded => exact accounted.retransmissionStep moves
  | stopRetransmission =>
      simp only [ReferenceCounts.step, Option.ite_none_right_eq_some,
        Option.some.injEq] at moves
      obtain ⟨stands, rfl⟩ := moves
      refine accounted.freedAll rfl rfl fun other => ?_
      simp only [State.references, stands, RetransmissionPhase.held,
        List.map_nil, List.count_nil]
      omega
  | dequeue generation =>
      simp only [ReferenceCounts.step, Option.ite_none_right_eq_some,
        Option.some.injEq] at moves
      obtain ⟨-, rfl⟩ := moves
      exact accounted.congr rfl rfl fun _ => rfl
  | complete succeeded => exact accounted.completionStep moves

end Accounted

/-- Reference counts are conserved as long as no packet is put into an occupied
slot. -/
theorem referencesConserved_of_slotIsFree
    {state : State}
    (reached : system.GuardedReachable SlotIsFree state) :
    ReferencesConserved state := by
  have accounted : Accounted state := by
    refine reached.invariant ?_ ?_
    · rintro state rfl
      exact Accounted.of_ledger .empty rfl rfl
    · intro state label next _ accounted free moves
      exact accounted.step free moves
  exact accounted.conserved

/-! ## A lost reference -/

/-- Four data packets are pushed, and each caller stops before the
compare-and-swap of `DoSend`. -/
def pushSchedule : List Label :=
  ([.acquire, .reserve, .connect] : List Label) ++
  (List.range 4).flatMap fun packet =>
    ([.make (BitVec.ofNat 64 (packet + 1)) false,
      .call ⟨packet, .created⟩, .call ⟨packet, .inserted⟩,
      .call ⟨packet, .validated⟩, .call ⟨packet, .ready⟩,
      .send (.call packet) .next] : List Label)

/-- The session is released; one caller takes the send path after the drain test,
and another one after `Reset` has freed it. -/
def twoOwnersSchedule : List Label :=
  pushSchedule ++
  ([.disconnect] : List Label) ++
  (List.replicate 7 .release : List Label) ++
  ([.send (.call 0) .next, .release, .release,
    .send (.call 0) .next, .send (.call 0) .next, .release,
    .send (.call 2) .next, .send (.call 2) .next,
    .send (.call 2) .next] : List Label)

/-- Both find that their second packet does not fit. -/
def lostSchedule : List Label :=
  twoOwnersSchedule ++
  [.stream ⟨.call 0, .starting⟩ .next, .stream ⟨.call 2, .starting⟩ .next,
    .stream ⟨.call 0, .looping⟩ .next,
    .stream ⟨.call 0, .taken 0 false⟩ .next,
    .stream ⟨.call 0, .freeing 0 true⟩ .next,
    .stream ⟨.call 0, .looping⟩ .next,
    .stream ⟨.call 0, .taken 1 false⟩ .reserve,
    .stream ⟨.call 2, .looping⟩ .next,
    .stream ⟨.call 2, .taken 2 false⟩ .next,
    .stream ⟨.call 2, .freeing 2 true⟩ .next,
    .stream ⟨.call 2, .looping⟩ .next,
    .stream ⟨.call 2, .taken 3 false⟩ .reserve]

/-- The state that they leave behind. -/
def lostState : State :=
  (system.run initial lostSchedule).getD initial

theorem run_lostSchedule :
    system.run initial lostSchedule = some lostState := rfl

/-- The count of a packet can exceed the number of its references, so that it is
never returned. -/
theorem lostState_reachable :
    system.Reachable lostState ∧ ¬ ReferencesConserved lostState := by
  refine ⟨.run (.initial rfl) run_lostSchedule, fun conserved => ?_⟩
  have counted := conserved.counted 1
  change (2 : Int) = (1 : Nat) at counted
  omega

/-- The counts of four packets that are waiting in the queue. -/
theorem referencesConserved_in_queue :
    ReferencesConserved
      ((system.run initial pushSchedule).getD initial) :=
  referencesConserved_of_slotIsFree
    (TransitionSystem.GuardedReachable.guardedRun (.initial rfl)
      (show system.guardedRun SlotIsFree initial pushSchedule =
        some ((system.run initial pushSchedule).getD initial) from rfl))

end ReferenceCounts
end MultiSocketRudp
