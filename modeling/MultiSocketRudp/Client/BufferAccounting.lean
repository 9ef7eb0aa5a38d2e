import MultiSocketRudp.Client.BufferReferences

/-!
# Accounting for the client's references

Every step moves, adds or drops references together with the counts, with one
exception: a `SendPacketInfo` whose sequence is in the map already is put nowhere.
-/

namespace MultiSocketRudp
namespace BufferReferences

open TransitionSystems ReferenceCounting HoldingQueue

variable {state next : State}

/-- The buffers that have been allocated, and their counts. -/
def State.bufferPool (state : State) : Pool BufferId × Nat :=
  (state.buffers, state.buffersMade)

/-- The same of the `SendPacketInfo`s. -/
def State.infoObjects (state : State) : Pool InfoId × Nat × List InfoId :=
  (state.infoPool, state.infosMade, state.liveInfos)

/-! ## The counts of the buffers -/

/-- The counts of the buffers are exact, and no buffer is made twice. -/
def BuffersAccounted (state : State) : Prop :=
  Ledger state.buffers state.buffersMade state.bufferReferences

namespace BuffersAccounted

/-- References may move. -/
theorem congr
    (accounted : BuffersAccounted state)
    (pool : next.bufferPool = state.bufferPool)
    (references : ∀ other,
      next.bufferReferences other = state.bufferReferences other) :
    BuffersAccounted next := by
  obtain ⟨buffers, made⟩ := Prod.mk.inj pool
  rw [BuffersAccounted, buffers, made]
  exact Ledger.move accounted references

/-- `NetBuffer::Alloc`. -/
theorem alloc
    (accounted : BuffersAccounted state)
    (pool : next.bufferPool =
      (state.buffers.make state.buffersMade, state.buffersMade + 1))
    (references : ∀ other, next.bufferReferences other =
      state.bufferReferences other + point state.buffersMade other) :
    BuffersAccounted next := by
  obtain ⟨buffers, made⟩ := Prod.mk.inj pool
  rw [BuffersAccounted, buffers, made]
  exact Ledger.make accounted references

/-- `NetBuffer::AddRefCount`. -/
theorem addRefCount
    (accounted : BuffersAccounted state) {buffer : BufferId}
    (referred : state.bufferReferences buffer ≠ 0)
    (pool : next.bufferPool = (state.buffers.add buffer, state.buffersMade))
    (references : ∀ other, next.bufferReferences other =
      state.bufferReferences other + point buffer other) :
    BuffersAccounted next := by
  obtain ⟨buffers, made⟩ := Prod.mk.inj pool
  rw [BuffersAccounted, buffers, made]
  exact Ledger.add accounted referred references

/-- `NetBuffer::Free`. -/
theorem free
    (accounted : BuffersAccounted state) {buffer : BufferId}
    (pool : next.bufferPool = (state.buffers.free buffer, state.buffersMade))
    (references : ∀ other, state.bufferReferences other =
      next.bufferReferences other + point buffer other) :
    BuffersAccounted next := by
  obtain ⟨buffers, made⟩ := Prod.mk.inj pool
  rw [BuffersAccounted, buffers, made]
  exact Ledger.free accounted references

/-- Several buffers are freed. -/
theorem freeAll
    (accounted : BuffersAccounted state) {ids : List BufferId}
    (pool : next.bufferPool = (state.buffers.freeAll ids, state.buffersMade))
    (references : ∀ other, state.bufferReferences other =
      next.bufferReferences other + ids.count other) :
    BuffersAccounted next := by
  obtain ⟨buffers, made⟩ := Prod.mk.inj pool
  rw [BuffersAccounted, buffers, made]
  exact Ledger.freeAll accounted references

end BuffersAccounted

/-! ## The counts of the `SendPacketInfo`s -/

/-- The counts of the `SendPacketInfo`s are exact, no object is made twice, and the
live ones are those that are referred to. -/
structure InfosAccounted (state : State) : Prop where
  ledger : Ledger state.infoPool state.infosMade state.infoReferences
  live : ∀ info, state.liveInfos.count info =
    if state.infoReferences info = 0 then 0 else 1

namespace InfosAccounted

/-- References may move. -/
theorem congr
    (accounted : InfosAccounted state)
    (objects : next.infoObjects = state.infoObjects)
    (references : ∀ other,
      next.infoReferences other = state.infoReferences other) :
    InfosAccounted next := by
  simp only [State.infoObjects, Prod.mk.injEq] at objects
  obtain ⟨infoPool, made, liveInfos⟩ := objects
  constructor
  · rw [infoPool, made]
    exact accounted.ledger.move references
  · intro info
    rw [liveInfos, references]
    exact accounted.live info

/-- An object that is referred to is live. -/
theorem mem_liveInfos
    (accounted : InfosAccounted state) {info : InfoId}
    (referred : state.infoReferences info ≠ 0) :
    info ∈ state.liveInfos := by
  rw [← List.count_pos_iff, accounted.live info, if_neg referred]
  exact Nat.one_pos

/-- The next object is not live yet. -/
theorem ne_of_mem_liveInfos
    (accounted : InfosAccounted state) {info : InfoId}
    (live : info ∈ state.liveInfos) :
    info ≠ state.infosMade := by
  rintro rfl
  have positive := List.count_pos_iff.mpr live
  rw [accounted.live, if_pos (accounted.ledger.unreferred (Nat.le_refl _))]
    at positive
  exact Nat.lt_irrefl 0 positive

/-- A new object is registered. -/
theorem make
    (accounted : InfosAccounted state)
    (objects : next.infoObjects = (state.infoPool.make state.infosMade,
      state.infosMade + 1, state.infosMade :: state.liveInfos))
    (references : ∀ other, next.infoReferences other =
      state.infoReferences other + point state.infosMade other) :
    InfosAccounted next := by
  simp only [State.infoObjects, Prod.mk.injEq] at objects
  obtain ⟨infoPool, made, liveInfos⟩ := objects
  constructor
  · rw [infoPool, made]
    exact accounted.ledger.make references
  · intro info
    rw [liveInfos, count_cons, references, accounted.live info]
    rcases eq_or_ne info state.infosMade with rfl | different
    · rw [accounted.ledger.unreferred (Nat.le_refl _), point_self]
      rfl
    · rw [point_of_ne different]
      simp

/-- Several objects are referred to once more. -/
theorem addAll
    (accounted : InfosAccounted state) {ids : List InfoId}
    (referred : ∀ info ∈ ids, state.infoReferences info ≠ 0)
    (objects : next.infoObjects =
      (state.infoPool.addAll ids, state.infosMade, state.liveInfos))
    (references : ∀ other, next.infoReferences other =
      state.infoReferences other + ids.count other) :
    InfosAccounted next := by
  simp only [State.infoObjects, Prod.mk.injEq] at objects
  obtain ⟨infoPool, made, liveInfos⟩ := objects
  constructor
  · rw [infoPool, made]
    exact accounted.ledger.addAll referred references
  · intro info
    rw [liveInfos, accounted.live info, references]
    by_cases among : info ∈ ids
    · have before := referred info among
      rw [if_neg before, if_neg (by omega)]
    · rw [List.count_eq_zero_of_not_mem among, Nat.add_zero]

end InfosAccounted

/-! ## Both -/

/-- All counts are exact. -/
structure Accounted (state : State) : Prop where
  buffers : BuffersAccounted state
  infos : InfosAccounted state

namespace Accounted

/-- A live object refers to its buffer. -/
theorem buffer_referred
    (accounted : Accounted state) {info : InfoId}
    (referred : state.infoReferences info ≠ 0) :
    state.bufferReferences (state.infos info).buffer ≠ 0 := by
  have positive : 0 < (state.liveInfos.map fun info =>
      (state.infos info).buffer).count (state.infos info).buffer :=
    List.count_pos_iff.mpr
      (List.mem_map_of_mem (accounted.infos.mem_liveInfos referred))
  unfold State.bufferReferences
  omega

/-- `SendPacketInfo::Free`, by whoever gives up a reference. -/
theorem freeInfo
    (accounted : Accounted state) {info : InfoId}
    (pool : next.bufferPool = state.bufferPool)
    (objects : next.infoObjects = state.infoObjects)
    (bufferReferences : ∀ other,
      next.bufferReferences other = state.bufferReferences other)
    (infoReferences : ∀ other, state.infoReferences other =
      next.infoReferences other + point info other) :
    Accounted (next.freeInfo info) := by
  obtain ⟨buffers, buffersMade⟩ := Prod.mk.inj pool
  simp only [State.infoObjects, Prod.mk.injEq] at objects
  obtain ⟨infoPool, infosMade, liveInfos⟩ := objects
  have counted := accounted.infos.ledger.conserved.counted info
  have ledger := accounted.infos.ledger.free infoReferences
  have referred : state.infoReferences info ≠ 0 := by
    rw [infoReferences info, point_self]
    exact Nat.succ_ne_zero _
  have live := accounted.infos.mem_liveInfos referred
  rw [infoReferences info, point_self] at counted
  unfold State.freeInfo
  rw [infoPool]
  split
  next last =>
    rw [last] at counted
    have released : next.infoReferences info = 0 := by omega
    constructor
    · have freed : (next.buffers.free (next.infos info).buffer,
            next.buffersMade) =
          (state.buffers.free (next.infos info).buffer, state.buffersMade) := by
        rw [buffers, buffersMade]
      refine accounted.buffers.free freed fun other => ?_
      have taken := count_map_erase (fun info => (next.infos info).buffer)
        (liveInfos ▸ live) other
      rw [← bufferReferences other]
      simp only [State.bufferReferences]
      omega
    · constructor
      · change Ledger _ next.infosMade _
        rw [infosMade]
        exact ledger
      · intro other
        change (next.liveInfos.erase info).count other =
          if next.infoReferences other = 0 then 0 else 1
        have before := accounted.infos.live other
        rw [infoReferences other] at before
        rw [List.count_erase, liveInfos, before]
        rcases eq_or_ne other info with rfl | different
        · simp [released]
        · simp [point_of_ne different, different.symm]
  next more =>
    have remains : next.infoReferences info ≠ 0 := fun released =>
      more (by simp [counted, released])
    constructor
    · exact accounted.buffers.congr pool bufferReferences
    · constructor
      · change Ledger _ next.infosMade _
        rw [infosMade]
        exact ledger
      · intro other
        change next.liveInfos.count other =
          if next.infoReferences other = 0 then 0 else 1
        have before := accounted.infos.live other
        rw [infoReferences other] at before
        rw [liveInfos, before]
        rcases eq_or_ne other info with rfl | different
        · simp [remains]
        · simp [point_of_ne different]

/-- References move. -/
theorem congr
    (accounted : Accounted state)
    (pool : next.bufferPool = state.bufferPool)
    (objects : next.infoObjects = state.infoObjects)
    (bufferReferences : ∀ other,
      next.bufferReferences other = state.bufferReferences other)
    (infoReferences : ∀ other,
      next.infoReferences other = state.infoReferences other) :
    Accounted next where
  buffers := accounted.buffers.congr pool bufferReferences
  infos := accounted.infos.congr objects infoReferences

/-- Nothing in the map has the sequence of a packet that is registered. -/
theorem register
    (accounted : Accounted state)
    {buffer : BufferId} {packetSequence : PacketSequence}
    (referred : state.bufferReferences buffer ≠ 0)
    (unregistered : state.registered packetSequence = none) :
    Accounted (state.registerSendPacketInfo buffer packetSequence) where
  buffers := by
    have old : state.liveInfos.map (fun info =>
        (Function.update state.infos state.infosMade
          { buffer, sendPacketSequence := packetSequence } info).buffer) =
        state.liveInfos.map fun info => (state.infos info).buffer := by
      refine List.map_congr_left fun info live => ?_
      have different := accounted.infos.ne_of_mem_liveInfos live
      rw [Function.update_of_ne different]
    refine accounted.buffers.addRefCount referred rfl fun other => ?_
    simp only [State.bufferReferences, State.registerSendPacketInfo,
      List.map_cons, Function.update_self, count_cons, old]
    omega
  infos := by
    refine accounted.infos.make rfl fun other => ?_
    simp only [State.infoReferences, State.registerSendPacketInfo, unregistered,
      Option.isSome_none, Bool.false_eq_true, if_false, List.map_cons, count_cons]
    omega

/-- The entry found in the map is one of the map. -/
theorem mem_of_registered
    {packetSequence : PacketSequence} {entry : PacketSequence × InfoId}
    (found : state.registered packetSequence = some entry) :
    entry ∈ state.sendPacketInfoMap :=
  List.mem_of_find?_eq_some found

/-- An acknowledged packet is erased. -/
theorem eraseAcked
    (accounted : Accounted state) (packetSequence : PacketSequence) :
    Accounted (state.eraseAcked packetSequence) := by
  unfold State.eraseAcked
  split
  next => exact accounted
  next entry found =>
    refine accounted.freeInfo rfl rfl (fun _ => rfl) fun other => ?_
    have taken := count_map_erase Prod.snd (mem_of_registered found) other
    simp only [State.infoReferences]
    omega

end Accounted

/-- Freeing a `SendPacketInfo` changes the pools alone. -/
theorem freeInfo_frame (state : State) (info : InfoId) :
    ∃ buffers infoPool liveInfos,
      state.freeInfo info = { state with buffers, infoPool, liveInfos } := by
  unfold State.freeInfo
  split
  · exact ⟨_, _, _, rfl⟩
  · exact ⟨_, _, _, rfl⟩

/-- Freeing a `SendPacketInfo` does not look at the map. -/
theorem foldl_freeInfo
    (state : State) (infos : List InfoId) (map : List (PacketSequence × InfoId)) :
    infos.foldl State.freeInfo { state with sendPacketInfoMap := map } =
      { infos.foldl State.freeInfo state with sendPacketInfoMap := map } := by
  induction infos generalizing state with
  | nil => rfl
  | cons info infos inductionHypothesis =>
      have first : State.freeInfo { state with sendPacketInfoMap := map } info =
          { state.freeInfo info with sendPacketInfoMap := map } := by
        unfold State.freeInfo
        split <;> rfl
      rw [List.foldl_cons, List.foldl_cons, first, inductionHypothesis]

theorem foldl_freeInfo_frame (state : State) (infos : List InfoId) :
    ∃ buffers infoPool liveInfos, infos.foldl State.freeInfo state =
      { state with buffers, infoPool, liveInfos } := by
  induction infos generalizing state with
  | nil => exact ⟨_, _, _, rfl⟩
  | cons info infos inductionHypothesis =>
      obtain ⟨buffers, infoPool, liveInfos, same⟩ := freeInfo_frame state info
      rw [List.foldl_cons, same]
      exact inductionHypothesis _

/-- Erasing an acknowledged packet changes the map and the pools. -/
theorem eraseAcked_frame (state : State) (packetSequence : PacketSequence) :
    ∃ buffers infoPool liveInfos sendPacketInfoMap,
      state.eraseAcked packetSequence =
        { state with buffers, infoPool, liveInfos, sendPacketInfoMap } := by
  unfold State.eraseAcked
  split
  · exact ⟨_, _, _, _, rfl⟩
  · obtain ⟨buffers, infoPool, liveInfos, same⟩ := freeInfo_frame _ _
    rw [same]
    exact ⟨_, _, _, _, rfl⟩

namespace Accounted

/-- `Stop` frees what is in the map. -/
theorem clearMap
    (accounted : Accounted state) :
    Accounted { (state.sendPacketInfoMap.map Prod.snd).foldl State.freeInfo state
      with sendPacketInfoMap := [] } := by
  generalize stands : state.sendPacketInfoMap = map
  induction map generalizing state with
  | nil =>
      refine accounted.congr rfl rfl (fun _ => rfl) fun other => ?_
      simp only [State.infoReferences, stands, List.map_nil, List.foldl_nil]
  | cons entry rest inductionHypothesis =>
      have freed : Accounted
          (State.freeInfo { state with sendPacketInfoMap := rest } entry.2) := by
        refine accounted.freeInfo rfl rfl (fun _ => rfl) fun other => ?_
        simp only [State.infoReferences, stands, List.map_cons, count_cons]
        omega
      have single := foldl_freeInfo state [entry.2] rest
      simp only [List.foldl_cons, List.foldl_nil] at single
      rw [single] at freed
      have cleared := inductionHypothesis freed rfl
      rwa [foldl_freeInfo] at cleared

end Accounted

/-! ## Calls of `SendPacket` -/

/-- A call moves on with what it refers to then. -/
theorem bufferReferences_setCall
    {call : Call} (runs : call ∈ state.calls) (phase : CallPhase)
    (other : BufferId) :
    (state.setCall call phase).bufferReferences other +
        call.held.toList.count other =
      state.bufferReferences other +
        ({ call with phase } : Call).held.toList.count other := by
  have moved := count_filterMap_erase Call.held runs other
  simp only [State.bufferReferences, State.setCall, List.filterMap_cons]
  cases held : ({ call with phase } : Call).held with
  | none =>
      simp only [Option.toList_none, List.count_nil]
      omega
  | some buffer =>
      simp only [Option.toList_some, count_cons, List.count_nil]
      omega

/-- It returns and gives up what it referred to. -/
theorem bufferReferences_endCall
    {call : Call} (runs : call ∈ state.calls) (other : BufferId) :
    (state.endCall call).bufferReferences other +
        call.held.toList.count other =
      state.bufferReferences other := by
  have moved := count_filterMap_erase Call.held runs other
  simp only [State.bufferReferences, State.endCall]
  omega

/-- A call refers to its buffer. -/
theorem bufferReferences_of_call
    {call : Call} (runs : call ∈ state.calls)
    (held : call.held = some call.buffer) :
    state.bufferReferences call.buffer ≠ 0 := by
  have given := bufferReferences_endCall runs call.buffer
  rw [held, Option.toList_some, count_cons, point_self] at given
  omega

namespace Accounted

/-- A call that keeps its buffer moves on. -/
theorem setCall
    (accounted : Accounted state) {call : Call}
    (runs : call ∈ state.calls) {phase : CallPhase}
    (same : ({ call with phase } : Call).held = call.held) :
    Accounted (state.setCall call phase) := by
  refine accounted.congr rfl rfl (fun other => ?_) fun _ => rfl
  have moved := bufferReferences_setCall runs phase other
  rw [same] at moved
  omega

/-- A call begins. -/
theorem begin
    (accounted : Accounted state)
    (packetSequence : PacketSequence) {phase : CallPhase}
    (holds : ∀ buffer,
      (Call.mk buffer packetSequence phase).held = some buffer) :
    Accounted (begin state packetSequence phase) where
  buffers := by
    refine accounted.buffers.alloc rfl fun other => ?_
    simp only [State.bufferReferences, BufferReferences.begin, State.allocBuffer,
      List.filterMap_cons, holds, count_cons]
    omega
  infos := accounted.infos.congr rfl fun _ => rfl

/-- A call keeps the account, if it registers its packet under a sequence that is
not in the map. -/
theorem callStep
    (accounted : Accounted state) {call : Call}
    (runs : call ∈ state.calls)
    (fresh : call.phase = .registering →
      state.registered call.packetSequence = none)
    (moves : callStep state call = some next) :
    Accounted next := by
  cases stands : call.phase with
  | allocated =>
      simp only [BufferReferences.callStep, stands, Option.some.injEq] at moves
      subst moves
      refine accounted.setCall runs ?_
      split <;> simp only [Call.held, stands]
  | windowLoaded window =>
      simp only [BufferReferences.callStep, stands, Option.some.injEq] at moves
      subst moves
      refine accounted.setCall runs ?_
      split <;> simp only [Call.held, stands]
  | toPending =>
      simp only [BufferReferences.callStep, stands, Option.ite_none_right_eq_some,
        Option.some.injEq] at moves
      obtain ⟨-, rfl⟩ := moves
      refine accounted.congr rfl rfl (fun other => ?_) fun _ => rfl
      have given := bufferReferences_endCall runs other
      simp only [Call.held, stands, Option.toList_some, count_cons,
        List.count_nil] at given
      simp only [State.bufferReferences, State.endCall, List.map_cons,
        count_cons] at given ⊢
      omega
  | registering =>
      simp only [BufferReferences.callStep, stands, Option.some.injEq] at moves
      subst moves
      have held : call.held = some call.buffer := by simp only [Call.held, stands]
      have referred := bufferReferences_of_call runs held
      refine (accounted.register referred (fresh stands)).setCall runs ?_
      simp only [Call.held, stands]
  | registered =>
      simp only [BufferReferences.callStep, stands, Option.some.injEq] at moves
      subst moves
      refine accounted.congr rfl rfl (fun other => ?_) fun _ => rfl
      have moved := bufferReferences_setCall runs .signalling other
      simp only [Call.held, stands, Option.toList_some, Option.toList_none,
        count_cons, List.count_nil] at moved
      simp only [State.bufferReferences, State.setCall, List.count_append,
        count_cons, List.count_nil] at moved ⊢
      omega
  | signalling =>
      simp only [BufferReferences.callStep, stands, Option.some.injEq] at moves
      subst moves
      refine accounted.congr rfl rfl (fun other => ?_) fun _ => rfl
      have given := bufferReferences_endCall runs other
      simp only [Call.held, stands, Option.toList_none, List.count_nil] at given
      simp only [State.bufferReferences, State.endCall] at given ⊢
      omega

/-- A call that gets no `SendPacketInfo` frees its buffer. -/
theorem callFails
    (accounted : Accounted state) {call : Call}
    (runs : call ∈ state.calls)
    (stands : call.phase = .registering) :
    Accounted ((state.endCall call).freeBuffer call.buffer) where
  buffers := by
    refine accounted.buffers.free rfl fun other => ?_
    have given := bufferReferences_endCall runs other
    simp only [Call.held, stands, Option.toList_some, count_cons,
      List.count_nil] at given
    simp only [State.bufferReferences, State.endCall, State.freeBuffer] at given ⊢
    omega
  infos := accounted.infos.congr rfl fun _ => rfl

/-! ## The application -/

/-- A round of `GetReceivedPacket` frees what it takes, or hands it out. -/
theorem round
    (accounted : Accounted state) :
    Accounted (round state) := by
  unfold BufferReferences.round
  split
  next => exact accounted.congr rfl rfl (fun _ => rfl) fun _ => rfl
  next top rest stands =>
    have freed (packetSequence : PacketSequence) : Accounted (State.freeBuffer
        { state with
          nextRecvPacketSequence := packetSequence
          recvPacketHoldingQueue := rest } top.buffer) := by
      refine ⟨accounted.buffers.free rfl fun other => ?_,
        accounted.infos.congr rfl fun _ => rfl⟩
      simp only [State.bufferReferences, State.freeBuffer, stands, List.map_cons,
        count_cons]
      omega
    split
    · exact freed _
    · split
      · exact accounted.congr rfl rfl (fun _ => rfl) fun _ => rfl
      · split
        · exact freed _
        · refine accounted.congr rfl rfl (fun other => ?_)
            fun _ => rfl
          simp only [State.bufferReferences, stands, List.map_cons, count_cons]
          omega

/-- The application frees a buffer. -/
theorem applicationFrees
    (accounted : Accounted state) {buffer : BufferId}
    (received : buffer ∈ state.application) :
    Accounted (State.freeBuffer
      { state with application := state.application.erase buffer } buffer) where
  buffers := by
    refine accounted.buffers.free rfl fun other => ?_
    have taken := count_map_erase id received other
    simp only [List.map_id, id] at taken
    simp only [State.bufferReferences, State.freeBuffer]
    omega
  infos := accounted.infos.congr rfl fun _ => rfl

/-! ## The receive thread -/

/-- The receive thread goes on with what it refers to. -/
theorem receiverGoesOn
    (accounted : Accounted state) {after : Receiver}
    (same : after.held = state.receiver.held) :
    Accounted { state with receiver := after } := by
  refine accounted.congr rfl rfl (fun other => ?_) fun _ => rfl
  simp only [State.bufferReferences, same]

/-- It does so within a packet. -/
theorem packetGoesOn
    (accounted : Accounted state)
    {buffer recvPacketBuffer : BufferId} {phase after : PacketPhase}
    (stands : state.receiver = .packet buffer recvPacketBuffer phase)
    (same : after.held recvPacketBuffer = phase.held recvPacketBuffer) :
    Accounted { state with receiver := .packet buffer recvPacketBuffer after } :=
  accounted.receiverGoesOn (by simp only [stands, Receiver.held, same])

/-- It allocates a buffer. -/
theorem receiverAllocates
    (accounted : Accounted state) {after : Receiver}
    (held : ∀ other, after.held.count other =
      state.receiver.held.count other + point state.buffersMade other) :
    Accounted { state.allocBuffer with receiver := after } := by
  refine ⟨accounted.buffers.alloc rfl fun other => ?_,
    accounted.infos.congr rfl fun _ => rfl⟩
  simp only [State.bufferReferences, State.allocBuffer, held]
  omega

/-- It frees a buffer. -/
theorem receiverFrees
    (accounted : Accounted state) {after : Receiver} {buffer : BufferId}
    (held : ∀ other, state.receiver.held.count other =
      after.held.count other + point buffer other) :
    Accounted { state with
      buffers := state.buffers.free buffer
      receiver := after } := by
  refine ⟨accounted.buffers.free rfl fun other => ?_,
    accounted.infos.congr rfl fun _ => rfl⟩
  simp only [State.bufferReferences, held]
  omega

/-- It puts a buffer into `sendBufferQueue`. -/
theorem receiverEnqueues
    (accounted : Accounted state) {after : Receiver} {buffer : BufferId}
    (held : ∀ other, state.receiver.held.count other =
      after.held.count other + point buffer other) :
    Accounted { state with
      sendBufferQueue := state.sendBufferQueue ++ [buffer]
      receiver := after } := by
  refine accounted.congr rfl rfl (fun other => ?_) fun _ => rfl
  simp only [State.bufferReferences, held, List.count_append, count_cons,
    List.count_nil]
  omega

/-- A step with a packet keeps the account, if a packet that is flushed is
registered under a sequence that is not in the map. -/
theorem packetStep
    (accounted : Accounted state)
    {buffer recvPacketBuffer : BufferId} {phase : PacketPhase} {choice : Choice}
    (stands : state.receiver = .packet buffer recvPacketBuffer phase)
    (fresh : ∀ window entry, phase = .flushRegistering window entry →
      choice = .next → state.registered entry.1 = none)
    (moves : packetStep state buffer recvPacketBuffer phase choice = some next) :
    Accounted next := by
  cases phase with
  | processing =>
      simp only [BufferReferences.packetStep] at moves
      split at moves
      next =>
        obtain rfl := Option.some.inj moves
        refine accounted.receiverFrees fun other => ?_
        simp only [stands, Receiver.held, PacketPhase.held, count_cons,
          List.count_nil]
        omega
      next =>
        obtain rfl := Option.some.inj moves
        exact accounted.packetGoesOn stands rfl
      next packetSequence packetType =>
        simp only [Option.ite_none_right_eq_some, Option.some.injEq] at moves
        obtain ⟨-, rfl⟩ := moves
        have referred : state.bufferReferences recvPacketBuffer ≠ 0 := by
          simp only [State.bufferReferences, stands, Receiver.held, count_cons,
            point_self]
          omega
        refine ⟨accounted.buffers.addRefCount referred rfl fun other => ?_,
          accounted.infos.congr rfl fun _ => rfl⟩
        simp only [State.bufferReferences, stands, Receiver.held,
          PacketPhase.held, count_cons, List.count_nil]
        omega
      next packetSequence remoteWindow =>
        split at moves
        · obtain rfl := Option.some.inj moves
          exact accounted.packetGoesOn stands rfl
        · obtain rfl := Option.some.inj moves
          refine accounted.congr rfl rfl (fun other => ?_) fun _ => rfl
          simp only [State.bufferReferences, stands, Receiver.held,
            PacketPhase.held]
      next => cases moves
  | emplacing packetSequence packetType =>
      simp only [BufferReferences.packetStep] at moves
      split at moves
      next =>
        simp only [Option.ite_none_right_eq_some, Option.some.injEq] at moves
        obtain ⟨-, rfl⟩ := moves
        refine accounted.congr rfl rfl (fun other => ?_) fun _ => rfl
        have inserted := ((List.perm_orderedInsert
          (fun first second : RecvPacketInfo BufferId =>
            first.packetSequence ≤ second.packetSequence)
          ⟨recvPacketBuffer, packetSequence, packetType⟩
          state.recvPacketHoldingQueue).map RecvPacketInfo.buffer).count_eq other
        simp only [List.map_cons, count_cons] at inserted
        simp only [State.bufferReferences, emplace, inserted, stands,
          Receiver.held, PacketPhase.held, count_cons, List.count_nil]
        omega
      next => cases moves
  | emplaced =>
      simp only [BufferReferences.packetStep] at moves
      split at moves
      next =>
        obtain rfl := Option.some.inj moves
        refine accounted.receiverAllocates fun other => ?_
        simp only [stands, Receiver.held, PacketPhase.held, count_cons,
          List.count_nil]
        omega
      next =>
        obtain rfl := Option.some.inj moves
        exact accounted.packetGoesOn stands rfl
      next => cases moves
  | replying reply =>
      simp only [BufferReferences.packetStep] at moves
      split at moves
      next =>
        obtain rfl := Option.some.inj moves
        refine accounted.receiverEnqueues fun other => ?_
        simp only [stands, Receiver.held, PacketPhase.held, count_cons,
          List.count_nil]
        omega
      next => cases moves
  | signalling =>
      simp only [BufferReferences.packetStep] at moves
      split at moves
      next =>
        obtain rfl := Option.some.inj moves
        refine accounted.congr rfl rfl (fun other => ?_) fun _ => rfl
        simp only [State.bufferReferences, stands, Receiver.held, PacketPhase.held]
      next => cases moves
  | erasing packetSequence =>
      simp only [BufferReferences.packetStep] at moves
      split at moves
      next =>
        obtain rfl := Option.some.inj moves
        have stillStands : (state.eraseAcked packetSequence).receiver =
            .packet buffer recvPacketBuffer (.erasing packetSequence) := by
          obtain ⟨buffers, infoPool, liveInfos, map, same⟩ :=
            eraseAcked_frame state packetSequence
          rw [same, stands]
        exact (accounted.eraseAcked packetSequence).packetGoesOn stillStands rfl
      next => cases moves
  | erased =>
      simp only [BufferReferences.packetStep] at moves
      split at moves
      next =>
        obtain rfl := Option.some.inj moves
        exact accounted.packetGoesOn stands (by split <;> rfl)
      next => cases moves
  | flushing window =>
      simp only [BufferReferences.packetStep] at moves
      split at moves
      next =>
        simp only [Option.ite_none_right_eq_some, Option.some.injEq] at moves
        obtain ⟨-, rfl⟩ := moves
        exact accounted.packetGoesOn stands rfl
      next entry =>
        simp only [Option.ite_none_right_eq_some, Option.some.injEq] at moves
        obtain ⟨⟨-, waits, -⟩, rfl⟩ := moves
        refine accounted.congr rfl rfl (fun other => ?_) fun _ => rfl
        have taken := count_map_erase Prod.snd waits other
        simp only [State.bufferReferences, stands, Receiver.held,
          PacketPhase.held, count_cons, List.count_nil]
        omega
      next => cases moves
  | flushRegistering window entry =>
      simp only [BufferReferences.packetStep] at moves
      split at moves
      next =>
        obtain rfl := Option.some.inj moves
        have referred : state.bufferReferences entry.2 ≠ 0 := by
          simp only [State.bufferReferences, stands, Receiver.held,
            PacketPhase.held, count_cons, point_self]
          omega
        have registered := accounted.register referred
          (fresh window entry rfl rfl)
        exact registered.packetGoesOn stands rfl
      next =>
        obtain rfl := Option.some.inj moves
        refine accounted.receiverFrees fun other => ?_
        simp only [stands, Receiver.held, PacketPhase.held, count_cons,
          List.count_nil]
        omega
      next => cases moves
  | flushRegistered window flushed =>
      simp only [BufferReferences.packetStep] at moves
      split at moves
      next =>
        obtain rfl := Option.some.inj moves
        refine accounted.receiverEnqueues fun other => ?_
        simp only [stands, Receiver.held, PacketPhase.held, count_cons,
          List.count_nil]
        omega
      next => cases moves
  | flushSignalling window =>
      simp only [BufferReferences.packetStep] at moves
      split at moves
      next =>
        obtain rfl := Option.some.inj moves
        refine accounted.congr rfl rfl (fun other => ?_) fun _ => rfl
        simp only [State.bufferReferences, stands, Receiver.held, PacketPhase.held]
      next => cases moves
  | done =>
      simp only [BufferReferences.packetStep] at moves
      split at moves
      next =>
        obtain rfl := Option.some.inj moves
        refine accounted.receiverFrees fun other => ?_
        simp only [stands, Receiver.held, PacketPhase.held, count_cons,
          List.count_nil]
        omega
      next => cases moves

/-- So does every step of the receive thread. -/
theorem receiverStep
    (accounted : Accounted state) {choice : Choice}
    (fresh : ∀ buffer recvPacketBuffer window entry,
      state.receiver = .packet buffer recvPacketBuffer
        (.flushRegistering window entry) →
      choice = .next → state.registered entry.1 = none)
    (moves : receiverStep state choice = some next) :
    Accounted next := by
  simp only [BufferReferences.receiverStep] at moves
  split at moves
  next stands =>
    obtain rfl := Option.some.inj moves
    refine accounted.receiverAllocates fun other => ?_
    simp only [stands, Receiver.held, count_cons, List.count_nil]
    omega
  next buffer stands =>
    simp only [Option.ite_none_right_eq_some, Option.some.injEq] at moves
    obtain ⟨-, rfl⟩ := moves
    refine accounted.receiverFrees fun other => ?_
    simp only [stands, Receiver.held, count_cons, List.count_nil]
    omega
  next buffer stands =>
    simp only [Option.ite_none_right_eq_some, Option.some.injEq] at moves
    obtain ⟨-, rfl⟩ := moves
    exact accounted.receiverGoesOn (by simp only [stands, Receiver.held])
  next buffer stands =>
    obtain rfl := Option.some.inj moves
    exact accounted.receiverGoesOn (by simp only [stands, Receiver.held])
  next buffer stands =>
    obtain rfl := Option.some.inj moves
    refine accounted.receiverAllocates fun other => ?_
    simp only [stands, Receiver.held, PacketPhase.held, count_cons,
      List.count_nil]
    omega
  next buffer recvPacketBuffer phase stands =>
    refine accounted.packetStep stands (fun window entry begun chosen => ?_) moves
    subst begun
    exact fresh buffer recvPacketBuffer window entry stands chosen
  next => cases moves

/-! ## The other threads -/

/-- The send thread frees what it has taken out of the queue. -/
theorem senderStep
    (accounted : Accounted state)
    (moves : senderStep state = some next) :
    Accounted next := by
  simp only [BufferReferences.senderStep] at moves
  split at moves
  next stands =>
    split at moves
    next =>
      obtain rfl := Option.some.inj moves
      refine accounted.congr rfl rfl (fun other => ?_) fun _ => rfl
      simp only [State.bufferReferences, stands, Sender.held]
    next =>
      simp only [Option.ite_none_right_eq_some, Option.some.injEq] at moves
      obtain ⟨-, rfl⟩ := moves
      refine accounted.congr rfl rfl (fun other => ?_) fun _ => rfl
      simp only [State.bufferReferences, stands, Sender.held]
  next last stands =>
    split at moves
    next =>
      obtain rfl := Option.some.inj moves
      refine accounted.congr rfl rfl (fun other => ?_) fun _ => rfl
      cases last <;> simp only [State.bufferReferences, stands, Sender.after,
        Sender.held, Bool.false_eq_true, if_false, if_true]
    next packet rest queued =>
      obtain rfl := Option.some.inj moves
      refine accounted.congr rfl rfl (fun other => ?_) fun _ => rfl
      simp only [State.bufferReferences, stands, queued, Sender.held, count_cons,
        List.count_nil]
      omega
  next packet last stands =>
    obtain rfl := Option.some.inj moves
    refine ⟨accounted.buffers.free rfl fun other => ?_,
      accounted.infos.congr rfl fun _ => rfl⟩
    have nothing : (if state.socketOpen = true then Sender.sending last
        else .after last).held = [] := by
      split
      · rfl
      · cases last <;> rfl
    simp only [State.bufferReferences, State.freeBuffer, nothing, stands]
    simp only [Sender.held, count_cons, List.count_nil]
    omega
  next => cases moves

/-- The retransmission thread goes on with a packet. -/
theorem retransmissionGoesOn
    (accounted : Accounted state) {phase : Retransmission}
    (held : phase.held = state.retransmission.held)
    (info : phase.info = state.retransmission.info) :
    Accounted { state with retransmission := phase } := by
  refine accounted.congr rfl rfl (fun other => ?_) fun other => ?_
  · simp only [State.bufferReferences, held]
  · simp only [State.infoReferences, info]

/-- The retransmission thread refers to each of its packets, and counts this. -/
theorem retransmissionStep
    {maxPacketRetransmissionCount : Nat}
    (accounted : Accounted state) {due : List InfoId}
    (processed : state.retransmission = .collecting →
      state.retransmitTargets = [])
    (moves : retransmissionStep maxPacketRetransmissionCount state due =
      some next) :
    Accounted next := by
  cases stands : state.retransmission with
  | looping =>
      simp only [BufferReferences.retransmissionStep, stands,
        Option.some.injEq] at moves
      subst moves
      refine accounted.retransmissionGoesOn ?_ ?_
      all_goals
        rw [stands]
        split <;> rfl
  | collecting =>
      simp only [BufferReferences.retransmissionStep, stands,
        Option.ite_none_right_eq_some, Option.some.injEq] at moves
      obtain ⟨registered, rfl⟩ := moves
      have referred (info : InfoId) (among : info ∈ due) :
          state.infoReferences info ≠ 0 := by
        have positive := List.count_pos_iff.mpr (registered.subset among)
        unfold State.infoReferences
        omega
      refine ⟨accounted.buffers.congr rfl fun other => ?_,
        accounted.infos.addAll referred rfl fun other => ?_⟩
      · simp only [State.bufferReferences, stands, Retransmission.held]
      · simp only [State.infoReferences, stands, processed stands,
          Retransmission.info, List.count_nil]
  | processing =>
      simp only [BufferReferences.retransmissionStep, stands] at moves
      split at moves
      next =>
        obtain rfl := Option.some.inj moves
        exact accounted.retransmissionGoesOn (by rw [stands]; rfl)
          (by rw [stands]; rfl)
      next info rest targets =>
        obtain rfl := Option.some.inj moves
        refine accounted.congr rfl rfl (fun other => ?_)
          fun other => ?_
        · simp only [State.bufferReferences, stands, Retransmission.held]
        · simp only [State.infoReferences, stands, targets, Retransmission.info,
            count_cons, List.count_nil]
          omega
  | checking info =>
      simp only [BufferReferences.retransmissionStep, stands,
        Option.some.injEq] at moves
      subst moves
      refine accounted.retransmissionGoesOn ?_ ?_
      all_goals
        rw [stands]
        split <;> rfl
  | finding info =>
      simp only [BufferReferences.retransmissionStep, stands] at moves
      split at moves
      next =>
        obtain rfl := Option.some.inj moves
        exact accounted.retransmissionGoesOn (by rw [stands]; rfl)
          (by rw [stands]; rfl)
      next =>
        obtain rfl := Option.some.inj moves
        have same (other : InfoId) : (Function.update state.infos info
            { state.infos info with
              retransmissionCount := (state.infos info).retransmissionCount + 1 }
            other).buffer = (state.infos other).buffer := by
          rcases eq_or_ne other info with rfl | different
          · rw [Function.update_self]
          · rw [Function.update_of_ne different]
        refine accounted.congr rfl rfl (fun other => ?_)
          fun other => ?_
        · simp only [State.bufferReferences, same, stands]
          split <;> rfl
        · simp only [State.infoReferences, stands]
          split <;> rfl
  | exceeded info =>
      simp only [BufferReferences.retransmissionStep, stands,
        Option.some.injEq] at moves
      subst moves
      refine accounted.congr rfl rfl (fun other => ?_) fun other => ?_
      · simp only [State.bufferReferences, stands, Retransmission.held]
      · simp only [State.infoReferences, stands, Retransmission.info]
  | resending info =>
      simp only [BufferReferences.retransmissionStep, stands,
        Option.some.injEq] at moves
      subst moves
      have referred : state.infoReferences info ≠ 0 := by
        simp only [State.infoReferences, stands, Retransmission.info, count_cons,
          point_self]
        omega
      refine ⟨accounted.buffers.addRefCount (accounted.buffer_referred referred)
        rfl fun other => ?_,
        accounted.infos.congr rfl fun other => ?_⟩
      · simp only [State.bufferReferences, stands, Retransmission.held,
          count_cons, List.count_nil]
        omega
      · simp only [State.infoReferences, stands, Retransmission.info]
  | enqueueing info buffer =>
      simp only [BufferReferences.retransmissionStep, stands,
        Option.some.injEq] at moves
      subst moves
      refine accounted.congr rfl rfl (fun other => ?_) fun other => ?_
      · simp only [State.bufferReferences, stands, Retransmission.held,
          List.count_append, count_cons, List.count_nil]
        omega
      · simp only [State.infoReferences, stands, Retransmission.info]
  | signalling info =>
      simp only [BufferReferences.retransmissionStep, stands,
        Option.some.injEq] at moves
      subst moves
      refine accounted.congr rfl rfl (fun other => ?_) fun other => ?_
      · simp only [State.bufferReferences, stands, Retransmission.held]
      · simp only [State.infoReferences, stands, Retransmission.info]
  | freeing info =>
      simp only [BufferReferences.retransmissionStep, stands,
        Option.some.injEq] at moves
      subst moves
      refine accounted.freeInfo rfl rfl (fun other => ?_)
        fun other => ?_
      · simp only [State.bufferReferences, stands, Retransmission.held]
      · simp only [State.infoReferences, stands, Retransmission.info, count_cons,
          List.count_nil]
        omega
  | ended => simp [BufferReferences.retransmissionStep, stands] at moves

end Accounted

end BufferReferences
end MultiSocketRudp
