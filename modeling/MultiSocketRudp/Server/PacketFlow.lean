import MultiSocketRudp.Server.PacketPlaces

/-!
# How a step moves a packet towards its next datagram

A packet waits for a datagram in its call, in the send queue, in the reserved
slot or in the hands of `MakeSendStream`; it waits for a retransmission in the
heap, on the due list or with `ProcessRetransmission`.  Nothing multiplies it on
its way: what arrives in one part has left another one, and new packets come
from the send sequence alone.
-/

namespace MultiSocketRudp
namespace Retransmission

/-! ## Parts of the way -/

/-- A call has its packet until it pushes it. -/
def CallState.unpushed : CallState → Nat
  | .begun => 1
  | .inserted => 1
  | .tested => 1
  | _ => 0

/-- The packet that has been taken and not yet come to
`RefreshRetransmissionSendPacketInfo`. -/
def OwnerPhase.chosen : OwnerPhase → List QueueItem
  | .taken item _ _ => [item]
  | .oversize item => [item]
  | _ => []

/-- The packet inside `RefreshRetransmissionSendPacketInfo`. -/
def OwnerPhase.refreshed : OwnerPhase → List QueueItem
  | .refreshing item _ _ => [item]
  | _ => []

namespace State

/-- The packet that `MakeSendStream` has taken from the queue or the slot. -/
def chosen (state : State) : List QueueItem :=
  state.owner.elim [] fun owner => owner.phase.chosen

/-- The packet inside `RefreshRetransmissionSendPacketInfo`. -/
def refreshed (state : State) : List QueueItem :=
  state.owner.elim [] fun owner => owner.phase.refreshed

/-- In how many places a packet waits for a datagram. -/
def waiting (state : State) (ordinal : Nat) : Nat :=
  (state.calls (.data ordinal)).unpushed +
    itemsFor ordinal state.sendPacketInfoQueue +
    itemsFor ordinal state.reservedSendPacketInfo.toList +
    itemsFor ordinal state.chosen

/-- Entries of a packet whose retransmission is due. -/
def dueEntries (state : State) (ordinal : Nat) : Nat :=
  entriesFor ordinal (state.dueList ++ state.retransmission.current)

/-- Everything that a packet can be found by, the calls apart. -/
def stores (state : State) :=
  (state.sendPacketInfoQueue, state.reservedSendPacketInfo, state.owner,
    state.heap, state.dueList, state.retransmission, state.transmissions,
    state.sendPacketInfoMap, state.sequencesTaken)

/-- How often a packet was let into a datagram. -/
def timesTransmitted (state : State) (ordinal : Nat) : Nat :=
  state.transmissions.countP fun transmission =>
    transmission.item.packet = .data ordinal

end State

namespace Label

/-- The step gives the packet its sequence. -/
def enters (state : State) (ordinal : Nat) : Label → Nat
  | .takeSequence _ => if state.sequencesTaken + 1 = ordinal then 1 else 0
  | _ => 0

/-- The step schedules the packet. -/
def schedules (ordinal : Nat) : Label → Nat
  | .finishRefresh _ item _ _ _ =>
      if item.packet = .data ordinal then 1 else 0
  | _ => 0

/-- The step lets the packet into the datagram. -/
def transmits (state : State) (ordinal : Nat) : Label → Nat
  | .finishRefresh _ item _ _ _ =>
      if item.packet = .data ordinal ∧
          (state.infos item.packet).isErasedPacketInfo = false then 1
      else 0
  | _ => 0

/-- The step finds the packet due. -/
def pops (ordinal : Nat) : Label → Nat
  | .popDue _ entry => if entry.ordinal = ordinal then 1 else 0
  | _ => 0

/-- The step pushes the packet once more. -/
def pushesAgain (ordinal : Nat) : Label → Nat
  | .pushAgain entry => if entry.ordinal = ordinal then 1 else 0
  | _ => 0

/-- The step begins `RefreshRetransmissionSendPacketInfo`. -/
def beginsRefresh : Label → Bool
  | .checkTaken _ _ _ _ => true
  | _ => false

end Label

/-- Nothing multiplies a packet on its way. -/
structure Flow (state next : State) (label : Label) : Prop where
  /-- Sequences are not given back. -/
  sequences : state.sequencesTaken ≤ next.sequencesTaken
  /-- A packet enters with a sequence of its own. -/
  entered : ∀ ordinal, label.enters state ordinal ≤
    if state.sequencesTaken < ordinal ∧ ordinal ≤ next.sequencesTaken then 1
    else 0
  /-- Waiting packets are new, or due for a retransmission. -/
  waiting : ∀ ordinal, next.waiting ordinal ≤
    state.waiting ordinal + label.enters state ordinal +
      label.pushesAgain ordinal
  /-- The packet inside `RefreshRetransmissionSendPacketInfo` has waited. -/
  refreshed :
    label.beginsRefresh = false ∧ next.refreshed = state.refreshed ∨
      next.refreshed = [] ∨
      label.beginsRefresh = true ∧ ∀ ordinal,
        next.waiting ordinal + itemsFor ordinal next.refreshed ≤
          state.waiting ordinal
  /-- Entries come from a schedule. -/
  heap : ∀ ordinal, entriesFor ordinal next.heap + label.pops ordinal ≤
    entriesFor ordinal state.heap + label.schedules ordinal
  /-- Due entries come from the heap. -/
  due : ∀ ordinal, next.dueEntries ordinal + label.pushesAgain ordinal ≤
    state.dueEntries ordinal + label.pops ordinal
  /-- Registered packets have waited. -/
  mapped : ∀ packetSequence ordinal,
    next.sendPacketInfoMap packetSequence = some ordinal →
      state.sendPacketInfoMap packetSequence = some ordinal ∨
        0 < state.waiting ordinal
  /-- Transmissions are those of `RefreshRetransmissionSendPacketInfo`. -/
  transmitted : ∀ ordinal, next.timesTransmitted ordinal =
    state.timesTransmitted ordinal + label.transmits state ordinal

/-! ## Steps that schedule nothing -/

/-- The step neither gives a sequence nor moves a packet between the send path
and the scheduler. -/
def Label.isQuiet : Label → Bool
  | .takeSequence _ => false
  | .finishRefresh _ _ _ _ _ => false
  | .popDue _ _ => false
  | .pushAgain _ => false
  | _ => true

/-- A quiet step has nothing to account for. -/
theorem Label.quiet
    {label : Label}
    (quiet : label.isQuiet = true)
    (state : State)
    (ordinal : Nat) :
    label.enters state ordinal = 0 ∧ label.schedules ordinal = 0 ∧
      label.transmits state ordinal = 0 ∧ label.pops ordinal = 0 ∧
      label.pushesAgain ordinal = 0 := by
  cases label <;> first | exact ⟨rfl, rfl, rfl, rfl, rfl⟩ | cases quiet

/-- Waiting packets stay where they are, or leave. -/
theorem State.waiting_le
    {state next : State}
    (calls : ∀ ordinal, (next.calls (.data ordinal)).unpushed ≤
      (state.calls (.data ordinal)).unpushed)
    (queue : next.sendPacketInfoQueue = state.sendPacketInfoQueue)
    (reserved : next.reservedSendPacketInfo = state.reservedSendPacketInfo)
    (chosen : next.chosen = state.chosen ∨ next.chosen = [])
    (ordinal : Nat) :
    next.waiting ordinal ≤ state.waiting ordinal := by
  have called := calls ordinal
  have held : itemsFor ordinal next.chosen ≤ itemsFor ordinal state.chosen := by
    cases chosen with
    | inl same => rw [same]
    | inr none => simp [none]
  unfold State.waiting
  rw [queue, reserved]
  omega

/-- A call that moves on waits no more than before. -/
theorem unpushed_update
    {calls : PacketRef → CallState} {packet : PacketRef} {call : CallState}
    (less : call.unpushed ≤ (calls packet).unpushed)
    (ordinal : Nat) :
    (Function.update calls packet call (.data ordinal)).unpushed ≤
      (calls (.data ordinal)).unpushed := by
  by_cases same : PacketRef.data ordinal = packet
  · rw [same, Function.update_self]
    exact less
  · rw [Function.update_of_ne same]

/-- Replies do not wait for a schedule. -/
theorem unpushed_of_reply
    {calls nextCalls : PacketRef → CallState} {call : CallState}
    {index : Nat} {packetSequence : PacketSequence}
    (replied : nextCalls =
      Function.update calls (.reply index packetSequence) call)
    (ordinal : Nat) :
    (nextCalls (.data ordinal)).unpushed ≤
      (calls (.data ordinal)).unpushed := by
  rw [replied, Function.update_of_ne (by simp)]

namespace Flow

variable {state next : State} {label : Label}

/-- A quiet step that leaves the scheduler alone. -/
theorem of_quiet
    (quiet : label.isQuiet = true)
    (sequences : next.sequencesTaken = state.sequencesTaken)
    (waiting : ∀ ordinal, next.waiting ordinal ≤ state.waiting ordinal)
    (refreshed :
      label.beginsRefresh = false ∧ next.refreshed = state.refreshed ∨
        next.refreshed = [] ∨
        label.beginsRefresh = true ∧ ∀ ordinal,
          next.waiting ordinal + itemsFor ordinal next.refreshed ≤
            state.waiting ordinal)
    (heap : next.heap = state.heap)
    (dueList : next.dueList = state.dueList)
    (current : next.retransmission.current = state.retransmission.current ∨
      next.retransmission.current = [])
    (mapped : ∀ packetSequence ordinal,
      next.sendPacketInfoMap packetSequence = some ordinal →
        state.sendPacketInfoMap packetSequence = some ordinal ∨
          0 < state.waiting ordinal)
    (transmitted : ∀ ordinal,
      next.timesTransmitted ordinal = state.timesTransmitted ordinal) :
    Flow state next label where
  sequences := sequences.ge
  entered ordinal := by
    have accounts := Label.quiet quiet state ordinal
    omega
  waiting ordinal := by
    have unmoved := waiting ordinal
    omega
  refreshed := refreshed
  heap ordinal := by
    have accounts := Label.quiet quiet state ordinal
    rw [heap]
    omega
  due ordinal := by
    have accounts := Label.quiet quiet state ordinal
    unfold State.dueEntries
    cases current with
    | inl same => rw [dueList, same]; omega
    | inr gone =>
        rw [dueList, gone, entriesFor_append, entriesFor_append,
          entriesFor_nil]
        omega
  mapped := mapped
  transmitted ordinal := by
    have accounts := Label.quiet quiet state ordinal
    rw [transmitted]
    omega

/-- A quiet step in which calls move on. -/
theorem of_calls
    (quiet : label.isQuiet = true)
    (outside : label.beginsRefresh = false)
    (calls : ∀ ordinal, (next.calls (.data ordinal)).unpushed ≤
      (state.calls (.data ordinal)).unpushed)
    (stores : next.stores = state.stores) :
    Flow state next label := by
  simp only [State.stores, Prod.mk.injEq] at stores
  obtain ⟨queue, reserved, owner, heap, dueList, retransmission,
    transmissions, mapped, sequences⟩ := stores
  refine of_quiet quiet sequences
    (State.waiting_le calls queue reserved (.inl ?_)) (.inl ⟨outside, ?_⟩) heap dueList
    (.inl (by rw [retransmission])) (fun _ _ found => .inl (mapped ▸ found))
    fun _ => ?_
  · rw [State.chosen, owner, State.chosen]
  · rw [State.refreshed, owner, State.refreshed]
  · rw [State.timesTransmitted, transmissions, State.timesTransmitted]

/-- A quiet step that only moves callers of `DoSend`, or the session. -/
theorem of_stores
    (quiet : label.isQuiet = true)
    (outside : label.beginsRefresh = false)
    (calls : next.calls = state.calls)
    (stores : next.stores = state.stores) :
    Flow state next label :=
  of_calls quiet outside (fun _ => by rw [calls]) stores

/-- The owner moves on without a packet. -/
theorem of_owner
    (quiet : label.isQuiet = true)
    (calls : next.calls = state.calls)
    (chosen : next.chosen = [])
    (refreshed : next.refreshed = [])
    (stores : { next with owner := state.owner }.stores = state.stores) :
    Flow state next label := by
  simp only [State.stores, Prod.mk.injEq] at stores
  obtain ⟨queue, reserved, -, heap, dueList, retransmission,
    transmissions, mapped, sequences⟩ := stores
  refine of_quiet quiet sequences
    (State.waiting_le (fun _ => by rw [calls]) queue reserved (.inr chosen))
    (.inr (.inl refreshed)) heap dueList (.inl (by rw [retransmission]))
    (fun _ _ found => .inl (mapped ▸ found)) fun _ => ?_
  rw [State.timesTransmitted, transmissions, State.timesTransmitted]

/-- The retransmission thread moves on within a packet, or leaves it. -/
theorem of_retransmission
    (quiet : label.isQuiet = true)
    (outside : label.beginsRefresh = false)
    (calls : next.calls = state.calls)
    (current : next.retransmission.current = state.retransmission.current ∨
      next.retransmission.current = [])
    (stores : { next with retransmission := state.retransmission }.stores =
      state.stores) :
    Flow state next label := by
  simp only [State.stores, Prod.mk.injEq] at stores
  obtain ⟨queue, reserved, owner, heap, dueList, -, transmissions, mapped,
    sequences⟩ := stores
  refine of_quiet quiet sequences
    (State.waiting_le (fun _ => by rw [calls]) queue reserved (.inl ?_))
    (.inl ⟨outside, ?_⟩) heap dueList current (fun _ _ found => .inl (mapped ▸ found))
    fun _ => ?_
  · rw [State.chosen, owner, State.chosen]
  · rw [State.refreshed, owner, State.refreshed]
  · rw [State.timesTransmitted, transmissions, State.timesTransmitted]

/-! ## Calls -/

theorem takeSequence (useSize : Nat) :
    Flow state
      { state with
        sequencesTaken := state.sequencesTaken + 1
        infos :=
          Function.update state.infos (.data (state.sequencesTaken + 1))
            { useSize }
        calls :=
          Function.update state.calls (.data (state.sequencesTaken + 1))
            .begun }
      (.takeSequence useSize) where
  sequences := Nat.le_succ _
  entered ordinal := by
    simp only [Label.enters]
    split <;> split <;> omega
  waiting ordinal := by
    by_cases fresh : state.sequencesTaken + 1 = ordinal
    · subst fresh
      simp only [State.waiting, State.chosen, Function.update_self,
        CallState.unpushed, Label.enters, if_true, Label.pushesAgain]
      omega
    · have other : PacketRef.data ordinal ≠
          .data (state.sequencesTaken + 1) := fun same =>
        fresh (PacketRef.data.inj same).symm
      simp only [State.waiting, State.chosen, Function.update_of_ne other]
      omega
  refreshed := .inl ⟨rfl, rfl⟩
  heap _ := le_refl _
  due _ := le_refl _
  mapped _ _ := .inl
  transmitted _ := rfl

/-- A packet waits while its call has it. -/
theorem waiting_pos_of_call
    {ordinal : Nat}
    (has : (state.calls (.data ordinal)).unpushed = 1) :
    0 < state.waiting ordinal := by
  unfold State.waiting
  omega

/-- `InsertSendPacketInfo` registers a packet whose call has it. -/
theorem insert
    {packet : PacketRef}
    (stands : state.calls packet = .begun) :
    Flow state ((state.insertSendPacketInfo packet).setCall packet .inserted)
      (.insert packet) := by
  have calls : CallState.inserted.unpushed ≤
      (state.calls packet).unpushed := by rw [stands]; exact le_refl _
  cases packet with
  | reply index packetSequence =>
      exact of_calls rfl rfl (unpushed_update calls) rfl
  | data ordinal =>
      refine of_quiet rfl rfl (State.waiting_le (unpushed_update calls) rfl
        rfl (.inl rfl)) (.inl ⟨rfl, rfl⟩) rfl rfl (.inl rfl) ?_ fun _ => rfl
      intro packetSequence other found
      simp only [State.setCall, State.insertSendPacketInfo] at found
      split at found
      case isFalse => exact .inl found
      case isTrue =>
        by_cases same : packetSequence = (PacketRef.data ordinal).packetSequence
        · rw [same, Function.update_self] at found
          obtain rfl := Option.some.inj found
          exact .inr (waiting_pos_of_call (by rw [stands]; rfl))
        · rw [Function.update_of_ne same] at found
          exact .inl found

/-- A packet leaves the map. -/
theorem of_erased
    {packetSequence : PacketSequence}
    (quiet : label.isQuiet = true)
    (outside : label.beginsRefresh = false)
    (calls : ∀ ordinal, (next.calls (.data ordinal)).unpushed ≤
      (state.calls (.data ordinal)).unpushed)
    (erased : next.sendPacketInfoMap =
      Function.update state.sendPacketInfoMap packetSequence none)
    (stores :
      { next with sendPacketInfoMap := state.sendPacketInfoMap }.stores =
        state.stores) :
    Flow state next label := by
  have rest : Flow state
      { next with sendPacketInfoMap := state.sendPacketInfoMap } label :=
    of_calls quiet outside calls stores
  refine { rest with mapped := fun other ordinal found => .inl ?_ }
  rw [erased] at found
  by_cases same : other = packetSequence
  · rw [same, Function.update_self] at found
    cases found
  · rwa [Function.update_of_ne same] at found

/-- A call pushes its packet into the send queue. -/
theorem push
    {packet : PacketRef}
    (stands : state.calls packet = .tested) :
    Flow state
      ((state.pushSendPacketInfo (.call packet) ⟨packet, none⟩).setCall packet
        .sending)
      (.push packet) := by
  refine of_quiet rfl rfl (fun ordinal => ?_) (.inl ⟨rfl, rfl⟩) rfl rfl
    (.inl rfl) (fun _ _ => .inl) fun _ => rfl
  simp only [State.waiting, State.chosen, State.setCall,
    State.pushSendPacketInfo, itemsFor_append, itemsFor_cons, itemsFor_nil]
  by_cases same : packet = .data ordinal
  · subst same
    rw [Function.update_self, stands]
    simp only [CallState.unpushed, if_true]
    omega
  · rw [Function.update_of_ne (Ne.symm same), if_neg same]
    omega

/-! ## The send path -/

/-- The reserved packet is taken. -/
theorem takeReserved
    {caller : Caller} {bufferCount : Nat} :
    Flow state (state.takeReserved caller bufferCount)
      (.takeReserved caller bufferCount) := by
  unfold State.takeReserved
  cases reserved : state.reservedSendPacketInfo with
  | none =>
      dsimp only
      exact of_owner rfl rfl rfl rfl rfl
  | some item =>
      dsimp only
      refine of_quiet rfl rfl (fun ordinal => ?_) (.inr (.inl rfl)) rfl rfl
        (.inl rfl) (fun _ _ => .inl) fun _ => rfl
      simp [State.waiting, State.chosen, OwnerPhase.chosen, reserved]

/-- The next packet is taken from the queue. -/
theorem popQueue
    {caller : Caller} {locals : StreamLocals} :
    Flow state (state.popQueue caller locals) (.popQueue caller locals) := by
  unfold State.popQueue
  split
  case h_1 => exact of_owner rfl rfl rfl rfl rfl
  case h_2 => exact of_owner rfl rfl rfl rfl rfl
  case h_3 remaining item rest queue =>
    refine of_quiet rfl rfl (fun ordinal => ?_) (.inr (.inl rfl)) rfl rfl
      (.inl rfl) (fun _ _ => .inl) fun _ => rfl
    simp [State.waiting, State.chosen, OwnerPhase.chosen, queue]
    omega

theorem beginRefresh
    {caller : Caller} {item : QueueItem} {reserved : Bool}
    {locals : StreamLocals}
    (chosen : state.chosen = [item]) :
    Flow state (state.beginRefresh caller item reserved locals)
      (.checkTaken caller item reserved locals) := by
  unfold State.beginRefresh
  split
  case isTrue => exact of_owner rfl rfl rfl rfl rfl
  case isFalse =>
    split
    case isTrue reply =>
      refine of_quiet rfl rfl (State.waiting_le (fun _ => le_refl _) rfl rfl
        (.inr rfl)) (.inr (.inl rfl)) rfl rfl (.inl rfl) (fun _ _ => .inl)
        fun ordinal => ?_
      have other : item.packet ≠ .data ordinal := fun same => by
        rw [same] at reply
        cases reply
      simp [State.timesTransmitted, State.writePacket, other]
    case isFalse =>
      refine of_quiet rfl rfl (State.waiting_le (fun _ => le_refl _) rfl rfl
        (.inr rfl)) (.inr (.inr ⟨rfl, fun ordinal => ?_⟩)) rfl rfl (.inl rfl)
        (fun _ _ => .inl) fun _ => rfl
      unfold State.waiting
      rw [chosen]
      simp [State.setPhase, State.refreshed, State.chosen,
        OwnerPhase.refreshed, OwnerPhase.chosen]

/-- The taken packet is looked at. -/
theorem checkTaken
    {caller : Caller} {item : QueueItem} {reserved : Bool}
    {locals : StreamLocals}
    (stands : state.owner = some ⟨caller, .taken item reserved locals⟩) :
    Flow state (state.checkTaken caller item reserved locals)
      (.checkTaken caller item reserved locals) := by
  have chosen : state.chosen = [item] := by rw [State.chosen, stands]; rfl
  have oversize : Flow state (state.setPhase caller (.oversize item))
      (.checkTaken caller item reserved locals) :=
    of_quiet rfl rfl (State.waiting_le (fun _ => le_refl _) rfl rfl
      (.inl chosen.symm)) (.inr (.inl rfl)) rfl rfl (.inl rfl)
      (fun _ _ => .inl) fun _ => rfl
  unfold State.checkTaken
  dsimp only
  split
  case isTrue =>
    split
    case isTrue => exact oversize
    case isFalse => exact beginRefresh chosen
  case isFalse =>
    split
    case isTrue => exact of_owner rfl rfl rfl rfl rfl
    case isFalse =>
      split
      case isTrue => exact oversize
      case isFalse =>
        split
        case isTrue =>
          refine of_quiet rfl rfl (fun ordinal => ?_) (.inr (.inl rfl)) rfl
            rfl (.inl rfl) (fun _ _ => .inl) fun _ => rfl
          unfold State.waiting
          rw [chosen]
          simp [State.chosen, OwnerPhase.chosen]
        case isFalse => exact beginRefresh chosen

/-- The packet is scheduled and let into the datagram, or has been erased. -/
theorem finishRefresh
    {caller : Caller} {item : QueueItem} {reserved : Bool}
    {locals : StreamLocals} {deadline : Nat} :
    Flow state (state.finishRefresh caller item reserved locals deadline)
      (.finishRefresh caller item reserved locals deadline) := by
  have waiting : ∀ {next : State}, next.calls = state.calls →
      next.sendPacketInfoQueue = state.sendPacketInfoQueue →
      next.reservedSendPacketInfo = state.reservedSendPacketInfo →
      next.chosen = [] → ∀ ordinal,
        next.waiting ordinal ≤ state.waiting ordinal :=
    fun calls queue reserved chosen => State.waiting_le
      (fun _ => by rw [calls]) queue reserved (.inr chosen)
  unfold State.finishRefresh
  split
  case isTrue erased =>
    exact
      { sequences := le_refl _
        entered := fun _ => Nat.zero_le _
        waiting := waiting rfl rfl rfl rfl
        refreshed := .inr (.inl rfl)
        heap := fun _ => Nat.le_add_right _ _
        due := fun _ => le_refl _
        mapped := fun _ _ => .inl
        transmitted := fun ordinal => by
          simp [Label.transmits, erased, State.setPhase,
            State.timesTransmitted] }
  case isFalse present =>
    dsimp only
    cases packet : item.packet with
    | data own =>
        rw [packet] at present
        exact
          { sequences := le_refl _
            entered := fun _ => Nat.zero_le _
            waiting := waiting rfl rfl rfl rfl
            refreshed := .inr (.inl rfl)
            heap := fun ordinal => by
              simp [State.pushRetransmissionSchedule, Label.schedules, packet,
                Label.pops, State.writePacket]
            due := fun _ => le_refl _
            mapped := fun _ _ => .inl
            transmitted := fun ordinal => by
              simp [State.pushRetransmissionSchedule, Label.transmits, packet,
                State.writePacket, State.timesTransmitted, List.countP_cons,
                present] }
    | reply index packetSequence =>
        exact
          { sequences := le_refl _
            entered := fun _ => Nat.zero_le _
            waiting := waiting rfl rfl rfl rfl
            refreshed := .inr (.inl rfl)
            heap := fun ordinal => by
              simp [Label.schedules, packet, Label.pops, State.writePacket]
            due := fun _ => le_refl _
            mapped := fun _ _ => .inl
            transmitted := fun ordinal => by
              simp [Label.transmits, packet, State.writePacket,
                State.timesTransmitted] }

/-- `MakeSendStream` goes on to the next packet. -/
theorem refreshed_finishRefresh
    (state : State) (caller : Caller) (item : QueueItem) (reserved : Bool)
    (locals : StreamLocals) (deadline : Nat) :
    (state.finishRefresh caller item reserved locals deadline).refreshed =
      [] := by
  unfold State.finishRefresh
  split
  case isTrue => rfl
  case isFalse =>
    dsimp only
    split <;> rfl

/-! ## The retransmission thread -/

theorem entriesFor_erase
    {entries : List HeapEntry} {entry : HeapEntry}
    (member : entry ∈ entries)
    (ordinal : Nat) :
    entriesFor ordinal (entries.erase entry) +
        (if entry.ordinal = ordinal then 1 else 0) =
      entriesFor ordinal entries := by
  have moved := (List.perm_cons_erase member).countP_eq
    fun other => decide (other.ordinal = ordinal)
  rw [List.countP_cons] at moved
  simpa [entriesFor] using moved.symm

/-- A stale entry is dropped. -/
theorem popStale
    {now : Nat} {entry : HeapEntry}
    (member : entry ∈ state.heap) :
    Flow state { state with heap := state.heap.erase entry }
      (.popStale now entry) where
  sequences := le_refl _
  entered _ := Nat.zero_le _
  waiting _ := le_refl _
  refreshed := .inl ⟨rfl, rfl⟩
  heap ordinal := by
    have moved := entriesFor_erase member ordinal
    change entriesFor ordinal (state.heap.erase entry) + 0 ≤ _ + 0
    omega
  due _ := le_refl _
  mapped _ _ := .inl
  transmitted _ := rfl

/-- A due entry comes from the heap to the due list. -/
theorem popDue
    {now : Nat} {entry : HeapEntry}
    (member : entry ∈ state.heap) :
    Flow state
      { state with
        heap := state.heap.erase entry
        dueList := state.dueList ++ [entry] }
      (.popDue now entry) where
  sequences := le_refl _
  entered _ := Nat.zero_le _
  waiting _ := le_refl _
  refreshed := .inl ⟨rfl, rfl⟩
  heap ordinal := (entriesFor_erase member ordinal).le
  due ordinal := by
    simp only [State.dueEntries, entriesFor_append, entriesFor_cons,
      entriesFor_nil, Label.pushesAgain, Label.pops]
    omega
  mapped _ _ := .inl
  transmitted _ := rfl

/-- The first due entry is taken. -/
theorem takeDue
    {entry : HeapEntry}
    (stands : state.retransmission = .processing)
    (first : state.dueList.head? = some entry) :
    Flow state
      { state with
        dueList := state.dueList.tail
        retransmission := .checking entry }
      (.takeDue entry) where
  sequences := le_refl _
  entered _ := Nat.zero_le _
  waiting _ := le_refl _
  refreshed := .inl ⟨rfl, rfl⟩
  heap _ := le_refl _
  due ordinal := by
    have split : state.dueList = entry :: state.dueList.tail :=
      List.eq_cons_of_mem_head? first
    unfold State.dueEntries
    rw [stands, split]
    simp [RetransmissionPhase.current, Label.pushesAgain, Label.pops]
  mapped _ _ := .inl
  transmitted _ := rfl

/-- A due packet is pushed once more. -/
theorem pushAgain
    {entry : HeapEntry}
    (stands : state.retransmission = .tested entry) :
    Flow state (state.pushAgain entry) (.pushAgain entry) where
  sequences := le_refl _
  entered _ := Nat.zero_le _
  waiting ordinal := by
    simp [State.waiting, State.pushAgain, State.pushSendPacketInfo,
      State.chosen, Label.enters, Label.pushesAgain]
    omega
  refreshed := .inl ⟨rfl, rfl⟩
  heap _ := le_refl _
  due ordinal := by
    simp [State.dueEntries, State.pushAgain, State.pushSendPacketInfo, stands,
      RetransmissionPhase.current, Label.pushesAgain, Label.pops]
  mapped _ _ := .inl
  transmitted _ := rfl

end Flow

/-- No step multiplies a packet. -/
theorem flow_of_step
    {maxPacketRetransmissionCount : Nat}
    {state next : State} {label : Label}
    (moves : step maxPacketRetransmissionCount state label = some next) :
    Flow state next label := by
  cases label with
  | takeSequence useSize =>
      obtain rfl := Option.some.inj moves
      exact .takeSequence useSize
  | beginReply index packetSequence useSize =>
      simp only [step, Option.ite_none_right_eq_some, Option.some.injEq]
        at moves
      obtain ⟨-, rfl⟩ := moves
      exact .of_calls rfl rfl (unpushed_of_reply rfl) rfl
  | allocFails packet =>
      simp only [step, Option.ite_none_right_eq_some, Option.some.injEq]
        at moves
      obtain ⟨-, rfl⟩ := moves
      exact .of_calls rfl rfl (unpushed_update (Nat.zero_le _)) rfl
  | insert packet =>
      simp only [step, Option.ite_none_right_eq_some, Option.some.injEq]
        at moves
      obtain ⟨stands, rfl⟩ := moves
      exact .insert stands
  | testRelease packet =>
      simp only [step, Option.ite_none_right_eq_some, Option.some.injEq]
        at moves
      obtain ⟨stands, rfl⟩ := moves
      refine .of_calls rfl rfl (unpushed_update ?_) rfl
      rw [stands]
      split
      case isTrue => exact Nat.zero_le _
      case isFalse => exact le_refl _
  | push packet =>
      simp only [step, Option.ite_none_right_eq_some, Option.some.injEq]
        at moves
      obtain ⟨stands, rfl⟩ := moves
      exact .push stands
  | sendReturns packet result =>
      simp only [step, Option.ite_none_right_eq_some, Option.some.injEq]
        at moves
      obtain ⟨-, rfl⟩ := moves
      refine .of_calls rfl rfl (unpushed_update ?_) rfl
      split <;> exact Nat.zero_le _
  | markErased packet =>
      simp only [step, Option.ite_none_right_eq_some, Option.some.injEq]
        at moves
      obtain ⟨-, rfl⟩ := moves
      exact .of_calls rfl rfl (unpushed_update (Nat.zero_le _)) rfl
  | eraseFromMap packet =>
      simp only [step, Option.ite_none_right_eq_some, Option.some.injEq]
        at moves
      obtain ⟨-, rfl⟩ := moves
      cases packet with
      | reply index packetSequence =>
          exact .of_calls rfl rfl (unpushed_of_reply rfl) rfl
      | data ordinal =>
          exact .of_erased rfl rfl (unpushed_update (Nat.zero_le _)) rfl rfl
  | failDisconnect packet =>
      simp only [step, Option.ite_none_right_eq_some, Option.some.injEq]
        at moves
      obtain ⟨-, rfl⟩ := moves
      exact .of_calls rfl rfl (unpushed_update (Nat.zero_le _)) rfl
  | enterDoSend caller =>
      simp only [step, Option.ite_none_right_eq_some, Option.some.injEq]
        at moves
      obtain ⟨-, rfl⟩ := moves
      exact .of_stores rfl rfl rfl rfl
  | acquire caller =>
      simp only [step, Option.ite_none_right_eq_some] at moves
      obtain ⟨-, moves⟩ := moves
      split at moves
      case isTrue =>
        obtain rfl := Option.some.inj moves
        exact .of_owner rfl rfl rfl rfl rfl
      case isFalse =>
        obtain rfl := Option.some.inj moves
        exact .of_stores rfl rfl rfl rfl
  | recheck caller =>
      simp only [step, Option.ite_none_right_eq_some, Option.some.injEq]
        at moves
      obtain ⟨-, rfl⟩ := moves
      exact .of_stores rfl rfl rfl rfl
  | ownerTest caller =>
      simp only [step, Option.ite_none_right_eq_some, Option.some.injEq]
        at moves
      obtain ⟨-, rfl⟩ := moves
      split <;> exact .of_owner rfl rfl rfl rfl rfl
  | ownerLook caller =>
      simp only [step, Option.ite_none_right_eq_some, Option.some.injEq]
        at moves
      obtain ⟨-, rfl⟩ := moves
      split <;> exact .of_owner rfl rfl rfl rfl rfl
  | contextFails caller =>
      simp only [step, Option.ite_none_right_eq_some, Option.some.injEq]
        at moves
      obtain ⟨-, rfl⟩ := moves
      exact .of_owner rfl rfl rfl rfl rfl
  | measureQueue caller =>
      simp only [step, Option.ite_none_right_eq_some, Option.some.injEq]
        at moves
      obtain ⟨-, rfl⟩ := moves
      exact .of_owner rfl rfl rfl rfl rfl
  | takeReserved caller bufferCount =>
      simp only [step, Option.ite_none_right_eq_some, Option.some.injEq]
        at moves
      obtain ⟨-, rfl⟩ := moves
      exact .takeReserved
  | checkTaken caller item reserved locals =>
      simp only [step, Option.ite_none_right_eq_some, Option.some.injEq]
        at moves
      obtain ⟨stands, rfl⟩ := moves
      exact .checkTaken stands
  | finishRefresh caller item reserved locals deadline =>
      simp only [step, Option.ite_none_right_eq_some, Option.some.injEq]
        at moves
      obtain ⟨-, rfl⟩ := moves
      exact .finishRefresh
  | popQueue caller locals =>
      simp only [step, Option.ite_none_right_eq_some, Option.some.injEq]
        at moves
      obtain ⟨-, rfl⟩ := moves
      exact .popQueue
  | oversizeDisconnect caller item =>
      simp only [step, Option.ite_none_right_eq_some, Option.some.injEq]
        at moves
      obtain ⟨-, rfl⟩ := moves
      exact .of_owner rfl rfl rfl rfl rfl
  | emptyStream caller =>
      simp only [step, Option.ite_none_right_eq_some, Option.some.injEq]
        at moves
      obtain ⟨-, rfl⟩ := moves
      exact .of_owner rfl rfl rfl rfl rfl
  | simulateLoss caller length =>
      simp only [step, Option.ite_none_right_eq_some, Option.some.injEq]
        at moves
      obtain ⟨-, rfl⟩ := moves
      exact .of_owner rfl rfl rfl rfl rfl
  | tryRioSend caller length result =>
      cases result with
      | true =>
          simp only [step, Option.ite_none_right_eq_some, Option.some.injEq]
            at moves
          obtain ⟨-, rfl⟩ := moves
          exact .of_owner rfl rfl rfl rfl rfl
      | false =>
          simp only [step, Option.ite_none_right_eq_some, Option.some.injEq]
            at moves
          obtain ⟨-, rfl⟩ := moves
          exact .of_owner rfl rfl rfl rfl rfl
  | releaseIoSending caller after =>
      simp only [step, Option.ite_none_right_eq_some, Option.some.injEq]
        at moves
      obtain ⟨-, rfl⟩ := moves
      exact .of_owner rfl rfl rfl rfl rfl
  | sendIoCompleted =>
      simp only [step, Option.ite_none_right_eq_some, Option.some.injEq]
        at moves
      obtain ⟨-, rfl⟩ := moves
      exact .of_stores rfl rfl rfl rfl
  | completionReturns result =>
      simp only [step, Option.ite_none_right_eq_some, Option.some.injEq]
        at moves
      obtain ⟨-, rfl⟩ := moves
      exact .of_stores rfl rfl rfl rfl
  | collect now =>
      simp only [step, Option.ite_none_right_eq_some, Option.some.injEq]
        at moves
      obtain ⟨-, rfl⟩ := moves
      exact .of_retransmission rfl rfl rfl (.inr rfl) rfl
  | popStale now entry =>
      simp only [step, Option.ite_none_right_eq_some, Option.some.injEq]
        at moves
      obtain ⟨⟨-, top, -⟩, rfl⟩ := moves
      exact .popStale top.1
  | popDue now entry =>
      simp only [step, Option.ite_none_right_eq_some, Option.some.injEq]
        at moves
      obtain ⟨⟨-, top, -⟩, rfl⟩ := moves
      exact .popDue top.1
  | stopCollecting now =>
      simp only [step, Option.ite_none_right_eq_some, Option.some.injEq]
        at moves
      obtain ⟨-, rfl⟩ := moves
      exact .of_retransmission rfl rfl rfl (.inr rfl) rfl
  | takeDue entry =>
      simp only [step, Option.ite_none_right_eq_some, Option.some.injEq]
        at moves
      obtain ⟨⟨stands, first⟩, rfl⟩ := moves
      exact .takeDue stands first
  | finishDue =>
      simp only [step, Option.ite_none_right_eq_some, Option.some.injEq]
        at moves
      obtain ⟨-, rfl⟩ := moves
      exact .of_retransmission rfl rfl rfl (.inr rfl) rfl
  | checkDue entry =>
      simp only [step, Option.ite_none_right_eq_some, Option.some.injEq]
        at moves
      obtain ⟨stands, rfl⟩ := moves
      unfold State.checkDue
      dsimp only
      split
      case isTrue => exact .of_retransmission rfl rfl rfl (.inr rfl) rfl
      case isFalse =>
        refine .of_retransmission rfl rfl rfl (.inl ?_) rfl
        rw [stands]
        split <;> rfl
  | disconnectExceeded entry =>
      simp only [step, Option.ite_none_right_eq_some, Option.some.injEq]
        at moves
      obtain ⟨-, rfl⟩ := moves
      exact .of_retransmission rfl rfl rfl (.inr rfl) rfl
  | testReleaseAgain entry =>
      simp only [step, Option.ite_none_right_eq_some, Option.some.injEq]
        at moves
      obtain ⟨stands, rfl⟩ := moves
      split
      case isTrue => exact .of_retransmission rfl rfl rfl (.inr rfl) rfl
      case isFalse =>
        exact .of_retransmission rfl rfl rfl (.inl (by rw [stands]; rfl)) rfl
  | pushAgain entry =>
      simp only [step, Option.ite_none_right_eq_some, Option.some.injEq]
        at moves
      obtain ⟨stands, rfl⟩ := moves
      exact .pushAgain stands
  | sendAgainReturns result =>
      simp only [step, Option.ite_none_right_eq_some, Option.some.injEq]
        at moves
      obtain ⟨-, rfl⟩ := moves
      split <;> exact .of_retransmission rfl rfl rfl (.inr rfl) rfl
  | disconnectFailed =>
      simp only [step, Option.ite_none_right_eq_some, Option.some.injEq]
        at moves
      obtain ⟨-, rfl⟩ := moves
      exact .of_retransmission rfl rfl rfl (.inr rfl) rfl
  | ackErase packetSequence ordinal =>
      simp only [step, Option.ite_none_right_eq_some, Option.some.injEq]
        at moves
      obtain ⟨-, rfl⟩ := moves
      exact .of_erased rfl rfl (fun _ => le_refl _) rfl rfl
  | ackMark ordinal =>
      simp only [step, Option.ite_none_right_eq_some, Option.some.injEq]
        at moves
      obtain ⟨-, rfl⟩ := moves
      exact .of_stores rfl rfl rfl rfl
  | disconnect =>
      obtain rfl := Option.some.inj moves
      exact .of_stores rfl rfl rfl rfl
  | raiseReleaseFlag =>
      simp only [step, Option.ite_none_right_eq_some, Option.some.injEq]
        at moves
      obtain ⟨-, rfl⟩ := moves
      exact .of_stores rfl rfl rfl rfl

end Retransmission
end MultiSocketRudp
