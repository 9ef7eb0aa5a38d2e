import MultiSocketRudp.Server.SendFlow

/-!
# Pending packets are not stranded

In a run in which every packet enters the pending queue behind packets with
smaller sequences, the queue is sorted and its front is refused by the window.
Every sequence below the front is then held by a call, in the map, or below the
last acknowledged one, so that the sequence right in front of the queue is in
the map once no call is in progress.

Sequences are allocated before the lock is taken, so a thread can overtake
another one and put a larger sequence in front of a smaller one.
-/

namespace MultiSocketRudp
namespace SendFlow

open TransitionSystems SerialNumber

/-- A packet takes the pending lock only when nothing with a larger sequence is
pending, and sequences stay below half of their number space. -/
def EntersInOrder (session : Session) : Label → Prop
  | .enterLock _ frame =>
      ∀ item ∈ session.pendingPacketQueue,
        item.packetSequence.toNat < frame.packetSequence.toNat
  | .allocateData _ | .allocateHeartbeat _ =>
      session.lastSendPacketSequence.toNat + 1 < 2 ^ 63
  | _ => True

/-- Sequences of pending items. -/
def sequences (items : List PendingItem) : List PacketSequence :=
  items.map PendingItem.packetSequence

/-- The call still has to register or acknowledge the sequence. -/
def CallState.Holds (packetSequence : PacketSequence) : CallState → Prop
  | .allocated frame => frame.packetSequence = packetSequence
  | .immediate frame rest =>
      (frame.isReplyType = false ∧ frame.packetSequence = packetSequence) ∨
        packetSequence ∈ sequences rest
  | .inserted _ rest => packetSequence ∈ sequences rest
  | .encoded _ rest => packetSequence ∈ sequences rest
  | .acked erased => erased = packetSequence
  | _ => False

/-- Sequences that wait for the pending lock or are being acknowledged are not
above the counter; replies do not take the lock. -/
def CallState.Bounded (last : PacketSequence) : CallState → Prop
  | .allocated frame =>
      frame.packetSequence.toNat ≤ last.toNat ∧ frame.isReplyType = false
  | .acked packetSequence => packetSequence.toNat ≤ last.toNat
  | _ => True

theorem CallState.Bounded.mono
    {first last : PacketSequence}
    {state : CallState}
    (bounded : state.Bounded first)
    (grows : first.toNat ≤ last.toNat) :
    state.Bounded last := by
  cases state with
  | allocated frame => exact ⟨bounded.1.trans grows, bounded.2⟩
  | acked packetSequence => exact Nat.le_trans bounded grows
  | _ => trivial

/-- The sequence is pending, in flight or not above the last acknowledged one. -/
def Placed (session : Session) (packetSequence : PacketSequence) : Prop :=
  packetSequence ∈ sequences session.pendingPacketQueue ∨
    packetSequence ∈ session.sendPacketInfoMap ∨
    packetSequence.toNat ≤
      session.flowController.lastReplySequence.toNat

/-- The sequence is placed, or a call holds it. -/
def Located (session : Session) (packetSequence : PacketSequence) : Prop :=
  (∃ call, (session.calls call).Holds packetSequence) ∨
    Placed session packetSequence

/-- The front of the pending queue waits for the window, unless a call is about
to flush. -/
def FrontRefused (session : Session) : Prop :=
  ∀ item rest, session.pendingPacketQueue = item :: rest →
    session.flowController.canSend item.packetSequence = false ∨
      ∃ call, session.calls call = .ackReceived

/-- The invariant of the runs that enter the queue in order. -/
structure QueueInvariant (session : Session) : Prop where
  /-- The counter stays below half of the number space. -/
  last_small : session.lastSendPacketSequence.toNat < 2 ^ 63
  /-- Nothing above the counter is acknowledged. -/
  reply_le :
    session.flowController.lastReplySequence.toNat ≤
      session.lastSendPacketSequence.toNat
  /-- Nothing above the counter is held before the lock or acknowledged. -/
  bounded : ∀ call,
    (session.calls call).Bounded session.lastSendPacketSequence
  /-- Nothing above the counter is pending. -/
  pending_le : ∀ packetSequence ∈ sequences session.pendingPacketQueue,
    packetSequence.toNat ≤ session.lastSendPacketSequence.toNat
  /-- The pending queue is sorted. -/
  sorted :
    (sequences session.pendingPacketQueue).Pairwise
      fun first second => first.toNat < second.toNat
  /-- The front is refused by the window. -/
  refused : FrontRefused session
  /-- No sequence is lost while the session is connected and no call fails. -/
  located :
    session.state = .connected →
    (∀ call, session.calls call ≠ .failing) →
    ∀ packetSequence : PacketSequence,
      0 < packetSequence.toNat →
      packetSequence.toNat ≤ session.lastSendPacketSequence.toNat →
      Located session packetSequence

/-- Without calls in progress the sequence in front of the queue is in the map. -/
theorem QueueInvariant.notStranded
    {session : Session}
    (holds : QueueInvariant session) :
    NotStranded session := by
  intro quiescent connected _ nonempty
  obtain ⟨item, rest, pending⟩ := List.exists_cons_of_ne_nil nonempty
  have front_le := holds.pending_le item.packetSequence
    (by simp [sequences, pending])
  have last_small := holds.last_small
  have reply_le := holds.reply_le
  have front_far :
      session.flowController.lastReplySequence.toNat + 1 <
        item.packetSequence.toNat := by
    have refused := (holds.refused item rest pending).resolve_right
      fun ⟨call, stands⟩ => by simp [quiescent call] at stands
    have far := RudpFlowController.lt_signedDiff_of_not_canSend refused
    rw [signedDiff_eq_sub_of_lt (by omega) (by omega)] at far
    omega
  let previous := item.packetSequence - 1
  have previous_eq : previous.toNat = item.packetSequence.toNat - 1 := by
    have one : (1 : PacketSequence).toNat ≤ item.packetSequence.toNat := by
      rw [show (1 : PacketSequence).toNat = 1 from rfl]
      omega
    rw [BitVec.toNat_sub_of_le one]
    rfl
  have located := holds.located connected
    (fun call => by simp [quiescent call]) previous (by omega) (by omega)
  rcases located with ⟨call, held⟩ | inQueue | inMap | acknowledged
  · rw [quiescent call] at held
    exact held.elim
  · have sorted := holds.sorted
    simp only [sequences, pending, List.map_cons, List.pairwise_cons] at sorted
    simp only [sequences, pending, List.map_cons, List.mem_cons] at inQueue
    rcases inQueue with same | later
    · have values := congrArg BitVec.toNat same
      omega
    · have above := sorted.1 previous later
      omega
  · exact List.ne_nil_of_mem inMap
  · omega

/-! ## Steps -/

namespace QueueInvariant

variable {session : Session}

/-- The call that makes a step is bounded before it. -/
theorem at_call
    (holds : QueueInvariant session)
    {call : Nat} {state : CallState}
    (stands : session.calls call = state) :
    state.Bounded session.lastSendPacketSequence :=
  stands ▸ holds.bounded call

/-- Bounds after one call has moved. -/
theorem bounded_update
    {calls : Nat → CallState}
    {last : PacketSequence}
    (bounded : ∀ call, (calls call).Bounded last)
    (call : Nat)
    {moved : CallState}
    (sound : moved.Bounded last)
    (other : Nat) :
    (Function.update calls call moved other).Bounded last := by
  revert other
  exact (Function.forall_update_iff calls
    fun _ state => state.Bounded last).mpr
      ⟨sound, fun other _ => bounded other⟩

/-- A call that is about to flush still is after another call has moved. -/
theorem ackReceived_update
    {calls : Nat → CallState}
    {call : Nat}
    {moved : CallState}
    (notFlushing : calls call ≠ .ackReceived)
    (flushes : ∃ other, calls other = .ackReceived) :
    ∃ other, Function.update calls call moved other = .ackReceived := by
  obtain ⟨other, stands⟩ := flushes
  have distinct : other ≠ call := by
    rintro rfl
    exact notFlushing stands
  exact ⟨other, by rw [Function.update_of_ne distinct, stands]⟩

/-- What a call holds stays located when the call moves, provided that the call
or the new containers keep what it held and what was placed. -/
theorem located_update
    {next : Session}
    {call : Nat}
    {moved : CallState}
    (calls_eq : next.calls = Function.update session.calls call moved)
    {packetSequence : PacketSequence}
    (keepsHeld :
      (session.calls call).Holds packetSequence →
        moved.Holds packetSequence ∨ Placed next packetSequence)
    (keepsPlaced :
      Placed session packetSequence →
        moved.Holds packetSequence ∨ Placed next packetSequence)
    (located : Located session packetSequence) :
    Located next packetSequence := by
  have fromCall : moved.Holds packetSequence → Located next packetSequence :=
    fun held => .inl ⟨call, by rwa [calls_eq, Function.update_self]⟩
  rcases located with ⟨other, held⟩ | placed
  · by_cases same : other = call
    · subst same
      exact (keepsHeld held).elim fromCall .inr
    · exact .inl ⟨other, by rwa [calls_eq, Function.update_of_ne same]⟩
  · exact (keepsPlaced placed).elim fromCall .inr

/-- No call fails before a step that moves one call, unless the step itself
starts or ends the failure. -/
theorem noneFailing_of_update
    {calls : Nat → CallState}
    {call : Nat}
    {moved : CallState}
    (notFailing : calls call ≠ .failing)
    (none : ∀ other, Function.update calls call moved other ≠ .failing)
    (other : Nat) :
    calls other ≠ .failing := by
  by_cases same : other = call
  · exact same ▸ notFailing
  · have unchanged := none other
    rwa [Function.update_of_ne same] at unchanged

/-- Steps that move one call and change nothing but the map. -/
theorem moveCall
    (holds : QueueInvariant session)
    {call : Nat}
    {stands : CallState}
    (at_stands : session.calls call = stands)
    (notFlushing : stands ≠ .ackReceived)
    (notFailing : stands ≠ .failing)
    (moved : CallState)
    (map : List PacketSequence)
    (bounded : moved.Bounded session.lastSendPacketSequence)
    (keeps :
      moved = .failing ∨
        ∀ packetSequence,
          stands.Holds packetSequence ∨
            packetSequence ∈ session.sendPacketInfoMap →
          moved.Holds packetSequence ∨ packetSequence ∈ map) :
    QueueInvariant
      { session with
        sendPacketInfoMap := map
        calls := Function.update session.calls call moved } where
  last_small := holds.last_small
  reply_le := holds.reply_le
  bounded := bounded_update holds.bounded call bounded
  pending_le := holds.pending_le
  sorted := holds.sorted
  refused item rest pending :=
    (holds.refused item rest pending).imp id
      (ackReceived_update (at_stands ▸ notFlushing))
  located connected noneFailing packetSequence positive upTo := by
    have kept := keeps.resolve_left fun failing =>
      noneFailing call (by simp [failing])
    have before := holds.located connected
      (noneFailing_of_update (at_stands ▸ notFailing) noneFailing)
      packetSequence positive upTo
    refine located_update rfl ?_ ?_ before
    · intro held
      rw [at_stands] at held
      exact (kept packetSequence (.inl held)).imp id fun inMap =>
        .inr (.inl inMap)
    · rintro (pending | inMap | acknowledged)
      · exact .inr (.inl pending)
      · exact (kept packetSequence (.inr inMap)).imp id fun inMap =>
          .inr (.inl inMap)
      · exact .inr (.inr (.inr acknowledged))

/-- Allocation of the next sequence. -/
theorem allocate
    (holds : QueueInvariant session)
    {call : Nat}
    {stands : CallState}
    (at_stands : session.calls call = stands)
    (notFlushing : stands ≠ .ackReceived)
    (notFailing : stands ≠ .failing)
    (holdsNothing : ∀ packetSequence, ¬ stands.Holds packetSequence)
    (small : session.lastSendPacketSequence.toNat + 1 < 2 ^ 63)
    {frame : Frame}
    (sequence_eq : frame.packetSequence = session.lastSendPacketSequence + 1)
    (noReply : frame.isReplyType = false) :
    QueueInvariant
      { session with
        lastSendPacketSequence := session.lastSendPacketSequence + 1
        calls := Function.update session.calls call (.allocated frame) } := by
  have next_eq :
      (session.lastSendPacketSequence + 1).toNat =
        session.lastSendPacketSequence.toNat + 1 := by
    rw [BitVec.toNat_add]
    exact Nat.mod_eq_of_lt (by
      change session.lastSendPacketSequence.toNat + 1 < 2 ^ 64
      omega)
  have grows :
      session.lastSendPacketSequence.toNat ≤
        (session.lastSendPacketSequence + 1).toNat := by
    omega
  exact
    { last_small := by
        change (session.lastSendPacketSequence + 1).toNat < 2 ^ 63
        omega
      reply_le := holds.reply_le.trans grows
      bounded :=
        bounded_update (fun other => (holds.bounded other).mono grows) call
          ⟨by rw [sequence_eq], noReply⟩
      pending_le := fun packetSequence member =>
        (holds.pending_le packetSequence member).trans grows
      sorted := holds.sorted
      refused := fun item rest pending =>
        (holds.refused item rest pending).imp id
          (ackReceived_update (at_stands ▸ notFlushing))
      located := by
        intro connected noneFailing packetSequence positive upTo
        change _ ≤ (session.lastSendPacketSequence + 1).toNat at upTo
        by_cases fresh :
            packetSequence.toNat ≤ session.lastSendPacketSequence.toNat
        · have before := holds.located connected
            (noneFailing_of_update (at_stands ▸ notFailing) noneFailing)
            packetSequence positive fresh
          refine located_update rfl ?_ ?_ before
          · intro held
            rw [at_stands] at held
            exact absurd held (holdsNothing packetSequence)
          · exact fun placed => .inr placed
        · refine .inl ⟨call, ?_⟩
          simp only [Function.update_self, CallState.Holds, sequence_eq]
          exact BitVec.eq_of_toNat_eq (by omega) }

/-- A packet that is queued behind smaller sequences. -/
theorem push
    (holds : QueueInvariant session)
    {call : Nat}
    {frame : Frame}
    (stands : session.calls call = .allocated frame)
    (queues :
      session.pendingPacketQueue ≠ [] ∨
        session.flowController.canSend frame.packetSequence = false)
    (inOrder :
      ∀ item ∈ session.pendingPacketQueue,
        item.packetSequence.toNat < frame.packetSequence.toNat) :
    QueueInvariant
      { session with
        pendingPacketQueue :=
          session.pendingPacketQueue ++
            [⟨frame.packetSequence, frame.packetType⟩]
        calls := Function.update session.calls call .idle } := by
  have sequences_push :
      sequences (session.pendingPacketQueue ++
          [⟨frame.packetSequence, frame.packetType⟩]) =
        sequences session.pendingPacketQueue ++ [frame.packetSequence] := by
    simp [sequences]
  exact
    { last_small := holds.last_small
      reply_le := holds.reply_le
      bounded := bounded_update holds.bounded call trivial
      pending_le := by
        intro packetSequence member
        rw [sequences_push, List.mem_append, List.mem_singleton] at member
        rcases member with old | rfl
        · exact holds.pending_le packetSequence old
        · exact (holds.at_call stands).1
      sorted := by
        rw [sequences_push, List.pairwise_append]
        refine ⟨holds.sorted, List.pairwise_singleton _ _, ?_⟩
        intro packetSequence old _ new
        obtain ⟨item, member, rfl⟩ := List.mem_map.mp old
        obtain rfl := List.mem_singleton.mp new
        exact inOrder item member
      refused := by
        intro item rest pending
        have notFlushing : session.calls call ≠ .ackReceived := by
          simp [stands]
        cases queue : session.pendingPacketQueue with
        | nil =>
            have refused := queues.resolve_left (not_not.mpr queue)
            simp only [queue, List.nil_append, List.cons.injEq] at pending
            obtain ⟨rfl, -⟩ := pending
            exact .inl refused
        | cons first others =>
            simp only [queue, List.cons_append, List.cons.injEq] at pending
            obtain ⟨rfl, -⟩ := pending
            exact (holds.refused first others queue).imp id
              (ackReceived_update notFlushing)
      located := by
        intro connected noneFailing packetSequence positive upTo
        have before := holds.located connected
          (noneFailing_of_update (by simp [stands]) noneFailing)
          packetSequence positive upTo
        refine located_update rfl ?_ ?_ before
        · intro held
          rw [stands] at held
          refine .inr (.inl ?_)
          rw [sequences_push, ← show frame.packetSequence = packetSequence
            from held]
          simp
        · rintro (pending | other)
          · refine .inr (.inl ?_)
            rw [sequences_push]
            exact List.mem_append_left _ pending
          · exact .inr (.inr other) }

/-- The acknowledgement moves the window over the erased sequence. -/
theorem ackUpdate
    (holds : QueueInvariant session)
    {call : Nat}
    {erased : PacketSequence}
    (stands : session.calls call = .acked erased) :
    QueueInvariant
      { session with
        flowController := session.flowController.onAckReceived erased
        calls := Function.update session.calls call .ackReceived } := by
  have erased_le := holds.at_call stands
  simp only [CallState.Bounded] at erased_le
  have last_small := holds.last_small
  have reply_le := holds.reply_le
  have reply_max :
      (session.flowController.onAckReceived erased).lastReplySequence.toNat =
        max session.flowController.lastReplySequence.toNat erased.toNat := by
    rw [RudpFlowController.lastReplySequence_onAckReceived,
      signedDiff_eq_sub_of_lt (by omega) (by omega)]
    split <;> omega
  exact
    { last_small := last_small
      reply_le := by
        change
          (session.flowController.onAckReceived erased).lastReplySequence.toNat
            ≤ session.lastSendPacketSequence.toNat
        omega
      bounded := bounded_update holds.bounded call trivial
      pending_le := holds.pending_le
      sorted := holds.sorted
      refused := fun item rest pending =>
        .inr ⟨call, Function.update_self ..⟩
      located := by
        intro connected noneFailing packetSequence positive upTo
        have before := holds.located connected
          (noneFailing_of_update (by simp [stands]) noneFailing)
          packetSequence positive upTo
        refine located_update rfl ?_ ?_ before
        · intro held
          rw [stands] at held
          refine .inr (.inr (.inr ?_))
          rw [reply_max, ← show erased = packetSequence from held]
          exact le_max_right _ _
        · rintro (pending | inMap | acknowledged)
          · exact .inr (.inl pending)
          · exact .inr (.inr (.inl inMap))
          · refine .inr (.inr (.inr ?_))
            rw [reply_max]
            exact acknowledged.trans (le_max_left _ _) }

/-- The call that starts the sending of flushed items holds all of them. -/
theorem holds_sendNext
    {items : List PendingItem}
    {packetSequence : PacketSequence}
    (member : packetSequence ∈ sequences items) :
    (sendNext items).Holds packetSequence := by
  cases items with
  | nil => simp [sequences] at member
  | cons item rest =>
      rcases List.mem_cons.mp member with rfl | later
      · exact .inl ⟨rfl, rfl⟩
      · exact .inr later

/-- Flushing keeps what the window refuses, and the call holds the rest. -/
theorem flush
    (holds : QueueInvariant session)
    {call : Nat}
    (stands : session.calls call = .ackReceived) :
    QueueInvariant
      { session with
        pendingPacketQueue :=
          session.pendingPacketQueue.dropWhile (sendable session)
        calls :=
          Function.update session.calls call
            (sendNext
              (session.pendingPacketQueue.takeWhile (sendable session))) } := by
  have kept := (List.dropWhile_suffix (sendable session)
    (l := session.pendingPacketQueue)).map PendingItem.packetSequence
  exact
    { last_small := holds.last_small
      reply_le := holds.reply_le
      bounded := by
        refine bounded_update holds.bounded call ?_
        cases session.pendingPacketQueue.takeWhile (sendable session) <;>
          trivial
      pending_le := fun packetSequence member =>
        holds.pending_le packetSequence (kept.mem member)
      sorted := holds.sorted.sublist kept.sublist
      refused := by
        intro item rest pending
        have stops := List.head?_dropWhile_not (sendable session)
          session.pendingPacketQueue
        change List.dropWhile _ _ = item :: rest at pending
        rw [pending] at stops
        exact .inl stops
      located := by
        intro connected noneFailing packetSequence positive upTo
        have before := holds.located connected
          (noneFailing_of_update (by simp [stands]) noneFailing)
          packetSequence positive upTo
        refine located_update rfl ?_ ?_ before
        · intro held
          rw [stands] at held
          exact held.elim
        · rintro (pending | other)
          · rw [sequences, ← List.takeWhile_append_dropWhile
              (p := sendable session) (l := session.pendingPacketQueue),
              List.map_append, List.mem_append] at pending
            rcases pending with taken | left
            · exact .inl (holds_sendNext taken)
            · exact .inr (.inl left)
          · exact .inr (.inr other) }

/-- A smaller window refuses what was refused. -/
theorem timeout
    (holds : QueueInvariant session) :
    QueueInvariant
      { session with
        flowController := session.flowController.onTimeout } where
  last_small := holds.last_small
  reply_le := holds.reply_le
  bounded := holds.bounded
  pending_le := holds.pending_le
  sorted := holds.sorted
  refused item rest pending :=
    (holds.refused item rest pending).imp
      (fun refused => by
        rw [← Bool.not_eq_true] at refused ⊢
        exact fun admitted =>
          refused (RudpFlowController.canSend_onTimeout admitted))
      id
  located := holds.located

/-- After `DoDisconnect` nothing has to be located any more. -/
theorem disconnect
    (holds : QueueInvariant session)
    (calls : Nat → CallState)
    (bounded :
      ∀ call, (calls call).Bounded session.lastSendPacketSequence)
    (flushing :
      (∃ call, session.calls call = .ackReceived) →
        ∃ call, calls call = .ackReceived) :
    QueueInvariant (doDisconnect { session with calls }) := by
  have released (state : SessionState)
      (released : state ≠ .connected)
      (nowInReleaseThread : Bool) :
      QueueInvariant { session with state, nowInReleaseThread, calls } :=
    { last_small := holds.last_small
      reply_le := holds.reply_le
      bounded := bounded
      pending_le := holds.pending_le
      sorted := holds.sorted
      refused := fun item rest pending =>
        (holds.refused item rest pending).imp id flushing
      located := fun connected => absurd connected released }
  unfold doDisconnect
  cases session.state <;> exact released _ (by decide) _

end QueueInvariant

/-- Every step that enters the queue in order keeps the invariant. -/
theorem queueInvariant_step
    {capacity : Nat}
    {session next : Session}
    {label : Label}
    (holds : QueueInvariant session)
    (inOrder : EntersInOrder session label)
    (moves : step capacity session label = some next) :
    QueueInvariant next := by
  cases label with
  | beginSendPacket call =>
      simp only [step, Option.ite_none_right_eq_some, Option.some.injEq]
        at moves
      obtain ⟨⟨stands, -⟩, rfl⟩ := moves
      exact holds.moveCall stands (by simp) (by simp) _ _ trivial
        (.inr fun _ => by simp [CallState.Holds])
  | allocateData call =>
      simp only [step, Option.ite_none_right_eq_some, Option.some.injEq]
        at moves
      obtain ⟨stands, rfl⟩ := moves
      exact holds.allocate stands (by simp) (by simp)
        (fun _ => by simp [CallState.Holds]) inOrder rfl rfl
  | beginHeartbeat call =>
      simp only [step, Option.ite_none_right_eq_some, Option.some.injEq]
        at moves
      obtain ⟨⟨stands, -⟩, rfl⟩ := moves
      exact holds.moveCall stands (by simp) (by simp) _ _ trivial
        (.inr fun _ => by simp [CallState.Holds])
  | checkHeartbeat call =>
      simp only [step, Option.ite_none_right_eq_some, Option.some.injEq]
        at moves
      obtain ⟨stands, rfl⟩ := moves
      refine holds.moveCall stands (by simp) (by simp) _ _ ?_ (.inr ?_)
      · split <;> trivial
      · rintro packetSequence (held | inMap)
        · exact held.elim
        · exact .inr inMap
  | allocateHeartbeat call =>
      simp only [step, Option.ite_none_right_eq_some, Option.some.injEq]
        at moves
      obtain ⟨stands, rfl⟩ := moves
      exact holds.allocate stands (by simp) (by simp)
        (fun _ => by simp [CallState.Holds]) inOrder rfl rfl
  | allocFails call =>
      simp only [step, Option.ite_none_right_eq_some, Option.some.injEq]
        at moves
      obtain ⟨stands | stands, rfl⟩ := moves
      · exact holds.moveCall stands (by simp) (by simp) _ _ trivial (.inl rfl)
      · exact holds.moveCall stands (by simp) (by simp) _ _ trivial (.inl rfl)
  | beginReply call packetSequence =>
      simp only [step, Option.ite_none_right_eq_some, Option.some.injEq]
        at moves
      obtain ⟨stands, rfl⟩ := moves
      exact holds.moveCall stands (by simp) (by simp) _ _ trivial
        (.inr fun _ => by simp [CallState.Holds, sequences])
  | enterLock call frame =>
      simp only [step, Option.ite_none_right_eq_some, Option.some.injEq]
        at moves
      obtain ⟨stands, rfl⟩ := moves
      have noReply := (holds.at_call stands).2
      unfold enterPendingLock
      split
      case isTrue queues =>
        split
        · exact holds.moveCall stands (by simp) (by simp) _ _ trivial
            (.inl rfl)
        · exact holds.push stands queues inOrder
      case isFalse =>
        refine holds.moveCall stands (by simp) (by simp) _ _ trivial
          (.inr ?_)
        intro packetSequence
        simp [CallState.Holds, noReply, sequences]
  | infoAllocFails call frame rest =>
      simp only [step, Option.ite_none_right_eq_some, Option.some.injEq]
        at moves
      obtain ⟨stands, rfl⟩ := moves
      exact holds.moveCall stands (by simp) (by simp) _ _ trivial (.inl rfl)
  | insert call frame rest =>
      simp only [step, Option.ite_none_right_eq_some, Option.some.injEq]
        at moves
      obtain ⟨stands, rfl⟩ := moves
      refine holds.moveCall stands (by simp) (by simp) _ _ trivial (.inr ?_)
      rintro packetSequence ((⟨noReply, rfl⟩ | later) | inMap)
      · refine .inr ?_
        unfold insertSendPacketInfo
        split
        case isTrue present => simpa [noReply] using present
        case isFalse => simp
      · exact .inl later
      · refine .inr ?_
        unfold insertSendPacketInfo
        split
        · exact inMap
        · exact List.mem_cons_of_mem _ inMap
  | encode call frame rest =>
      simp only [step, Option.ite_none_right_eq_some, Option.some.injEq]
        at moves
      obtain ⟨stands, rfl⟩ := moves
      have moved := holds.moveCall stands (by simp) (by simp)
        (.encoded frame rest) session.sendPacketInfoMap trivial
        (.inr fun _ => by simp [CallState.Holds])
      exact ⟨moved.last_small, moved.reply_le, moved.bounded,
        moved.pending_le, moved.sorted, moved.refused, moved.located⟩
  | coreSendPacket call frame rest sent =>
      cases sent with
      | true =>
          simp only [step, Option.ite_none_right_eq_some, Option.some.injEq]
            at moves
          obtain ⟨⟨stands, -⟩, rfl⟩ := moves
          refine holds.moveCall stands (by simp) (by simp) _ _ ?_ (.inr ?_)
          · cases rest <;> trivial
          · rintro packetSequence (later | inMap)
            · exact .inl (QueueInvariant.holds_sendNext later)
            · exact .inr inMap
      | false =>
          simp only [step, Option.ite_none_right_eq_some, Option.some.injEq]
            at moves
          obtain ⟨stands, rfl⟩ := moves
          exact holds.moveCall stands (by simp) (by simp) _ _ trivial
            (.inl rfl)
  | ackErase call packetSequence =>
      simp only [step, Option.ite_none_right_eq_some, Option.some.injEq]
        at moves
      obtain ⟨⟨stands, known, inMap⟩, rfl⟩ := moves
      refine holds.moveCall stands (by simp) (by simp) _ _ ?_ (.inr ?_)
      · exact BitVec.le_def.mp (BitVec.not_lt.mp known)
      · rintro other (held | present)
        · exact held.elim
        · by_cases same : packetSequence = other
          · exact .inl same
          · exact .inr ((List.mem_erase_of_ne (Ne.symm same)).mpr present)
  | ackUpdate call packetSequence =>
      simp only [step, Option.ite_none_right_eq_some, Option.some.injEq]
        at moves
      obtain ⟨stands, rfl⟩ := moves
      exact holds.ackUpdate stands
  | flush call =>
      simp only [step, Option.ite_none_right_eq_some, Option.some.injEq]
        at moves
      obtain ⟨stands, rfl⟩ := moves
      exact holds.flush stands
  | timeout =>
      obtain rfl := Option.some.inj moves
      exact holds.timeout
  | failDisconnect call =>
      simp only [step, Option.ite_none_right_eq_some, Option.some.injEq]
        at moves
      obtain ⟨stands, rfl⟩ := moves
      exact holds.disconnect _
        (QueueInvariant.bounded_update holds.bounded call trivial)
        (QueueInvariant.ackReceived_update (by simp [stands]))
  | disconnect =>
      obtain rfl := Option.some.inj moves
      exact holds.disconnect _ holds.bounded id

/-- In every run in which the packets enter the pending queue in order, the
pending queue is never stranded. -/
theorem notStranded_of_entersInOrder
    {capacity : Nat}
    {session : Session}
    (reached : (system capacity).GuardedReachable EntersInOrder session) :
    NotStranded session := by
  refine QueueInvariant.notStranded (reached.invariant ?_ ?_)
  · rintro state rfl
    exact
      { last_small := by decide
        reply_le := by decide
        bounded := fun _ => trivial
        pending_le := by simp [sequences, connectedSession]
        sorted := by simp [sequences, connectedSession]
        refused := by simp [FrontRefused, connectedSession]
        located := by
          intro _ _ packetSequence positive upTo
          change packetSequence.toNat ≤ 0 at upTo
          omega }
  · intro state label next _ holds inOrder moves
    exact queueInvariant_step holds inOrder moves

instance (session : Session) (label : Label) :
    Decidable (EntersInOrder session label) :=
  match label with
  | .enterLock _ frame =>
      inferInstanceAs
        (Decidable (∀ item ∈ session.pendingPacketQueue,
          item.packetSequence.toNat < frame.packetSequence.toNat))
  | .allocateData _ | .allocateHeartbeat _ =>
      inferInstanceAs
        (Decidable (session.lastSendPacketSequence.toNat + 1 < 2 ^ 63))
  | .beginSendPacket _ | .beginHeartbeat _ | .checkHeartbeat _
  | .allocFails _ | .beginReply _ _ | .infoAllocFails _ _ _ | .insert _ _ _
  | .encode _ _ _ | .coreSendPacket _ _ _ _ | .ackErase _ _
  | .ackUpdate _ _ | .flush _ | .timeout | .failDisconnect _ | .disconnect =>
      .isTrue trivial

/-- One thread allocates the next sequence for a data packet. -/
def allocateSchedule (call : Nat) : List Label :=
  [.beginSendPacket call, .allocateData call]

/-- A thread with a data packet enters the pending lock. -/
def enterData (call : Nat) (packetSequence : PacketSequence) : Label :=
  .enterLock call ⟨.sendType, packetSequence, false, false⟩

/-- Two packets are allocated and enter the lock in order. -/
def inOrderSession : Session :=
  ((system 8).run connectedSession
    (allocateSchedule 0 ++ allocateSchedule 1 ++
      [enterData 0 1, enterData 1 2])).getD connectedSession

theorem notStranded_of_entersInOrder_two : NotStranded inOrderSession :=
  notStranded_of_entersInOrder
    (TransitionSystem.GuardedReachable.guardedRun (.initial rfl)
      (show (system 8).guardedRun EntersInOrder connectedSession
        (allocateSchedule 0 ++ allocateSchedule 1 ++
          [enterData 0 1, enterData 1 2]) = some inOrderSession from rfl))

/-- Five threads allocate the sequences one to five.  The one with sequence five
takes the lock first and finds the initial window of four exhausted. -/
def overtakingSchedule : List Label :=
  allocateSchedule 0 ++ allocateSchedule 1 ++ allocateSchedule 2 ++
    allocateSchedule 3 ++ allocateSchedule 4 ++
    [enterData 4 5, enterData 0 1, enterData 1 2, enterData 2 3, enterData 3 4]

/-- The session when all five calls have returned. -/
def overtakenSession : Session :=
  ((system 8).run connectedSession overtakingSchedule).getD connectedSession

/-- All five packets are pending, and nothing that could be acknowledged has
been sent. -/
theorem overtaking_strands :
    (system 8).Reachable overtakenSession ∧
    ¬ NotStranded overtakenSession := by
  constructor
  · exact TransitionSystem.Reachable.run
      (TransitionSystem.Reachable.initial rfl)
      (show (system 8).run connectedSession overtakingSchedule =
        some overtakenSession from rfl)
  · intro claimed
    refine claimed ?_ (by decide) (by decide) (by decide) (by decide)
    intro call
    match call with
    | 0 | 1 | 2 | 3 | 4 => rfl
    | _ + 5 => rfl

end SendFlow
end MultiSocketRudp
