import MultiSocketRudp.Server.CallSteps

/-!
# Steps of the owner of the send path

`MakeSendStream` takes packets from the reserved slot and the queue.  It puts
one back, drops it, or writes it into the datagram together with a new schedule
in the heap.
-/

namespace MultiSocketRudp
namespace Retransmission

open SendStream

namespace PlacesInvariant

variable {state : State}

/-- The owner moves on without its packet moving. -/
theorem setPhase
    (holds : PlacesInvariant state)
    {caller : Caller} {phase next : OwnerPhase}
    (stands : state.owner = some ⟨caller, phase⟩)
    (same : next.held = phase.held)
    (sound : StreamSound state next) :
    PlacesInvariant (state.setPhase caller next) := by
  have held : (state.setPhase caller next).held = state.held := by
    rw [State.held_eq stands, ← same]
    rfl
  have places (ordinal : Nat) :
      (state.setPhase caller next).placeCount ordinal =
        state.placeCount ordinal := by
    simp only [State.placeCount, State.pushedCount, held]
    rfl
  exact
    { holds with
      atMostOne := fun ordinal => by
        rw [places]
        exact holds.atMostOne ordinal
      placed := fun connected packetSequence ordinal found live => by
        rw [places]
        exact holds.placed connected packetSequence ordinal found live
      causes := fun item member => by
        rw [held] at member
        exact holds.causes item member
      exclusive := fun _ => holds.exclusive (by simp [stands])
      stream := fun owner owns => by
        obtain rfl := Option.some.inj owns
        exact sound }

/-- Packets move between the queue, the reserved slot and the owner.  Only those
may be lost that are erased, or that belong to a session being released. -/
theorem moveItems
    (holds : PlacesInvariant state)
    {queue : List QueueItem} {reserved : Option QueueItem}
    {owner : Option Owner} {transmissions : List Transmission}
    (fewer : ∀ ordinal,
      itemsFor ordinal (queue ++ reserved.toList ++ heldBy owner) ≤
        itemsFor ordinal
          (state.sendPacketInfoQueue ++
            state.reservedSendPacketInfo.toList ++ state.held))
    (kept : state.state = .connected → ∀ ordinal,
      (state.infos (.data ordinal)).isErasedPacketInfo = false →
      itemsFor ordinal (queue ++ reserved.toList ++ heldBy owner) =
        itemsFor ordinal
          (state.sendPacketInfoQueue ++
            state.reservedSendPacketInfo.toList ++ state.held))
    (members : ∀ item ∈ queue ++ reserved.toList ++ heldBy owner,
      item ∈ state.sendPacketInfoQueue ++
        state.reservedSendPacketInfo.toList ++ state.held)
    (owned : owner ≠ none → state.owner ≠ none)
    (sound : ∀ other, owner = some other →
      StreamSound
        { state with
          sendPacketInfoQueue := queue
          reservedSendPacketInfo := reserved } other.phase)
    (transmitted : ∀ transmission ∈ transmissions,
      transmission.info.isErasedPacketInfo = false ∧
        ∀ version, transmission.item.cause = some version →
          version = transmission.info.scheduleVersion) :
    PlacesInvariant
      { state with
        sendPacketInfoQueue := queue
        reservedSendPacketInfo := reserved
        owner := owner
        transmissions := transmissions } := by
  have split (ordinal : Nat) :
      state.placeCount ordinal =
        (state.calls (.data ordinal)).places +
          (itemsFor ordinal
            (state.sendPacketInfoQueue ++
              state.reservedSendPacketInfo.toList ++ state.held) +
          state.liveEntries ordinal + entriesFor ordinal state.dueList +
          entriesFor ordinal state.retransmission.current) := by
    rw [State.placeCount, State.pushedCount, itemsFor_append, itemsFor_append]
  have split_next (ordinal : Nat) :
      State.placeCount
          { state with
            sendPacketInfoQueue := queue
            reservedSendPacketInfo := reserved
            owner := owner
            transmissions := transmissions } ordinal =
        (state.calls (.data ordinal)).places +
          (itemsFor ordinal (queue ++ reserved.toList ++ heldBy owner) +
          state.liveEntries ordinal + entriesFor ordinal state.dueList +
          entriesFor ordinal state.retransmission.current) := by
    rw [itemsFor_append, itemsFor_append]
    rfl
  exact
    { holds with
      atMostOne := fun ordinal => by
        have bound := holds.atMostOne ordinal
        have less := fewer ordinal
        rw [split] at bound
        rw [split_next]
        exact le_trans (by omega) bound
      placed := fun connected packetSequence ordinal found live => by
        rw [split_next, kept connected ordinal live, ← split]
        exact holds.placed connected packetSequence ordinal found live
      causes := fun item member => holds.causes item (members item member)
      exclusive := fun owns => holds.exclusive (owned owns)
      stream := fun other owns => sound other owns
      transmitted := transmitted }

/-- The reserved packet is taken, if there is one. -/
theorem takeReserved
    (holds : PlacesInvariant state)
    {caller : Caller} {bufferCount : Nat}
    (stands : state.owner = some ⟨caller, .measured bufferCount⟩) :
    PlacesInvariant (state.takeReserved caller bufferCount) := by
  have inside : bufferCount ≤ state.sendPacketInfoQueue.length :=
    holds.stream _ stands
  have unseen : Unseen state { remaining := bufferCount } :=
    ⟨inside, fun _ _ _ => List.not_mem_nil⟩
  unfold State.takeReserved
  simp only
  split
  case h_1 empty =>
    exact holds.setPhase stands rfl ⟨empty, unseen⟩
  case h_2 item found =>
    refine holds.moveItems ?_ ?_ ?_ (by simp [stands]) ?_ holds.transmitted
    · intro ordinal
      simp [found, State.held_eq stands, heldBy, OwnerPhase.held]
    · intro _ ordinal _
      simp [found, State.held_eq stands, heldBy, OwnerPhase.held]
    · simp [found, State.held_eq stands, heldBy, OwnerPhase.held]
    · rintro other owns
      obtain rfl := Option.some.inj owns
      exact ⟨rfl, unseen, fun _ => List.not_mem_nil⟩

/-- The next packet is popped, or the datagram is complete. -/
theorem popQueue
    (holds : PlacesInvariant state)
    {caller : Caller} {locals : StreamLocals}
    (stands : state.owner = some ⟨caller, .loop locals⟩) :
    PlacesInvariant (state.popQueue caller locals) := by
  obtain ⟨empty, inside, unseen⟩ := holds.stream _ stands
  unfold State.popQueue
  split
  case h_1 => exact holds.setPhase stands rfl trivial
  case h_2 remaining left queue =>
    refine holds.setPhase stands rfl ⟨empty, ?_, ?_⟩
    · rw [left, queue] at inside
      exact absurd inside (by simp)
    · simp [queue]
  case h_3 remaining item rest left queue =>
    rw [left, queue, List.length_cons] at inside
    rw [left, queue, List.take_succ_cons] at unseen
    refine holds.moveItems ?_ ?_ ?_ (by simp [stands]) ?_ holds.transmitted
    · intro ordinal
      simp only [queue, State.held_eq stands, heldBy, OwnerPhase.held,
        itemsFor_append, itemsFor_cons, itemsFor_nil]
      omega
    · intro _ ordinal _
      simp only [queue, State.held_eq stands, heldBy, OwnerPhase.held,
        itemsFor_append, itemsFor_cons, itemsFor_nil]
      omega
    · intro other member
      rw [queue]
      simp only [heldBy, OwnerPhase.held, List.mem_append, List.mem_cons,
        List.not_mem_nil, or_false] at member ⊢
      tauto
    · rintro other owns
      obtain rfl := Option.some.inj owns
      refine ⟨empty, ⟨by simpa using inside, ?_⟩, ?_⟩
      · exact fun other member =>
          unseen other (List.mem_cons_of_mem item member)
      · exact unseen item List.mem_cons_self

/-- The owner drops its packet, which is erased, a reply, or one of a session
being released. -/
theorem dropHeld
    (holds : PlacesInvariant state)
    {caller : Caller} {phase next : OwnerPhase} {item : QueueItem}
    {transmissions : List Transmission}
    (stands : state.owner = some ⟨caller, phase⟩)
    (held : phase.held = [item])
    (none_held : next.held = [])
    (droppable : state.state = .connected → ∀ ordinal,
      item.packet = .data ordinal →
        (state.infos (.data ordinal)).isErasedPacketInfo = true)
    (sound : StreamSound state next)
    (transmitted : ∀ transmission ∈ transmissions,
      transmission.info.isErasedPacketInfo = false ∧
        ∀ version, transmission.item.cause = some version →
          version = transmission.info.scheduleVersion) :
    PlacesInvariant
      { state with
        owner := some ⟨caller, next⟩
        transmissions := transmissions } := by
  refine holds.moveItems ?_ ?_ ?_ (by simp [stands]) ?_ transmitted
  · intro ordinal
    simp only [State.held_eq stands, heldBy, held, none_held, itemsFor_append,
      itemsFor_nil]
    omega
  · intro connected ordinal live
    have other : item.packet ≠ .data ordinal := by
      intro packet
      rw [droppable connected ordinal packet] at live
      cases live
    simp [State.held_eq stands, heldBy, held, none_held, other]
  · intro other member
    simp only [heldBy, none_held, List.append_nil] at member
    exact List.mem_append_left _ member
  · rintro other owns
    obtain rfl := Option.some.inj owns
    exact sound

/-- A packet that the owner holds is registered and in no other place. -/
theorem alone_of_held
    (holds : PlacesInvariant state)
    {item : QueueItem} {ordinal : Nat}
    (held : state.held = [item])
    (packet : item.packet = .data ordinal) :
    (state.calls (.data ordinal)).registered = true ∧
      itemsFor ordinal state.sendPacketInfoQueue = 0 ∧
      itemsFor ordinal state.reservedSendPacketInfo.toList = 0 ∧
      state.liveEntries ordinal = 0 ∧
      entriesFor ordinal state.dueList = 0 ∧
      entriesFor ordinal state.retransmission.current = 0 := by
  have bound := holds.atMostOne ordinal
  rw [State.placeCount, State.pushedCount, held, itemsFor_cons, if_pos packet,
    itemsFor_nil] at bound
  split at bound
  case isTrue registered => exact ⟨registered, by omega⟩
  case isFalse => omega

/-- Registered packets have one of the first `2 ^ 64` sequences. -/
theorem ordinal_bounds
    (holds : PlacesInvariant state)
    {ordinal : Nat}
    (registered : (state.calls (.data ordinal)).registered = true) :
    0 < ordinal ∧ ordinal ≤ 2 ^ 64 := by
  have bounded := holds.bounded
  by_contra outside
  rw [holds.untaken ordinal (by omega)] at registered
  cases registered

/-- The first `2 ^ 64` sequences have different keys. -/
theorem key_injective
    {first second : Nat}
    (first_bounds : 0 < first ∧ first ≤ 2 ^ 64)
    (second_bounds : 0 < second ∧ second ≤ 2 ^ 64)
    (same : (PacketRef.data first).key = (PacketRef.data second).key) :
    first = second := by
  have words : BitVec.ofNat 64 first = BitVec.ofNat 64 second :=
    (PacketSequenceSetKey.mk.inj same).2
  have residues := congrArg BitVec.toNat words
  simp only [BitVec.toNat_ofNat] at residues
  omega

/-- Packets in the queue are registered. -/
theorem registered_of_queued
    (holds : PlacesInvariant state)
    {item : QueueItem} {ordinal : Nat}
    (member : item ∈ state.sendPacketInfoQueue)
    (packet : item.packet = .data ordinal) :
    (state.calls (.data ordinal)).registered = true := by
  have bound := holds.atMostOne ordinal
  have positive := itemsFor_pos member packet
  rw [State.placeCount, State.pushedCount] at bound
  split at bound
  case isTrue registered => exact registered
  case isFalse => omega

/-- With a packet written, the rest of the queue is still not in the datagram. -/
theorem unseen_write
    (holds : PlacesInvariant state)
    {item : QueueItem} {locals : StreamLocals}
    (held : state.held = [item])
    (unseen : Unseen state locals)
    (totalSendSize : Nat) :
    Unseen state
      { remaining := locals.remaining
        packetSequenceSet := item.packet.key :: locals.packetSequenceSet
        totalSendSize } := by
  refine ⟨unseen.1, fun other member data => ?_⟩
  refine List.not_mem_cons_of_ne_of_not_mem ?_
    (unseen.2 other member data)
  have queued := List.mem_of_mem_take member
  intro same
  cases other_eq : other.packet with
  | reply => simp [other_eq, PacketRef.isReplyType] at data
  | data second =>
      cases item_eq : item.packet with
      | reply =>
          rw [other_eq, item_eq] at same
          exact absurd (PacketSequenceSetKey.mk.inj same).1
            (by simp [PacketRef.isReplyType])
      | data first =>
          obtain ⟨registered, alone, -⟩ := holds.alone_of_held held item_eq
          rw [other_eq, item_eq] at same
          have equal := key_injective
            (holds.ordinal_bounds
              (holds.registered_of_queued queued other_eq))
            (holds.ordinal_bounds registered) same
          subst equal
          exact absurd (itemsFor_pos queued other_eq) (by omega)

/-- The transmission of a packet that the owner holds is sound. -/
theorem transmitted_write
    (holds : PlacesInvariant state)
    {item : QueueItem}
    (held : state.held = [item])
    (live : (state.infos item.packet).isErasedPacketInfo = false) :
    ∀ transmission ∈
        (⟨item, state.infos item.packet⟩ : Transmission) ::
          state.transmissions,
      transmission.info.isErasedPacketInfo = false ∧
        ∀ version, transmission.item.cause = some version →
          version = transmission.info.scheduleVersion := by
  intro transmission member
  rcases List.mem_cons.mp member with rfl | old
  · refine ⟨live, fun version cause => ?_⟩
    obtain ⟨ordinal, packet, version_eq⟩ :=
      holds.causes item (by simp [held]) version cause
    rw [version_eq, packet]
  · exact holds.transmitted transmission old

/-- A schedule makes one live entry. -/
theorem liveEntries_schedule
    (holds : PlacesInvariant state)
    (ordinal deadline : Nat) :
    (state.pushRetransmissionSchedule ordinal deadline).liveEntries ordinal =
      1 := by
  simp only [State.liveEntries, State.pushRetransmissionSchedule,
    Function.update_self, List.countP_cons, and_self, decide_true, if_true]
  have older : state.heap.countP (fun entry =>
      decide (entry.ordinal = ordinal ∧
        entry.version =
          (state.infos (.data ordinal)).scheduleVersion + 1)) = 0 := by
    refine List.countP_eq_zero.mpr fun entry member => ?_
    have bound := (holds.versions entry member).2
    simp only [decide_eq_true_eq, not_and]
    rintro rfl
    omega
  omega

/-- It leaves the entries of other packets alone. -/
theorem liveEntries_schedule_of_ne
    {ordinal other : Nat}
    (distinct : other ≠ ordinal)
    (state : State) (deadline : Nat) :
    (state.pushRetransmissionSchedule ordinal deadline).liveEntries other =
      state.liveEntries other := by
  have packet_ne : PacketRef.data other ≠ .data ordinal := by
    simpa using distinct
  simp [State.liveEntries, State.pushRetransmissionSchedule, distinct.symm,
    Function.update_of_ne packet_ne]

/-- A packet that is written with its new schedule is in the heap. -/
theorem schedule
    (holds : PlacesInvariant state)
    {caller : Caller} {item : QueueItem} {reserved : Bool}
    {locals : StreamLocals}
    (stands : state.owner = some ⟨caller, .refreshing item reserved locals⟩)
    {ordinal : Nat}
    (packet : item.packet = .data ordinal)
    (live : (state.infos item.packet).isErasedPacketInfo = false)
    (deadline : Nat) :
    PlacesInvariant
      ((state.writePacket caller item locals).pushRetransmissionSchedule
        ordinal deadline) := by
  obtain ⟨empty, unseen, -⟩ := holds.stream _ stands
  have held : state.held = [item] := State.held_eq stands
  obtain ⟨registered, queue, slot, entries, due, current⟩ :=
    holds.alone_of_held held packet
  have infos_of_ne {other : Nat} (distinct : other ≠ ordinal) :
      Function.update state.infos (.data ordinal)
          { state.infos (.data ordinal) with
            scheduleVersion :=
              (state.infos (.data ordinal)).scheduleVersion + 1 }
          (.data other) = state.infos (.data other) :=
    Function.update_of_ne (by simpa using distinct) _ _
  have places (other : Nat) :
      ((state.writePacket caller item locals).pushRetransmissionSchedule
          ordinal deadline).placeCount other = state.placeCount other := by
    have live_eq :
        ((state.writePacket caller item locals).pushRetransmissionSchedule
            ordinal deadline).liveEntries other =
          state.liveEntries other + itemsFor other [item] := by
      by_cases same : other = ordinal
      · subst same
        rw [entries, itemsFor_cons, if_pos packet]
        exact holds.liveEntries_schedule other deadline
      · rw [itemsFor_cons, if_neg (by simpa [packet] using Ne.symm same)]
        exact liveEntries_schedule_of_ne same state deadline
    rw [State.placeCount, State.pushedCount, live_eq, State.placeCount,
      State.pushedCount, held]
    change _ + (itemsFor other state.sendPacketInfoQueue +
      itemsFor other state.reservedSendPacketInfo.toList + itemsFor other [] +
      _ + entriesFor other state.dueList +
      entriesFor other state.retransmission.current) = _
    rw [itemsFor_nil]
    simp only [State.pushRetransmissionSchedule, State.writePacket]
    omega
  have erased_eq (other : Nat) :
      (((state.writePacket caller item locals).pushRetransmissionSchedule
          ordinal deadline).infos (.data other)).isErasedPacketInfo =
        (state.infos (.data other)).isErasedPacketInfo := by
    by_cases same : other = ordinal
    · subst same
      simp [State.pushRetransmissionSchedule, State.writePacket]
    · exact congrArg _ (infos_of_ne same)
  exact
    { holds with
      atMostOne := fun other => by
        rw [places]
        exact holds.atMostOne other
      placed := fun connected packetSequence other found live => by
        rw [places]
        rw [erased_eq] at live
        exact holds.placed connected packetSequence other found live
      versions := fun entry member => by
        rcases List.mem_cons.mp member with rfl | old
        · refine ⟨registered, le_of_eq ?_⟩
          simp [State.pushRetransmissionSchedule, State.writePacket]
        · refine ⟨(holds.versions entry old).1,
            (holds.versions entry old).2.trans ?_⟩
          by_cases same : entry.ordinal = ordinal
          · simp [State.pushRetransmissionSchedule, State.writePacket, same]
          · exact le_of_eq
              (congrArg SendPacketInfo.scheduleVersion
                (infos_of_ne same)).symm
      due := fun entry member => by
        have distinct : entry.ordinal ≠ ordinal := by
          intro same
          have positive : 0 < entriesFor ordinal
              (state.dueList ++ state.retransmission.current) :=
            List.countP_pos_iff.mpr ⟨entry, member, by simpa using same⟩
          rw [entriesFor_append] at positive
          omega
        exact (holds.due entry member).trans
          (congrArg SendPacketInfo.scheduleVersion
            (infos_of_ne distinct)).symm
      causes := fun other member version cause => by
        have elsewhere : other ∈ state.sendPacketInfoQueue ++
            state.reservedSendPacketInfo.toList := by
          simpa [State.pushRetransmissionSchedule, State.writePacket,
            State.held, heldBy, OwnerPhase.held] using member
        obtain ⟨second, packet_eq, version_eq⟩ :=
          holds.causes other (List.mem_append_left _ elsewhere) version cause
        refine ⟨second, packet_eq, version_eq.trans ?_⟩
        have distinct : second ≠ ordinal := by
          rintro rfl
          have positive := itemsFor_pos elsewhere packet_eq
          rw [itemsFor_append] at positive
          omega
        exact (congrArg SendPacketInfo.scheduleVersion
          (infos_of_ne distinct)).symm
      exclusive := fun _ => holds.exclusive (by simp [stands])
      stream := fun owner owns => by
        obtain rfl := Option.some.inj owns
        exact ⟨empty, holds.unseen_write held unseen _⟩
      transmitted := holds.transmitted_write held live }

/-- `RefreshRetransmissionSendPacketInfo` skips an erased packet. -/
theorem skipErased
    (holds : PlacesInvariant state)
    {caller : Caller} {phase : OwnerPhase} {item : QueueItem}
    {locals : StreamLocals}
    (stands : state.owner = some ⟨caller, phase⟩)
    (held : phase.held = [item])
    (empty : state.reservedSendPacketInfo = none)
    (unseen : Unseen state locals)
    (erased : (state.infos item.packet).isErasedPacketInfo = true)
    (reserved : Bool) :
    PlacesInvariant
      (state.setPhase caller
        (.loop (state.erasedLocals item reserved locals))) := by
  refine holds.dropHeld stands held rfl ?_ ⟨empty, ?_⟩ holds.transmitted
  · intro _ ordinal packet
    rwa [packet] at erased
  · unfold State.erasedLocals
    split <;> exact unseen

/-- A reply is written without a schedule. -/
theorem writeReply
    (holds : PlacesInvariant state)
    {caller : Caller} {phase : OwnerPhase} {item : QueueItem}
    {locals : StreamLocals}
    (stands : state.owner = some ⟨caller, phase⟩)
    (held : phase.held = [item])
    (empty : state.reservedSendPacketInfo = none)
    (unseen : Unseen state locals)
    (live : (state.infos item.packet).isErasedPacketInfo = false)
    (reply : item.packet.isReplyType = true) :
    PlacesInvariant (state.writePacket caller item locals) := by
  have held_eq : state.held = [item] := (State.held_eq stands).trans held
  refine holds.dropHeld stands held rfl ?_
    ⟨empty, holds.unseen_write held_eq unseen _⟩
    (holds.transmitted_write held_eq live)
  intro _ ordinal packet
  rw [packet] at reply
  cases reply

/-- The first half of `RefreshRetransmissionSendPacketInfo`. -/
theorem beginRefresh
    (holds : PlacesInvariant state)
    {caller : Caller} {item : QueueItem} {reserved : Bool}
    {locals : StreamLocals}
    (stands : state.owner = some ⟨caller, .taken item reserved locals⟩) :
    PlacesInvariant (state.beginRefresh caller item reserved locals) := by
  obtain ⟨empty, unseen, fresh⟩ := holds.stream _ stands
  unfold State.beginRefresh
  split
  case isTrue erased =>
    exact holds.skipErased stands rfl empty unseen erased reserved
  case isFalse live =>
    split
    case isTrue reply =>
      exact holds.writeReply stands rfl empty unseen (by simpa using live)
        reply
    case isFalse => exact holds.setPhase stands rfl ⟨empty, unseen, fresh⟩

/-- The second half, under the scheduler lock. -/
theorem finishRefresh
    (holds : PlacesInvariant state)
    {caller : Caller} {item : QueueItem} {reserved : Bool}
    {locals : StreamLocals}
    (stands : state.owner = some ⟨caller, .refreshing item reserved locals⟩)
    (deadline : Nat) :
    PlacesInvariant
      (state.finishRefresh caller item reserved locals deadline) := by
  obtain ⟨empty, unseen, -⟩ := holds.stream _ stands
  unfold State.finishRefresh
  split
  case isTrue erased =>
    exact holds.skipErased stands rfl empty unseen erased reserved
  case isFalse live =>
    have live : (state.infos item.packet).isErasedPacketInfo = false := by
      simpa using live
    simp only
    split
    case h_1 ordinal packet =>
      exact holds.schedule stands packet live deadline
    case h_2 packet =>
      exact holds.writeReply stands rfl empty unseen live
        (by simp [packet, PacketRef.isReplyType])

/-- The packet taken is checked. -/
theorem checkTaken
    (holds : PlacesInvariant state)
    {caller : Caller} {item : QueueItem} {reserved : Bool}
    {locals : StreamLocals}
    (stands : state.owner = some ⟨caller, .taken item reserved locals⟩) :
    PlacesInvariant (state.checkTaken caller item reserved locals) := by
  obtain ⟨empty, unseen, fresh⟩ := holds.stream _ stands
  unfold State.checkTaken
  simp only
  split
  · split
    · exact holds.setPhase stands rfl trivial
    · exact holds.beginRefresh stands
  split
  case isTrue seen =>
    -- Only a reply can be in the datagram already.
    refine holds.dropHeld stands rfl rfl ?_ ⟨empty, unseen⟩ holds.transmitted
    intro _ ordinal packet
    exact absurd seen (fresh (by simp [packet, PacketRef.isReplyType]))
  split
  · exact holds.setPhase stands rfl trivial
  split
  · refine holds.moveItems ?_ ?_ ?_ (by simp [stands]) ?_ holds.transmitted
    · intro ordinal
      simp [empty, State.held_eq stands, heldBy, OwnerPhase.held]
    · intro _ ordinal _
      simp [empty, State.held_eq stands, heldBy, OwnerPhase.held]
    · simp [empty, State.held_eq stands, heldBy, OwnerPhase.held]
    · rintro other owns
      obtain rfl := Option.some.inj owns
      exact trivial
  · exact holds.beginRefresh stands

/-- The owner gives the send path up. -/
theorem clearOwner
    (holds : PlacesInvariant state)
    {caller : Caller} {phase : OwnerPhase}
    (stands : state.owner = some ⟨caller, phase⟩)
    (none_held : phase.held = [])
    {ioMode : IoMode} {sendInFlight : Bool}
    (inFlight : sendInFlight = true → ioMode = .ioSending)
    (doSends : Caller → SendPc) :
    PlacesInvariant
      { state with
        owner := none
        ioMode := ioMode
        sendInFlight := sendInFlight
        doSends := doSends } := by
  have moved : PlacesInvariant { state with owner := none } := by
    refine holds.moveItems ?_ ?_ ?_
      (fun owns => absurd rfl owns) (fun _ owns => by cases owns)
      holds.transmitted
    · intro ordinal
      simp [State.held_eq stands, heldBy, none_held]
    · intro _ ordinal _
      simp [State.held_eq stands, heldBy, none_held]
    · simp [State.held_eq stands, heldBy, none_held]
  exact
    { moved with
      exclusive := fun owns => absurd rfl owns
      inFlight := inFlight }

/-- A caller becomes the owner. -/
theorem acquire
    (holds : PlacesInvariant state)
    (free : state.ioMode = .ioNoneSending)
    (caller : Caller)
    (doSends : Caller → SendPc) :
    PlacesInvariant
      { state with
        ioMode := .ioSending
        owner := some ⟨caller, .testing⟩
        doSends := doSends } := by
  have nobody : state.owner = none := by
    by_contra owned
    have busy := (holds.exclusive owned).1
    rw [free] at busy
    cases busy
  have idle : state.sendInFlight = false := by
    by_contra flying
    have busy := holds.inFlight (by simpa using flying)
    rw [free] at busy
    cases busy
  have held : state.held = [] := by
    rw [State.held, nobody]
    rfl
  have places (ordinal : Nat) :
      State.placeCount
          { state with
            ioMode := .ioSending
            owner := some ⟨caller, .testing⟩
            doSends := doSends } ordinal =
        state.placeCount ordinal := by
    rw [State.placeCount, State.placeCount, State.pushedCount,
      State.pushedCount, held]
    rfl
  exact
    { holds with
      atMostOne := fun ordinal => by
        rw [places]
        exact holds.atMostOne ordinal
      placed := fun connected packetSequence ordinal found live => by
        rw [places]
        exact holds.placed connected packetSequence ordinal found live
      causes := fun item member => holds.causes item (by rwa [held])
      exclusive := fun _ => ⟨rfl, idle⟩
      inFlight := fun _ => rfl
      stream := fun owner owns => by
        obtain rfl := Option.some.inj owns
        exact trivial }

/-- A datagram is completed. -/
theorem sendIoCompleted
    (holds : PlacesInvariant state)
    (flying : state.sendInFlight = true)
    (doSends : Caller → SendPc) :
    PlacesInvariant
      { state with
        ioMode := .ioNoneSending
        sendInFlight := false
        doSends := doSends } :=
  { holds with
    exclusive := fun owned => by
      have landed := (holds.exclusive owned).2
      rw [flying] at landed
      cases landed
    inFlight := fun impossible => by cases impossible }

/-- A packet of invalid size has the session disconnected. -/
theorem oversizeDisconnect
    (holds : PlacesInvariant state)
    {caller : Caller} {item : QueueItem}
    (stands : state.owner = some ⟨caller, .oversize item⟩) :
    PlacesInvariant
      (state.doDisconnect.setPhase caller (.releasing (.return false))) :=
  holds.doDisconnect.dropHeld stands rfl rfl
    (fun connected => absurd connected (doDisconnect_ne_connected state))
    trivial holds.transmitted

end PlacesInvariant

end Retransmission
end MultiSocketRudp
