import MultiSocketRudp.Server.PacketPlaces

/-!
# Steps of the calls that send packets

A call registers its packet and pushes it, or gives it up because the session is
being released.  Acknowledgements and disconnects move no packet either.
-/

namespace MultiSocketRudp
namespace Retransmission

open SendStream

/-- Registered calls stay so. -/
theorem registered_update
    {calls : PacketRef → CallState} {packet : PacketRef} {call : CallState}
    (registered : call.registered = true)
    {other : PacketRef}
    (before : (calls other).registered = true) :
    (Function.update calls packet call other).registered = true := by
  rw [Function.update_apply]
  split
  · exact registered
  · exact before

/-- A bound on the places of a packet is not lowered by a call that is or
becomes registered. -/
theorem bound_update
    {calls : PacketRef → CallState} {packet : PacketRef} {call : CallState}
    (registered : call.registered = true)
    {ordinal count : Nat}
    (bound : count ≤ if (calls (.data ordinal)).registered then 1 else 0) :
    count ≤
      if (Function.update calls packet call (.data ordinal)).registered then 1
      else 0 := by
  by_cases before : (calls (.data ordinal)).registered = true
  · rw [registered_update registered before]
    rwa [before] at bound
  · rw [if_neg before] at bound
    omega

/-- Calls outside of the taken sequences stay idle. -/
theorem untaken_update
    {calls : PacketRef → CallState} {packet : PacketRef} {call : CallState}
    (before : calls packet ≠ .idle)
    {ordinal : Nat}
    (idle : calls (.data ordinal) = .idle) :
    Function.update calls packet call (.data ordinal) = .idle := by
  refine (Function.update_of_ne ?_ _ _).trans idle
  rintro rfl
  exact before idle

/-- A packet at the end of the queue is not reached by the datagram under
construction. -/
theorem StreamSound.push
    {state : State} {phase : OwnerPhase}
    (sound : StreamSound state phase)
    (caller : Caller) (item : QueueItem) :
    StreamSound (state.pushSendPacketInfo caller item) phase := by
  have unseen {locals : StreamLocals} (before : Unseen state locals) :
      Unseen (state.pushSendPacketInfo caller item) locals := by
    obtain ⟨inside, unseen⟩ := before
    refine ⟨?_, ?_⟩
    · rw [State.pushSendPacketInfo, List.length_append]
      omega
    · rw [State.pushSendPacketInfo, List.take_append_of_le_length inside]
      exact unseen
  cases phase with
  | measured bufferCount =>
      change _ ≤ (state.sendPacketInfoQueue ++ [item]).length
      rw [List.length_append]
      exact Nat.le_add_right_of_le sound
  | taken => exact ⟨sound.1, unseen sound.2.1, sound.2.2⟩
  | refreshing => exact ⟨sound.1, unseen sound.2.1, sound.2.2⟩
  | loop => exact ⟨sound.1, unseen sound.2⟩
  | testing | looking | starting | oversize | built | releasing =>
      exact trivial

namespace PlacesInvariant

variable {state : State}

/-- A caller of `DoSend` moves on. -/
theorem setSend
    (holds : PlacesInvariant state)
    (caller : Caller) (pc : SendPc) :
    PlacesInvariant (state.setSend caller pc) :=
  { holds with }

/-- A call moves on, with what has to be known about the places of its
packet. -/
theorem setCall
    (holds : PlacesInvariant state)
    {packet : PacketRef} {call : CallState}
    (before : state.calls packet ≠ .idle)
    (registered : call.registered = true)
    (room : ∀ ordinal, packet = .data ordinal →
      call.places + state.pushedCount ordinal ≤ 1)
    (placed : state.state = .connected →
      ∀ packetSequence ordinal, packet = .data ordinal →
        state.sendPacketInfoMap packetSequence = some ordinal →
        (state.infos packet).isErasedPacketInfo = false →
        call.places + state.pushedCount ordinal = 1) :
    PlacesInvariant (state.setCall packet call) :=
  { holds with
    untaken := fun ordinal outside =>
      untaken_update before (holds.untaken ordinal outside)
    atMostOne := fun ordinal => by
      by_cases here : packet = .data ordinal
      · subst here
        rw [State.placeCount_setCall_self]
        simp only [State.setCall, Function.update_self, registered, if_true]
        exact room ordinal rfl
      · rw [State.placeCount_setCall_of_ne state here]
        exact bound_update registered (holds.atMostOne ordinal)
    mapped := fun packetSequence ordinal found =>
      registered_update registered (holds.mapped packetSequence ordinal found)
    placed := fun connected packetSequence ordinal found live => by
      by_cases here : packet = .data ordinal
      · subst here
        rw [State.placeCount_setCall_self]
        exact placed connected packetSequence ordinal rfl found live
      · rw [State.placeCount_setCall_of_ne state here]
        exact holds.placed connected packetSequence ordinal found live
    versions := fun entry member =>
      ⟨registered_update registered (holds.versions entry member).1,
        (holds.versions entry member).2⟩ }

/-- A registered call moves on without its packet moving. -/
theorem setCall_same
    (holds : PlacesInvariant state)
    {packet : PacketRef} {call : CallState}
    (before : state.calls packet ≠ .idle)
    (registered : call.registered = true)
    (same : call.places = (state.calls packet).places) :
    PlacesInvariant (state.setCall packet call) := by
  refine holds.setCall before registered ?_ ?_
  · rintro ordinal rfl
    have bound := holds.atMostOne ordinal
    rw [State.placeCount, ← same] at bound
    split at bound <;> omega
  · rintro connected packetSequence ordinal rfl found live
    rw [same]
    exact holds.placed connected packetSequence ordinal found live

/-- A call that has found the session releasing gives its packet up. -/
theorem giveUp
    (holds : PlacesInvariant state)
    {packet : PacketRef}
    (stands : state.calls packet = .inserted)
    (released : state.nowInReleaseThread = true) :
    PlacesInvariant (state.setCall packet .failed) := by
  refine holds.setCall (by simp [stands]) rfl ?_ ?_
  · rintro ordinal rfl
    have bound := holds.atMostOne ordinal
    rw [State.placeCount, stands] at bound
    exact (Nat.add_le_add_right (Nat.zero_le 1) _).trans bound
  · exact fun connected => absurd connected (holds.released released)

/-- `InsertSendPacketInfo` for a packet that its call holds. -/
theorem insertSendPacketInfo
    (holds : PlacesInvariant state)
    {packet : PacketRef}
    (stands : state.calls packet = .inserted) :
    PlacesInvariant (state.insertSendPacketInfo packet) := by
  cases packet with
  | reply index packetSequence => exact holds
  | data inserted =>
      have new (packetSequence : PacketSequence) (ordinal : Nat)
          (found : (state.insertSendPacketInfo
            (.data inserted)).sendPacketInfoMap packetSequence =
              some ordinal) :
          ordinal = inserted ∨
            state.sendPacketInfoMap packetSequence = some ordinal := by
        simp only [State.insertSendPacketInfo] at found
        split at found
        · rw [Function.update_apply] at found
          split at found
          · exact .inl (Option.some.inj found).symm
          · exact .inr found
        · exact .inr found
      refine { holds with mapped := ?_, placed := ?_ }
      · intro packetSequence ordinal found
        rcases new packetSequence ordinal found with rfl | old
        · simp [State.insertSendPacketInfo, stands, CallState.registered]
        · exact holds.mapped packetSequence ordinal old
      · intro connected packetSequence ordinal found live
        rcases new packetSequence ordinal found with rfl | old
        · have bound := holds.atMostOne ordinal
          change state.placeCount ordinal = 1
          rw [State.placeCount, stands] at bound ⊢
          simp only [CallState.places, CallState.registered, if_true]
            at bound ⊢
          omega
        · exact holds.placed connected packetSequence ordinal old live

/-- A packet is registered, or finds its sequence taken. -/
theorem insert
    (holds : PlacesInvariant state)
    {packet : PacketRef}
    (stands : state.calls packet = .begun) :
    PlacesInvariant
      ((state.insertSendPacketInfo packet).setCall packet .inserted) := by
  have called : PlacesInvariant (state.setCall packet .inserted) := by
    refine holds.setCall (by simp [stands]) rfl ?_ ?_
    · rintro ordinal rfl
      have bound := holds.atMostOne ordinal
      simp only [State.placeCount, stands, CallState.places,
        CallState.registered, Bool.false_eq_true, if_false] at bound ⊢
      omega
    · rintro - packetSequence ordinal rfl found
      have registered := holds.mapped packetSequence ordinal found
      rw [stands] at registered
      cases registered
  have commute :
      (state.insertSendPacketInfo packet).setCall packet .inserted =
        (state.setCall packet .inserted).insertSendPacketInfo packet := by
    cases packet <;> rfl
  rw [commute]
  exact called.insertSendPacketInfo (Function.update_self _ _ _)

/-- Entries leave the map. -/
theorem eraseFromMap
    (holds : PlacesInvariant state)
    (packetSequence : PacketSequence) :
    PlacesInvariant
      { state with
        sendPacketInfoMap :=
          Function.update state.sendPacketInfoMap packetSequence none } := by
  have still (other : PacketSequence) (ordinal : Nat)
      (found : Function.update state.sendPacketInfoMap packetSequence none
        other = some ordinal) :
      state.sendPacketInfoMap other = some ordinal := by
    rw [Function.update_apply] at found
    split at found
    · cases found
    · exact found
  exact
    { holds with
      mapped := fun other ordinal found =>
        holds.mapped other ordinal (still other ordinal found)
      placed := fun connected other ordinal found =>
        holds.placed connected other ordinal (still other ordinal found) }

/-- `EraseSendPacketInfo`. -/
theorem eraseSendPacketInfo
    (holds : PlacesInvariant state)
    (packet : PacketRef) :
    PlacesInvariant (state.eraseSendPacketInfo packet) := by
  cases packet with
  | reply => exact holds
  | data ordinal => exact holds.eraseFromMap _

/-- Fields of a packet change, but not its version, and an erased packet stays
erased. -/
theorem setInfo
    (holds : PlacesInvariant state)
    {packet : PacketRef} {info : SendPacketInfo}
    (version :
      info.scheduleVersion = (state.infos packet).scheduleVersion)
    (erased : (state.infos packet).isErasedPacketInfo = true →
      info.isErasedPacketInfo = true) :
    PlacesInvariant (state.setInfo packet info) := by
  have version_eq (other : PacketRef) :
      ((state.setInfo packet info).infos other).scheduleVersion =
        (state.infos other).scheduleVersion := by
    simp only [State.setInfo, Function.update_apply]
    split
    case isTrue here => rw [version, here]
    case isFalse => rfl
  have live_of (other : PacketRef)
      (live : ((state.setInfo packet info).infos other).isErasedPacketInfo =
        false) :
      (state.infos other).isErasedPacketInfo = false := by
    simp only [State.setInfo, Function.update_apply] at live
    split at live
    case isTrue here =>
      subst here
      by_contra gone
      simp [erased (by simpa using gone)] at live
    case isFalse => exact live
  have places (ordinal : Nat) :
      (state.setInfo packet info).placeCount ordinal =
        state.placeCount ordinal := by
    simp only [State.placeCount, State.pushedCount, State.liveEntries,
      version_eq]
    rfl
  exact
    { holds with
      atMostOne := fun ordinal => by
        rw [places]
        exact holds.atMostOne ordinal
      placed := fun connected packetSequence ordinal found live => by
        rw [places]
        exact holds.placed connected packetSequence ordinal found
          (live_of _ live)
      versions := fun entry member => by
        rw [version_eq]
        exact holds.versions entry member
      due := fun entry member => by
        rw [version_eq]
        exact holds.due entry member
      causes := fun item member version cause => by
        obtain ⟨ordinal, packet_eq, version_eq'⟩ :=
          holds.causes item member version cause
        exact ⟨ordinal, packet_eq, by rw [version_eq]; exact version_eq'⟩ }

/-- A packet is erased. -/
theorem markErased
    (holds : PlacesInvariant state)
    (packet : PacketRef) :
    PlacesInvariant (state.markErased packet) :=
  holds.setInfo rfl fun _ => rfl

/-- The session is no longer connected. -/
theorem doDisconnect_ne_connected (state : State) :
    state.doDisconnect.state ≠ .connected := by
  simp only [State.doDisconnect]
  cases state.state <;> simp [SessionState.tryTransitionToReleasing]

/-- A disconnect moves no packet. -/
theorem doDisconnect
    (holds : PlacesInvariant state) :
    PlacesInvariant state.doDisconnect :=
  { holds with
    placed := fun connected =>
      absurd connected (doDisconnect_ne_connected state)
    released := fun _ => doDisconnect_ne_connected state }

/-- The release flag is raised. -/
theorem raiseReleaseFlag
    (holds : PlacesInvariant state)
    (releasing : state.state = .releasing) :
    PlacesInvariant { state with nowInReleaseThread := true } :=
  { holds with released := fun _ => by simp [releasing] }

/-- A call pushes its packet. -/
theorem push
    (holds : PlacesInvariant state)
    {packet : PacketRef}
    (stands : state.calls packet = .tested) :
    PlacesInvariant
      ((state.pushSendPacketInfo (.call packet) ⟨packet, none⟩).setCall packet
        .sending) := by
  have called : state.calls packet ≠ .idle := by simp [stands]
  have places (ordinal : Nat) :
      ((state.pushSendPacketInfo (.call packet) ⟨packet, none⟩).setCall packet
          .sending).placeCount ordinal =
        state.placeCount ordinal := by
    by_cases here : packet = .data ordinal
    · subst here
      rw [State.placeCount_setCall_self, State.pushedCount_push, if_pos rfl,
        State.placeCount, stands]
      simp only [CallState.places]
      omega
    · rw [State.placeCount_setCall_of_ne _ here, State.placeCount,
        State.pushedCount_push, if_neg here]
      rfl
  exact
    { holds with
      untaken := fun ordinal outside =>
        untaken_update called (holds.untaken ordinal outside)
      atMostOne := fun ordinal => by
        rw [places]
        exact bound_update rfl (holds.atMostOne ordinal)
      mapped := fun packetSequence ordinal found =>
        registered_update rfl (holds.mapped packetSequence ordinal found)
      placed := fun connected packetSequence ordinal found live => by
        rw [places]
        exact holds.placed connected packetSequence ordinal found live
      versions := fun entry member =>
        ⟨registered_update rfl (holds.versions entry member).1,
          (holds.versions entry member).2⟩
      causes := fun item member version cause => by
        refine holds.causes item ?_ version cause
        have old : item ≠ ⟨packet, none⟩ := by
          rintro rfl
          cases cause
        simpa [State.setCall, State.pushSendPacketInfo, State.held, old]
          using member
      stream := fun owner owns =>
        (holds.stream owner owns).push (.call packet) ⟨packet, none⟩ }

/-- A packet that is not registered is nowhere. -/
theorem nowhere_of_unregistered
    (holds : PlacesInvariant state)
    {ordinal : Nat}
    (unregistered : (state.calls (.data ordinal)).registered = false) :
    state.placeCount ordinal = 0 := by
  have bound := holds.atMostOne ordinal
  rw [unregistered] at bound
  exact Nat.le_zero.mp bound

/-- The fields of a packet that is not registered are set. -/
theorem initializeInfo
    (holds : PlacesInvariant state)
    {fresh : Nat}
    (unregistered : (state.calls (.data fresh)).registered = false)
    (info : SendPacketInfo) :
    PlacesInvariant (state.setInfo (.data fresh) info) := by
  have nowhere := holds.nowhere_of_unregistered unregistered
  rw [State.placeCount, State.pushedCount] at nowhere
  have infos_of_ne {ordinal : Nat} (distinct : ordinal ≠ fresh) :
      (state.setInfo (.data fresh) info).infos (.data ordinal) =
        state.infos (.data ordinal) :=
    Function.update_of_ne (by simpa using distinct) _ _
  have ne_of_registered {ordinal : Nat}
      (registered : (state.calls (.data ordinal)).registered = true) :
      ordinal ≠ fresh := by
    rintro rfl
    rw [unregistered] at registered
    cases registered
  have live_eq (ordinal : Nat) :
      (state.setInfo (.data fresh) info).liveEntries ordinal =
        state.liveEntries ordinal := by
    refine List.countP_congr fun entry member => ?_
    have distinct := ne_of_registered (holds.versions entry member).1
    by_cases same : entry.ordinal = ordinal
    · rw [infos_of_ne (same ▸ distinct)]
    · simp [same]
  have places (ordinal : Nat) :
      (state.setInfo (.data fresh) info).placeCount ordinal =
        state.placeCount ordinal := by
    rw [State.placeCount, State.pushedCount, live_eq]
    rfl
  exact
    { holds with
      atMostOne := fun ordinal => by
        rw [places]
        exact holds.atMostOne ordinal
      placed := fun connected packetSequence ordinal found live => by
        rw [places]
        rw [infos_of_ne (ne_of_registered
          (holds.mapped packetSequence ordinal found))] at live
        exact holds.placed connected packetSequence ordinal found live
      versions := fun entry member => by
        rw [infos_of_ne (ne_of_registered (holds.versions entry member).1)]
        exact holds.versions entry member
      due := fun entry member => by
        have distinct : entry.ordinal ≠ fresh := by
          intro same
          have positive : 0 < entriesFor fresh
              (state.dueList ++ state.retransmission.current) :=
            List.countP_pos_iff.mpr ⟨entry, member, by simpa using same⟩
          rw [entriesFor_append] at positive
          omega
        rw [infos_of_ne distinct]
        exact holds.due entry member
      causes := fun item member version cause => by
        obtain ⟨ordinal, packet, version_eq⟩ :=
          holds.causes item member version cause
        have distinct : ordinal ≠ fresh := by
          rintro rfl
          have positive : 0 < itemsFor ordinal
              (state.sendPacketInfoQueue ++
                state.reservedSendPacketInfo.toList ++ state.held) :=
            itemsFor_pos member packet
          rw [itemsFor_append, itemsFor_append] at positive
          omega
        refine ⟨ordinal, packet, ?_⟩
        rw [infos_of_ne distinct]
        exact version_eq }

/-- The send sequence is incremented for a call. -/
theorem takeSequence
    (holds : PlacesInvariant state)
    (bounded : state.sequencesTaken < 2 ^ 64) :
    PlacesInvariant
      { state with
        sequencesTaken := state.sequencesTaken + 1
        calls :=
          Function.update state.calls (.data (state.sequencesTaken + 1))
            .begun } := by
  have idle : state.calls (.data (state.sequencesTaken + 1)) = .idle :=
    holds.untaken _ (.inr (Nat.lt_succ_self _))
  have places_eq (ordinal : Nat) :
      (Function.update state.calls (.data (state.sequencesTaken + 1)) .begun
          (.data ordinal)).places =
        (state.calls (.data ordinal)).places := by
    rw [Function.update_apply]
    split
    case isTrue here => rw [here, idle]; rfl
    case isFalse => rfl
  have registered_eq (ordinal : Nat) :
      (Function.update state.calls (.data (state.sequencesTaken + 1)) .begun
          (.data ordinal)).registered =
        (state.calls (.data ordinal)).registered := by
    rw [Function.update_apply]
    split
    case isTrue here => rw [here, idle]; rfl
    case isFalse => rfl
  have places (ordinal : Nat) :
      State.placeCount
          { state with
            sequencesTaken := state.sequencesTaken + 1
            calls :=
              Function.update state.calls (.data (state.sequencesTaken + 1))
                .begun } ordinal =
        state.placeCount ordinal := by
    simp only [State.placeCount, places_eq]
    rfl
  exact
    { holds with
      bounded := Nat.succ_le_of_lt bounded
      untaken := fun ordinal outside => by
        have distinct : PacketRef.data ordinal ≠
            .data (state.sequencesTaken + 1) := by
          intro same
          obtain rfl := PacketRef.data.inj same
          simp at outside
        refine (Function.update_of_ne distinct _ _).trans
          (holds.untaken ordinal (outside.imp_right ?_))
        exact fun later => Nat.lt_of_succ_lt later
      atMostOne := fun ordinal => by
        rw [places]
        simpa only [registered_eq] using holds.atMostOne ordinal
      mapped := fun packetSequence ordinal found =>
        (registered_eq ordinal).trans
          (holds.mapped packetSequence ordinal found)
      placed := fun connected packetSequence ordinal found live => by
        rw [places]
        exact holds.placed connected packetSequence ordinal found live
      versions := fun entry member => by
        simpa only [registered_eq] using holds.versions entry member }

/-- Replies play no part. -/
theorem congr_data
    (holds : PlacesInvariant state)
    {infos : PacketRef → SendPacketInfo} {calls : PacketRef → CallState}
    (infos_eq : ∀ ordinal,
      infos (.data ordinal) = state.infos (.data ordinal))
    (calls_eq : ∀ ordinal,
      calls (.data ordinal) = state.calls (.data ordinal)) :
    PlacesInvariant { state with infos, calls } := by
  have places (ordinal : Nat) :
      State.placeCount { state with infos, calls } ordinal =
        state.placeCount ordinal := by
    simp only [State.placeCount, State.pushedCount, State.liveEntries,
      infos_eq, calls_eq]
    rfl
  exact
    { holds with
      untaken := fun ordinal outside =>
        (calls_eq ordinal).trans (holds.untaken ordinal outside)
      atMostOne := fun ordinal => by
        rw [places]
        simpa only [calls_eq] using holds.atMostOne ordinal
      mapped := fun packetSequence ordinal found => by
        simpa only [calls_eq] using holds.mapped packetSequence ordinal found
      placed := fun connected packetSequence ordinal found live => by
        rw [places]
        simp only [infos_eq] at live
        exact holds.placed connected packetSequence ordinal found live
      versions := fun entry member => by
        simpa only [infos_eq, calls_eq] using holds.versions entry member
      due := fun entry member => by
        simpa only [infos_eq] using holds.due entry member
      causes := fun item member version cause => by
        simpa only [infos_eq] using holds.causes item member version cause }

end PlacesInvariant

end Retransmission
end MultiSocketRudp
