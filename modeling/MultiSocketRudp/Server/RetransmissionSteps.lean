import MultiSocketRudp.Server.SendPathSteps

/-!
# Steps of the retransmission thread

Live entries that are due move from the heap to the due list, and from there one
by one to `ProcessRetransmission`, which pushes the packet again or drops it.
-/

namespace MultiSocketRudp
namespace Retransmission

namespace PlacesInvariant

variable {state : State}

/-- Entries move between the heap, the due list and the retransmission thread.
Only those may be lost that are erased, or that belong to a session being
released. -/
theorem moveEntries
    (holds : PlacesInvariant state)
    {heap dueList : List HeapEntry} {retransmission : RetransmissionPhase}
    (fewer : ∀ ordinal,
      State.liveEntries { state with heap } ordinal +
          entriesFor ordinal (dueList ++ retransmission.current) ≤
        state.liveEntries ordinal +
          entriesFor ordinal (state.dueList ++ state.retransmission.current))
    (kept : state.state = .connected → ∀ ordinal,
      (state.infos (.data ordinal)).isErasedPacketInfo = false →
      State.liveEntries { state with heap } ordinal +
          entriesFor ordinal (dueList ++ retransmission.current) =
        state.liveEntries ordinal +
          entriesFor ordinal (state.dueList ++ state.retransmission.current))
    (members : ∀ entry ∈ heap, entry ∈ state.heap)
    (due : ∀ entry ∈ dueList ++ retransmission.current,
      entry.version = (state.infos (.data entry.ordinal)).scheduleVersion) :
    PlacesInvariant { state with heap, dueList, retransmission } := by
  have split (ordinal : Nat) :
      state.placeCount ordinal =
        (state.calls (.data ordinal)).places +
          (itemsFor ordinal state.sendPacketInfoQueue +
            itemsFor ordinal state.reservedSendPacketInfo.toList +
            itemsFor ordinal state.held +
            (state.liveEntries ordinal +
              entriesFor ordinal
                (state.dueList ++ state.retransmission.current))) := by
    rw [State.placeCount, State.pushedCount, entriesFor_append]
    omega
  have split_next (ordinal : Nat) :
      State.placeCount { state with heap, dueList, retransmission } ordinal =
        (state.calls (.data ordinal)).places +
          (itemsFor ordinal state.sendPacketInfoQueue +
            itemsFor ordinal state.reservedSendPacketInfo.toList +
            itemsFor ordinal state.held +
            (State.liveEntries { state with heap } ordinal +
              entriesFor ordinal (dueList ++ retransmission.current))) := by
    rw [State.placeCount, State.pushedCount, entriesFor_append]
    change _ + (_ + _ + itemsFor ordinal state.held +
      State.liveEntries { state with heap } ordinal + _ + _) = _
    simp only
    omega
  exact
    { holds with
      atMostOne := fun ordinal => by
        have bound := holds.atMostOne ordinal
        have less := fewer ordinal
        rw [split] at bound
        rw [split_next]
        exact le_trans (by omega) bound
      placed := fun connected packetSequence ordinal found live => by
        rw [split_next, kept connected ordinal live, ← split]
        exact holds.placed connected packetSequence ordinal found live
      versions := fun entry member => holds.versions entry (members entry member)
      due := due }

/-- The retransmission thread moves on without its packet moving. -/
theorem setRetransmission
    (holds : PlacesInvariant state)
    {next : RetransmissionPhase}
    (same : next.current = state.retransmission.current) :
    PlacesInvariant { state with retransmission := next } := by
  refine holds.moveEntries ?_ ?_ (fun _ member => member) ?_
  · intro ordinal
    rw [same]
  · intro _ ordinal _
    rw [same]
  · rw [same]
    exact holds.due

/-- The retransmission thread drops its packet, which is erased or one of a
session being released. -/
theorem dropCurrent
    (holds : PlacesInvariant state)
    {next : RetransmissionPhase} {entry : HeapEntry}
    (current : state.retransmission.current = [entry])
    (none_current : next.current = [])
    (droppable : state.state = .connected → state.isErased entry = true) :
    PlacesInvariant { state with retransmission := next } := by
  refine holds.moveEntries ?_ ?_ (fun _ member => member) ?_
  · intro ordinal
    simp only [current, none_current, entriesFor_append, entriesFor_nil]
    exact Nat.add_le_add_left (by omega) _
  · intro connected ordinal live
    have other : entry.ordinal ≠ ordinal := by
      rintro rfl
      have erased := droppable connected
      rw [State.isErased, live] at erased
      cases erased
    simp only [current, none_current, entriesFor_append, entriesFor_cons,
      entriesFor_nil, if_neg other]
  · intro other member
    rw [none_current, List.append_nil] at member
    exact holds.due other (List.mem_append_left _ member)

/-- Erasing an entry takes at most that entry away from the live ones. -/
theorem liveEntries_erase
    {entry : HeapEntry}
    (member : entry ∈ state.heap)
    (ordinal : Nat) :
    State.liveEntries { state with heap := state.heap.erase entry } ordinal +
        (if entry.ordinal = ordinal ∧ state.isLive entry then 1 else 0) =
      state.liveEntries ordinal := by
  have permuted := (List.perm_cons_erase member).countP_eq fun other =>
    decide (other.ordinal = ordinal ∧
      other.version = (state.infos (.data ordinal)).scheduleVersion)
  rw [List.countP_cons] at permuted
  rw [State.liveEntries, State.liveEntries, permuted]
  congr 1
  by_cases same : entry.ordinal = ordinal
  · subst same
    simp [State.isLive]
  · simp [same]

/-- A stale entry, or one of an erased packet, leaves the heap. -/
theorem popStale
    (holds : PlacesInvariant state)
    {entry : HeapEntry}
    (member : entry ∈ state.heap)
    (stale : state.isErased entry = true ∨ ¬ state.isLive entry = true) :
    PlacesInvariant { state with heap := state.heap.erase entry } := by
  refine holds.moveEntries ?_ ?_ (fun _ => List.mem_of_mem_erase) holds.due
  · intro ordinal
    have removed := liveEntries_erase member ordinal
    exact Nat.add_le_add_right (by omega) _
  · intro _ ordinal live
    have removed := liveEntries_erase member ordinal
    rw [if_neg] at removed
    · exact congrArg (· + _) removed
    · rintro ⟨rfl, current⟩
      refine stale.elim (fun erased => ?_) fun old => old current
      rw [State.isErased, live] at erased
      cases erased

/-- A due entry moves to the due list. -/
theorem popDue
    (holds : PlacesInvariant state)
    {entry : HeapEntry}
    (member : entry ∈ state.heap)
    (live : state.isLive entry = true) :
    PlacesInvariant
      { state with
        heap := state.heap.erase entry
        dueList := state.dueList ++ [entry] } := by
  have same (ordinal : Nat) :
      State.liveEntries { state with heap := state.heap.erase entry } ordinal +
          entriesFor ordinal
            (state.dueList ++ [entry] ++ state.retransmission.current) =
        state.liveEntries ordinal +
          entriesFor ordinal
            (state.dueList ++ state.retransmission.current) := by
    have removed := liveEntries_erase member ordinal
    simp only [live, and_true] at removed
    simp only [entriesFor_append, entriesFor_cons, entriesFor_nil]
    omega
  refine holds.moveEntries (fun ordinal => (same ordinal).le)
    (fun _ ordinal _ => same ordinal) (fun _ => List.mem_of_mem_erase) ?_
  intro other among
  simp only [List.mem_append, List.mem_singleton] at among
  rcases among with (old | rfl) | current
  · exact holds.due other (List.mem_append_left _ old)
  · simpa [State.isLive] using live
  · exact holds.due other (List.mem_append_right _ current)

/-- The next due packet becomes the current one. -/
theorem takeDue
    (holds : PlacesInvariant state)
    {entry : HeapEntry}
    (stands : state.retransmission = .processing)
    (first : state.dueList.head? = some entry) :
    PlacesInvariant
      { state with
        dueList := state.dueList.tail
        retransmission := .checking entry } := by
  have due := List.eq_cons_of_mem_head? first
  have same (ordinal : Nat) :
      entriesFor ordinal
          (state.dueList.tail ++ RetransmissionPhase.current (.checking entry)) =
        entriesFor ordinal
          (state.dueList ++ state.retransmission.current) := by
    rw [due, stands]
    simp [RetransmissionPhase.current]
  refine holds.moveEntries ?_ ?_ (fun _ member => member) ?_
  · intro ordinal
    rw [same]
  · intro _ ordinal _
    rw [same]
  · intro other member
    refine holds.due other (List.mem_append_left _ ?_)
    rw [due]
    simp only [RetransmissionPhase.current, List.mem_append,
      List.mem_singleton] at member
    exact member.elim (List.mem_cons_of_mem _) fun same => same ▸ List.mem_cons_self

/-- The current packet is checked and counted. -/
theorem checkDue
    (holds : PlacesInvariant state)
    {entry : HeapEntry}
    (stands : state.retransmission = .checking entry)
    (maxPacketRetransmissionCount : Nat) :
    PlacesInvariant (state.checkDue maxPacketRetransmissionCount entry) := by
  unfold State.checkDue
  simp only
  split
  case isTrue erased =>
    exact holds.dropCurrent (by rw [stands]; rfl) rfl fun _ => erased
  case isFalse =>
    have counted : PlacesInvariant
        (state.setInfo (.data entry.ordinal)
          { state.infos (.data entry.ordinal) with
            retransmissionCount :=
              (state.infos (.data entry.ordinal)).retransmissionCount + 1 }) :=
      holds.setInfo rfl id
    refine counted.setRetransmission ?_
    simp only [State.setInfo, stands]
    split <;> rfl

/-- The current packet is pushed again. -/
theorem pushAgain
    (holds : PlacesInvariant state)
    {entry : HeapEntry}
    (stands : state.retransmission = .tested entry) :
    PlacesInvariant (state.pushAgain entry) := by
  have current : state.retransmission.current = [entry] := by
    rw [stands]
    rfl
  have places (ordinal : Nat) :
      (state.pushAgain entry).placeCount ordinal =
        state.placeCount ordinal := by
    have moved :
        (state.pushAgain entry).pushedCount ordinal +
            entriesFor ordinal state.retransmission.current =
          (state.pushSendPacketInfo .retransmission
            ⟨.data entry.ordinal, some entry.version⟩).pushedCount ordinal :=
      rfl
    rw [State.pushedCount_push, current, entriesFor_cons,
      entriesFor_nil] at moved
    simp only [PacketRef.data.injEq] at moved
    change (state.calls (.data ordinal)).places +
      (state.pushAgain entry).pushedCount ordinal =
        (state.calls (.data ordinal)).places + state.pushedCount ordinal
    omega
  exact
    { holds with
      atMostOne := fun ordinal => by
        rw [places]
        exact holds.atMostOne ordinal
      placed := fun connected packetSequence ordinal found live => by
        rw [places]
        exact holds.placed connected packetSequence ordinal found live
      due := fun other member => by
        have waiting : other ∈ state.dueList := by
          simpa [State.pushAgain, State.pushSendPacketInfo,
            RetransmissionPhase.current] using member
        exact holds.due other (List.mem_append_left _ waiting)
      causes := fun item member version cause => by
        have cases_member : item = ⟨.data entry.ordinal, some entry.version⟩ ∨
            item ∈ state.sendPacketInfoQueue ++
              state.reservedSendPacketInfo.toList ++ state.held := by
          simp only [State.pushAgain, State.pushSendPacketInfo, State.held,
            List.mem_append, List.mem_singleton] at member ⊢
          tauto
        rcases cases_member with rfl | old
        · refine ⟨entry.ordinal, rfl, ?_⟩
          obtain rfl := Option.some.inj cause
          exact holds.due entry (by simp [stands, RetransmissionPhase.current])
        · exact holds.causes item old version cause
      stream := fun owner owns =>
        (holds.stream owner owns).push .retransmission
          ⟨.data entry.ordinal, some entry.version⟩ }

end PlacesInvariant

end Retransmission
end MultiSocketRudp
