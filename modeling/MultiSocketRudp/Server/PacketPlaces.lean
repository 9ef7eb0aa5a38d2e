import MultiSocketRudp.Server.Retransmission
import Mathlib.Data.List.Count

/-!
# Unacknowledged packets stay scheduled

Each registered packet that is not erased is held in exactly one place, and each
step moves it from one place to the next.  A datagram takes its packets from the
front of the queue, so that a packet whose retransmission is due while the
datagram is under construction is not met again in it.

The last argument compares packets by their sequence, and the promise therefore
holds for the first `2 ^ 64` sequences.
-/

namespace MultiSocketRudp
namespace Retransmission

open TransitionSystems SendStream

/-! ## Places -/

/-- A call is a place of its packet while it is about to push it. -/
def CallState.places : CallState → Nat
  | .inserted => 1
  | .tested => 1
  | _ => 0

/-- The call has come past `InsertSendPacketInfo`. -/
def CallState.registered : CallState → Bool
  | .idle => false
  | .begun => false
  | _ => true

/-- The packet that `ProcessRetransmission` is about to push, or on whose behalf
it is about to disconnect the session. -/
def RetransmissionPhase.current : RetransmissionPhase → List HeapEntry
  | .checking entry => [entry]
  | .exceeded entry => [entry]
  | .retrying entry => [entry]
  | .tested entry => [entry]
  | _ => []

/-- The packet that `MakeSendStream` has taken and not yet scheduled again, or on
whose behalf it is about to disconnect the session. -/
def OwnerPhase.held : OwnerPhase → List QueueItem
  | .taken item _ _ => [item]
  | .refreshing item _ _ => [item]
  | .oversize item => [item]
  | _ => []

/-- How often the packet is among the items. -/
def itemsFor (ordinal : Nat) (items : List QueueItem) : Nat :=
  items.countP fun item => item.packet = .data ordinal

/-- How often the packet is among the entries. -/
def entriesFor (ordinal : Nat) (entries : List HeapEntry) : Nat :=
  entries.countP fun entry => entry.ordinal = ordinal

/-- The packet in the local state of `MakeSendStream`. -/
def heldBy : Option Owner → List QueueItem
  | none => []
  | some owner => owner.phase.held

namespace State

/-- The packet in the local state of `MakeSendStream`. -/
def held (state : State) : List QueueItem := heldBy state.owner

/-- Live heap entries of a packet. -/
def liveEntries (state : State) (ordinal : Nat) : Nat :=
  state.heap.countP fun entry =>
    entry.ordinal = ordinal ∧
      entry.version = (state.infos (.data ordinal)).scheduleVersion

/-- In how many places a pushed packet is held: the send queue, the reserved
slot, the local state of `MakeSendStream`, live heap entries, the due list and
the current packet of the retransmission thread. -/
def pushedCount (state : State) (ordinal : Nat) : Nat :=
  itemsFor ordinal state.sendPacketInfoQueue +
    itemsFor ordinal state.reservedSendPacketInfo.toList +
    itemsFor ordinal state.held +
    state.liveEntries ordinal +
    entriesFor ordinal state.dueList +
    entriesFor ordinal state.retransmission.current

/-- In how many places a packet is held, with the call that is about to push it
as one more. -/
def placeCount (state : State) (ordinal : Nat) : Nat :=
  (state.calls (.data ordinal)).places + state.pushedCount ordinal

end State

/-- Every registered packet that is not erased is held in exactly one place, no
packet has two live heap entries, and nothing is let into a datagram that is
erased or that a stale heap entry has caused. -/
structure StaysScheduled (state : State) : Prop where
  /-- Unacknowledged packets of a connected session are in one place. -/
  placed : state.state = .connected →
    ∀ packetSequence ordinal,
      state.sendPacketInfoMap packetSequence = some ordinal →
      (state.infos (.data ordinal)).isErasedPacketInfo = false →
      state.placeCount ordinal = 1
  /-- Live heap entries are unique. -/
  live : ∀ ordinal, state.liveEntries ordinal ≤ 1
  /-- Only live entries of packets that are not erased lead to a transmission. -/
  transmitted : ∀ transmission ∈ state.transmissions,
    transmission.info.isErasedPacketInfo = false ∧
      ∀ version, transmission.item.cause = some version →
        version = transmission.info.scheduleVersion

/-! ## The invariant -/

/-- Packets still to be taken from the queue are not in the datagram. -/
def Unseen (state : State) (locals : StreamLocals) : Prop :=
  locals.remaining ≤ state.sendPacketInfoQueue.length ∧
    ∀ item ∈ state.sendPacketInfoQueue.take locals.remaining,
      item.packet.isReplyType = false →
        item.packet.key ∉ locals.packetSequenceSet

/-- What the datagram under construction promises. -/
def StreamSound (state : State) : OwnerPhase → Prop
  | .measured bufferCount => bufferCount ≤ state.sendPacketInfoQueue.length
  | .loop locals =>
      state.reservedSendPacketInfo = none ∧ Unseen state locals
  | .taken item _ locals | .refreshing item _ locals =>
      state.reservedSendPacketInfo = none ∧ Unseen state locals ∧
        (item.packet.isReplyType = false →
          item.packet.key ∉ locals.packetSequenceSet)
  | _ => True

/-- The invariant of the first `2 ^ 64` sequences. -/
structure PlacesInvariant (state : State) : Prop where
  /-- The sequences do not repeat. -/
  bounded : state.sequencesTaken ≤ 2 ^ 64
  /-- There are calls for taken sequences only. -/
  untaken : ∀ ordinal,
    ordinal = 0 ∨ state.sequencesTaken < ordinal →
      state.calls (.data ordinal) = .idle
  /-- A packet is in at most one place, and in none before it is registered. -/
  atMostOne : ∀ ordinal, state.placeCount ordinal ≤
    if (state.calls (.data ordinal)).registered then 1 else 0
  /-- The map has the packets under their sequence. -/
  mapped : ∀ packetSequence ordinal,
    state.sendPacketInfoMap packetSequence = some ordinal →
      (state.calls (.data ordinal)).registered = true
  /-- Unacknowledged packets of a connected session are in one place. -/
  placed : state.state = .connected →
    ∀ packetSequence ordinal,
      state.sendPacketInfoMap packetSequence = some ordinal →
      (state.infos (.data ordinal)).isErasedPacketInfo = false →
      state.placeCount ordinal = 1
  /-- The release flag is raised for a session that is being released. -/
  released : state.nowInReleaseThread = true → state.state ≠ .connected
  /-- Heap entries are for registered packets and not newer than them. -/
  versions : ∀ entry ∈ state.heap,
    (state.calls (.data entry.ordinal)).registered = true ∧
      entry.version ≤ (state.infos (.data entry.ordinal)).scheduleVersion
  /-- Due entries are live. -/
  due : ∀ entry ∈ state.dueList ++ state.retransmission.current,
    entry.version = (state.infos (.data entry.ordinal)).scheduleVersion
  /-- What is to be sent again was caused by a live entry. -/
  causes : ∀ item ∈ state.sendPacketInfoQueue ++
      state.reservedSendPacketInfo.toList ++ state.held,
    ∀ version, item.cause = some version →
      ∃ ordinal, item.packet = .data ordinal ∧
        version = (state.infos (.data ordinal)).scheduleVersion
  /-- The send path has one owner, unless a datagram is on its way. -/
  exclusive : state.owner ≠ none →
    state.ioMode = .ioSending ∧ state.sendInFlight = false
  /-- A datagram on its way keeps the send path. -/
  inFlight : state.sendInFlight = true → state.ioMode = .ioSending
  /-- The datagram under construction is sound. -/
  stream : ∀ owner, state.owner = some owner → StreamSound state owner.phase
  /-- So was everything that was let into a datagram. -/
  transmitted : ∀ transmission ∈ state.transmissions,
    transmission.info.isErasedPacketInfo = false ∧
      ∀ version, transmission.item.cause = some version →
        version = transmission.info.scheduleVersion

theorem State.liveEntries_le_placeCount (state : State) (ordinal : Nat) :
    state.liveEntries ordinal ≤ state.placeCount ordinal := by
  unfold State.placeCount State.pushedCount
  omega

/-- The invariant gives the promise. -/
theorem PlacesInvariant.staysScheduled
    {state : State}
    (holds : PlacesInvariant state) :
    StaysScheduled state where
  placed := holds.placed
  live ordinal := by
    have live := state.liveEntries_le_placeCount ordinal
    have bound := holds.atMostOne ordinal
    split at bound <;> omega
  transmitted := holds.transmitted

/-! ## Counting -/

@[simp] theorem itemsFor_nil (ordinal : Nat) : itemsFor ordinal [] = 0 := rfl

@[simp] theorem itemsFor_cons
    (ordinal : Nat) (item : QueueItem) (items : List QueueItem) :
    itemsFor ordinal (item :: items) =
      itemsFor ordinal items +
        if item.packet = .data ordinal then 1 else 0 := by
  simp [itemsFor, List.countP_cons]

@[simp] theorem itemsFor_append
    (ordinal : Nat) (first second : List QueueItem) :
    itemsFor ordinal (first ++ second) =
      itemsFor ordinal first + itemsFor ordinal second := by
  simp [itemsFor]

@[simp] theorem entriesFor_nil (ordinal : Nat) :
    entriesFor ordinal [] = 0 := rfl

@[simp] theorem entriesFor_cons
    (ordinal : Nat) (entry : HeapEntry) (entries : List HeapEntry) :
    entriesFor ordinal (entry :: entries) =
      entriesFor ordinal entries +
        if entry.ordinal = ordinal then 1 else 0 := by
  simp [entriesFor, List.countP_cons]

@[simp] theorem entriesFor_append
    (ordinal : Nat) (first second : List HeapEntry) :
    entriesFor ordinal (first ++ second) =
      entriesFor ordinal first + entriesFor ordinal second := by
  simp [entriesFor]

/-- A packet among the items is counted. -/
theorem itemsFor_pos
    {ordinal : Nat} {items : List QueueItem} {item : QueueItem}
    (member : item ∈ items)
    (packet : item.packet = .data ordinal) :
    0 < itemsFor ordinal items :=
  List.countP_pos_iff.mpr ⟨item, member, by simpa using packet⟩

/-- The packet in the local state, when the owner is known. -/
theorem State.held_eq
    {state : State} {caller : Caller} {phase : OwnerPhase}
    (stands : state.owner = some ⟨caller, phase⟩) :
    state.held = phase.held := by
  rw [State.held, stands]
  rfl

theorem State.pushedCount_push
    (state : State) (caller : Caller) (item : QueueItem) (ordinal : Nat) :
    (state.pushSendPacketInfo caller item).pushedCount ordinal =
      state.pushedCount ordinal +
        if item.packet = .data ordinal then 1 else 0 := by
  change itemsFor ordinal (state.sendPacketInfoQueue ++ [item]) +
      itemsFor ordinal state.reservedSendPacketInfo.toList +
      itemsFor ordinal state.held + state.liveEntries ordinal +
      entriesFor ordinal state.dueList +
      entriesFor ordinal state.retransmission.current = _
  rw [itemsFor_append, itemsFor_cons, itemsFor_nil, State.pushedCount]
  omega

theorem State.placeCount_setCall_self
    (state : State) (ordinal : Nat) (call : CallState) :
    (state.setCall (.data ordinal) call).placeCount ordinal =
      call.places + state.pushedCount ordinal := by
  simp only [State.placeCount, State.setCall, Function.update_self]
  rfl

theorem State.placeCount_setCall_of_ne
    (state : State) {packet : PacketRef} {ordinal : Nat}
    (other : packet ≠ .data ordinal) (call : CallState) :
    (state.setCall packet call).placeCount ordinal =
      state.placeCount ordinal := by
  simp only [State.placeCount, State.setCall, Function.update_of_ne other.symm]
  rfl

end Retransmission
end MultiSocketRudp
