import Mathlib.Data.List.Dedup
import Mathlib.Data.List.Perm.Subperm
import MultiSocketRudp.Common.FlowController
import MultiSocketRudp.Lib.TransitionSystem

/-!
# The congestion window and what is in flight

One sender calls `SendPacket`, acknowledgements of any registered packets arrive
in any order, and timeouts shrink the window.  The controller takes the distance
from the highest acknowledged sequence for the number of packets in flight.

Every sequence in between is in flight, and so is every earlier one that an
acknowledgement has skipped.  The window bounds what is in flight exactly as long
as the skipped packets fit into the room that the controller sees.
-/

namespace MultiSocketRudp

open SerialNumber TransitionSystems

/-- What `CanSendPacket` takes for the number of packets in flight. -/
def RudpFlowController.outstanding
    (flow : RudpFlowController) (nextSendSequence : PacketSequence) : Int :=
  let diff := signedDiff nextSendSequence flow.lastReplySequence
  if 1 < diff then diff - 1 else 0

namespace CongestionWindow

/-- How `SendPacketImmediate` ends: it has no `SendPacketInfo`, or
`MultiSocketRUDPCore::SendPacket` succeeds or fails. -/
inductive Outcome
  | sent
  | infoAllocFails
  | coreFails
  deriving DecidableEq, Repr

/-- The moment right before a packet is sent. -/
structure Transmission where
  packetSequence : PacketSequence
  flowController : RudpFlowController
  sendPacketInfoMap : List PacketSequence

/-- The send state of a session, the number of its sequences, and every
transmission so far. -/
structure Session where
  connected : Bool
  allocated : Nat
  lastSendPacketSequence : PacketSequence
  flowController : RudpFlowController
  /-- The pending queue, front first. -/
  pendingPacketQueue : List PacketSequence
  /-- Keys of `sendPacketInfoMap`. -/
  sendPacketInfoMap : List PacketSequence
  transmissions : List Transmission

namespace Session

/-- `SendPacketImmediate`: whether it succeeds, and the session. -/
def sendPacketImmediate
    (session : Session)
    (packetSequence : PacketSequence) : Outcome → Bool × Session
  | .infoAllocFails => (false, session)
  | .coreFails =>
      (false,
        { session with
          sendPacketInfoMap :=
            session.sendPacketInfoMap.filter (· ≠ packetSequence) })
  | .sent =>
      (true,
        { session with
          sendPacketInfoMap :=
            session.sendPacketInfoMap.insert packetSequence
          transmissions :=
            session.transmissions ++
              [⟨packetSequence, session.flowController,
                session.sendPacketInfoMap⟩] })

/-- Packets are sent one after another until one fails, which disconnects the
session. -/
def sendBuffers
    (outcomes : PacketSequence → Outcome) :
    Session → List PacketSequence → Session
  | session, [] => session
  | session, packetSequence :: rest =>
      let result :=
        session.sendPacketImmediate packetSequence (outcomes packetSequence)
      if result.1 then sendBuffers outcomes result.2 rest
      else { result.2 with connected := false }

/-- `SendPacket`: the packet is pushed behind those that are pending, and sent at
once if none is and the window admits it. -/
def sendPacket
    (pendingQueueCapacity : Nat)
    (session : Session)
    (outcome : Outcome) : Session :=
  let packetSequence := session.lastSendPacketSequence + 1
  let numbered :=
    { session with
      allocated := session.allocated + 1
      lastSendPacketSequence := packetSequence }
  if session.pendingPacketQueue ≠ [] ∨
      session.flowController.canSend packetSequence = false then
    if session.pendingPacketQueue.length = pendingQueueCapacity then
      { numbered with connected := false }
    else
      { numbered with
        pendingPacketQueue := session.pendingPacketQueue ++ [packetSequence] }
  else sendBuffers (fun _ => outcome) numbered [packetSequence]

/-- `TryFlushPendingQueue`. -/
def tryFlushPendingQueue
    (outcomes : PacketSequence → Outcome)
    (session : Session) : Session :=
  sendBuffers outcomes
    { session with
      pendingPacketQueue :=
        session.pendingPacketQueue.dropWhile session.flowController.canSend }
    (session.pendingPacketQueue.takeWhile session.flowController.canSend)

/-- `OnSendReply`. -/
def onSendReply
    (session : Session)
    (packetSequence : PacketSequence)
    (outcomes : PacketSequence → Outcome) : Session :=
  if session.lastSendPacketSequence < packetSequence then session
  else if packetSequence ∈ session.sendPacketInfoMap then
    tryFlushPendingQueue outcomes
      { session with
        sendPacketInfoMap :=
          session.sendPacketInfoMap.filter (· ≠ packetSequence)
        flowController := session.flowController.onAckReceived packetSequence }
  else session

end Session

/-- The calls. -/
inductive Label
  | sendPacket (outcome : Outcome)
  | onSendReply
      (packetSequence : PacketSequence) (outcomes : PacketSequence → Outcome)
  /-- `OnRetransmissionTimeout` shrinks the window. -/
  | onTimeout
  /-- `DoDisconnect` from outside of these calls. -/
  | disconnect

/-- One call.  A session that is disconnected sends nothing and processes no
acknowledgement. -/
def step
    (pendingQueueCapacity : Nat) (session : Session) : Label → Option Session
  | .sendPacket outcome =>
      if session.connected then
        some (session.sendPacket pendingQueueCapacity outcome)
      else none
  | .onSendReply packetSequence outcomes =>
      if session.connected then
        some (session.onSendReply packetSequence outcomes)
      else none
  | .onTimeout =>
      some { session with flowController := session.flowController.onTimeout }
  | .disconnect => some { session with connected := false }

/-- A session on which `TryConnect` has just succeeded. -/
def connectedSession : Session where
  connected := true
  allocated := 0
  lastSendPacketSequence := 0
  flowController := .reset
  pendingPacketQueue := []
  sendPacketInfoMap := []
  transmissions := []

/-- The calls from a fresh connection on. -/
def system (pendingQueueCapacity : Nat) : TransitionSystem Session Label where
  Initial session := session = connectedSession
  step := step pendingQueueCapacity

/-! ## What is in flight at a transmission -/

namespace Transmission

/-- Fewer packets are unacknowledged than the window has. -/
def WithinWindow (transmission : Transmission) : Prop :=
  transmission.sendPacketInfoMap.length < transmission.flowController.cwnd

/-- The sequence lies between the highest acknowledged one and the packet that is
sent. -/
def Between
    (transmission : Transmission) (packetSequence : PacketSequence) : Prop :=
  let lastReplySequence := transmission.flowController.lastReplySequence
  0 < signedDiff packetSequence lastReplySequence ∧
    signedDiff packetSequence lastReplySequence <
      signedDiff transmission.packetSequence lastReplySequence

instance (transmission : Transmission) (packetSequence : PacketSequence) :
    Decidable (transmission.Between packetSequence) :=
  inferInstanceAs (Decidable (_ ∧ _))

/-- The sequences in between. -/
def between (transmission : Transmission) : List PacketSequence :=
  serialsFrom (transmission.flowController.lastReplySequence + 1)
    (signedDiff transmission.packetSequence
      transmission.flowController.lastReplySequence - 1).toNat

theorem mem_between_iff
    {transmission : Transmission} {packetSequence : PacketSequence} :
    packetSequence ∈ transmission.between ↔
      transmission.Between packetSequence :=
  mem_serialsFrom_iff

theorem nodup_between (transmission : Transmission) :
    transmission.between.Nodup := by
  have below :
      2 * signedDiff transmission.packetSequence
        transmission.flowController.lastReplySequence < 2 ^ 64 :=
    BitVec.two_mul_toInt_lt
  exact nodup_serialsFrom _ (by omega)

/-- The unacknowledged packets that are not between the highest acknowledged one
and the packet that is sent. -/
def skipped (transmission : Transmission) : List PacketSequence :=
  transmission.sendPacketInfoMap.filter fun packetSequence =>
    ¬ transmission.Between packetSequence

instance (transmission : Transmission) :
    Decidable transmission.WithinWindow :=
  inferInstanceAs (Decidable (_ < _))

/-- The skipped packets are fewer than the controller sees room for. -/
def SkippedFit (transmission : Transmission) : Prop :=
  (transmission.skipped.length : Int) <
    transmission.flowController.cwnd -
      transmission.flowController.outstanding transmission.packetSequence

instance (transmission : Transmission) :
    Decidable transmission.SkippedFit :=
  inferInstanceAs (Decidable ((_ : Int) < _))

/-- Every packet between the highest acknowledged one and the packet that is sent
is unacknowledged. -/
def Complete (transmission : Transmission) : Prop :=
  ∀ packetSequence, transmission.Between packetSequence →
    packetSequence ∈ transmission.sendPacketInfoMap

/-- The controller's number is that of the sequences in between. -/
theorem outstanding_eq_length (transmission : Transmission) :
    transmission.flowController.outstanding transmission.packetSequence =
      transmission.between.length := by
  rw [between, serialsFrom, List.length_map, List.length_range]
  simp only [RudpFlowController.outstanding]
  split <;> omega

/-- A packet is skipped or lies in between. -/
theorem length_eq_add (transmission : Transmission) :
    transmission.sendPacketInfoMap.length =
      (transmission.sendPacketInfoMap.filter transmission.Between).length +
        transmission.skipped.length := by
  have parts := List.length_eq_length_filter_add
    (l := transmission.sendPacketInfoMap)
    (fun packetSequence => decide (transmission.Between packetSequence))
  rw [parts, skipped]
  simp only [decide_not]

/-- Skipped packets that fit leave the window its bound. -/
theorem withinWindow_of_skippedFit
    {transmission : Transmission}
    (unique : transmission.sendPacketInfoMap.Nodup)
    (fit : transmission.SkippedFit) :
    transmission.WithinWindow := by
  have subset :
      transmission.sendPacketInfoMap.filter transmission.Between ⊆
        transmission.between :=
    fun number member =>
      mem_between_iff.mpr (of_decide_eq_true (List.mem_filter.mp member).2)
  have bound := (unique.filter _).length_le_of_subset subset
  have total := transmission.length_eq_add
  have distance := transmission.outstanding_eq_length
  unfold SkippedFit at fit
  unfold WithinWindow
  omega

/-- Where every packet in between is unacknowledged, only skipped packets that
fit leave the window its bound. -/
theorem skippedFit_of_withinWindow
    {transmission : Transmission}
    (complete : transmission.Complete)
    (within : transmission.WithinWindow) :
    transmission.SkippedFit := by
  have subset :
      transmission.between ⊆
        transmission.sendPacketInfoMap.filter transmission.Between :=
    fun number member =>
      List.mem_filter.mpr
        ⟨complete number (mem_between_iff.mp member),
          decide_eq_true (mem_between_iff.mp member)⟩
  have bound := transmission.nodup_between.length_le_of_subset subset
  have total := transmission.length_eq_add
  have distance := transmission.outstanding_eq_length
  unfold WithinWindow at within
  unfold SkippedFit
  omega

end Transmission

/-! ## What the calls keep -/

/-- The first sequences have been sent, the rest waits in order, and every
sequence above the highest acknowledged one that has been sent is
unacknowledged. -/
structure Ordered
    (session : Session) (sent : Nat) (waiting : List PacketSequence) :
    Prop where
  last : session.lastSendPacketSequence.toNat = session.allocated
  inOrder : waiting.map BitVec.toNat = List.range' (sent + 1) waiting.length
  total : sent + waiting.length = session.allocated
  acked : session.flowController.lastReplySequence.toNat ≤ sent
  bounded :
    ∀ packetSequence ∈ session.sendPacketInfoMap, packetSequence.toNat ≤ sent
  inMap : ∀ packetSequence : PacketSequence,
    session.flowController.lastReplySequence.toNat < packetSequence.toNat →
      packetSequence.toNat ≤ sent →
        packetSequence ∈ session.sendPacketInfoMap

/-- What every run keeps while some packets are about to be sent.  The order of
the sequences needs that these do not come round. -/
structure Kept (session : Session) (buffers : List PacketSequence) : Prop where
  unique : session.sendPacketInfoMap.Nodup
  recorded :
    ∀ transmission ∈ session.transmissions,
      transmission.sendPacketInfoMap.Nodup
  complete :
    session.allocated < 2 ^ 63 →
      ∀ transmission ∈ session.transmissions, transmission.Complete
  ordered :
    session.allocated < 2 ^ 63 → session.connected = true →
      ∃ sent, Ordered session sent (buffers ++ session.pendingPacketQueue)

/-- A number between two others that are small lies between them. -/
theorem lt_of_between
    {transmission : Transmission} {packetSequence : PacketSequence}
    (small : transmission.packetSequence.toNat < 2 ^ 63)
    (acked :
      transmission.flowController.lastReplySequence.toNat ≤
        transmission.packetSequence.toNat)
    (between : transmission.Between packetSequence) :
    transmission.flowController.lastReplySequence.toNat <
        packetSequence.toNat ∧
      packetSequence.toNat < transmission.packetSequence.toNat := by
  obtain ⟨positive, inside⟩ := between
  have range :
      signedDiff transmission.packetSequence
          transmission.flowController.lastReplySequence =
        (transmission.packetSequence.toNat : Int) -
          transmission.flowController.lastReplySequence.toNat :=
    signedDiff_eq_sub_of_lt (by omega) (by omega)
  obtain ⟨distance, same⟩ := Int.eq_ofNat_of_zero_le positive.le
  have value := congrArg BitVec.toNat
    ((signedDiff_eq_iff (by omega)).mp same)
  rw [BitVec.toNat_add, BitVec.toNat_ofNat] at value
  omega

/-- The packet whose turn it is finds every packet in between unacknowledged. -/
theorem Ordered.complete
    {session : Session} {sent : Nat}
    {packetSequence : PacketSequence} {rest : List PacketSequence}
    (ordered : Ordered session sent (packetSequence :: rest))
    (small : session.allocated < 2 ^ 63) :
    Transmission.Complete
      ⟨packetSequence, session.flowController,
        session.sendPacketInfoMap⟩ := by
  intro other between
  have turn : packetSequence.toNat = sent + 1 :=
    (List.cons.inj ordered.inOrder).1
  have total := ordered.total
  have acked := ordered.acked
  rw [List.length_cons] at total
  have bounds := lt_of_between (by change packetSequence.toNat < _; omega)
    (by change _ ≤ packetSequence.toNat; exact acked.trans (by omega)) between
  have below : other.toNat < packetSequence.toNat := bounds.2
  exact ordered.inMap other bounds.1 (by omega)

/-- The packet whose turn it is has been sent. -/
theorem Ordered.sendNext
    {session : Session} {sent : Nat}
    {packetSequence : PacketSequence} {rest : List PacketSequence}
    (ordered : Ordered session sent (packetSequence :: rest)) :
    Ordered
      (session.sendPacketImmediate packetSequence .sent).2 (sent + 1) rest where
  last := ordered.last
  inOrder := (List.cons.inj ordered.inOrder).2
  total := by
    have total := ordered.total
    rw [List.length_cons] at total
    change _ = session.allocated
    omega
  acked := ordered.acked.trans (Nat.le_succ sent)
  bounded := fun other member => by
    rcases List.mem_insert_iff.mp member with rfl | before
    · exact (List.cons.inj ordered.inOrder).1.le
    · exact (ordered.bounded other before).trans (Nat.le_succ sent)
  inMap := fun other above below => by
    have turn : packetSequence.toNat = sent + 1 :=
      (List.cons.inj ordered.inOrder).1
    rcases Nat.lt_or_eq_of_le below with before | same
    · exact List.mem_insert_of_mem
        (ordered.inMap other above (by omega))
    · rw [BitVec.eq_of_toNat_eq (same.trans turn.symm)]
      exact List.mem_insert_self

/-- Packets are sent in their turn. -/
theorem Kept.sendBuffers
    {session : Session}
    {outcomes : PacketSequence → Outcome}
    {buffers : List PacketSequence}
    (kept : Kept session buffers)
    (connected : session.connected = true) :
    Kept (session.sendBuffers outcomes buffers) [] := by
  induction buffers generalizing session with
  | nil => exact kept
  | cons packetSequence rest inductionHypothesis =>
      unfold Session.sendBuffers
      cases outcomes packetSequence with
      | sent =>
          refine inductionHypothesis
            { unique := kept.unique.insert
              recorded := ?_
              complete := fun small => ?_
              ordered := fun small _ => ?_ } connected
          · exact List.forall_mem_append.mpr
              ⟨kept.recorded, List.forall_mem_singleton.mpr kept.unique⟩
          · obtain ⟨sent, ordered⟩ := kept.ordered small connected
            exact List.forall_mem_append.mpr
              ⟨kept.complete small,
                List.forall_mem_singleton.mpr (ordered.complete small)⟩
          · obtain ⟨sent, ordered⟩ := kept.ordered small connected
            exact ⟨sent + 1, ordered.sendNext⟩
      | infoAllocFails =>
          exact
            { kept with
              ordered := fun _ connected => nomatch connected }
      | coreFails =>
          exact
            { kept with
              unique := kept.unique.filter _
              ordered := fun _ connected => nomatch connected }

/-- The next sequence is allocated behind those that wait. -/
theorem Ordered.allocate
    {session : Session} {sent : Nat} {waiting : List PacketSequence}
    (ordered : Ordered session sent waiting)
    (small : session.allocated + 1 < 2 ^ 63) :
    Ordered
      { session with
        allocated := session.allocated + 1
        lastSendPacketSequence := session.lastSendPacketSequence + 1 }
      sent (waiting ++ [session.lastSendPacketSequence + 1]) := by
  have last := ordered.last
  have total := ordered.total
  have next :
      (session.lastSendPacketSequence + 1).toNat = session.allocated + 1 := by
    rw [toNat_add_one (by omega), last]
  refine
    { ordered with
      last := next
      inOrder := ?_
      total := ?_ }
  · rw [List.map_append, ordered.inOrder, List.length_append, List.map_singleton,
      next, List.length_singleton, List.range'_concat, ← total]
    simp only [Nat.one_mul]
    congr 2
    omega
  · rw [List.length_append, List.length_singleton]
    change _ = session.allocated + 1
    omega

/-- A registered packet is acknowledged. -/
theorem Ordered.acknowledge
    {session : Session} {sent : Nat} {waiting : List PacketSequence}
    {packetSequence : PacketSequence}
    (ordered : Ordered session sent waiting)
    (small : session.allocated < 2 ^ 63)
    (registered : packetSequence ∈ session.sendPacketInfoMap) :
    Ordered
      { session with
        sendPacketInfoMap :=
          session.sendPacketInfoMap.filter (· ≠ packetSequence)
        flowController := session.flowController.onAckReceived packetSequence }
      sent waiting := by
  have total := ordered.total
  have acked := ordered.acked
  have bound := ordered.bounded packetSequence registered
  have distance :
      signedDiff packetSequence session.flowController.lastReplySequence =
        (packetSequence.toNat : Int) -
          session.flowController.lastReplySequence.toNat :=
    signedDiff_eq_sub_of_lt (by omega) (by omega)
  have highest :
      (session.flowController.onAckReceived
          packetSequence).lastReplySequence.toNat =
        max session.flowController.lastReplySequence.toNat
          packetSequence.toNat := by
    rw [RudpFlowController.lastReplySequence_onAckReceived]
    split <;> omega
  refine
    { ordered with
      acked := by rw [highest]; omega
      bounded := fun other member =>
        ordered.bounded other (List.mem_filter.mp member).1
      inMap := fun other above below => ?_ }
  rw [highest] at above
  refine List.mem_filter.mpr ⟨ordered.inMap other (by omega) below, ?_⟩
  refine decide_eq_true fun same => ?_
  rw [same] at above
  omega

/-- A call of `SendPacket`. -/
theorem Kept.sendPacket
    {session : Session} {pendingQueueCapacity : Nat} {outcome : Outcome}
    (kept : Kept session [])
    (connected : session.connected = true) :
    Kept (session.sendPacket pendingQueueCapacity outcome) [] := by
  have complete (small : session.allocated + 1 < 2 ^ 63) :=
    kept.complete (by omega)
  have ordered (small : session.allocated + 1 < 2 ^ 63) :=
    kept.ordered (by omega) connected
  unfold Session.sendPacket
  simp only
  split
  · split
    · exact
        { kept with
          complete := complete
          ordered := fun _ connected => nomatch connected }
    · refine
        { kept with
          complete := complete
          ordered := fun small _ => ?_ }
      obtain ⟨sent, waits⟩ := ordered small
      exact ⟨sent, { waits.allocate small with }⟩
  · next admitted =>
      have empty : session.pendingPacketQueue = [] := by
        by_contra nonempty
        exact admitted (.inl nonempty)
      refine Kept.sendBuffers
        { kept with
          complete := complete
          ordered := fun small _ => ?_ } connected
      obtain ⟨sent, waits⟩ := ordered small
      have next := waits.allocate small
      rw [empty] at next
      exact ⟨sent, by simpa [empty] using next⟩

/-- A call of `OnSendReply`. -/
theorem Kept.onSendReply
    {session : Session}
    {packetSequence : PacketSequence} {outcomes : PacketSequence → Outcome}
    (kept : Kept session [])
    (connected : session.connected = true) :
    Kept (session.onSendReply packetSequence outcomes) [] := by
  unfold Session.onSendReply
  split
  · exact kept
  · split
    · next registered =>
        refine Kept.sendBuffers
          { kept with
            unique := kept.unique.filter _
            ordered := fun small _ => ?_ } connected
        obtain ⟨sent, waits⟩ := kept.ordered small connected
        have next := waits.acknowledge small registered
        simp only [List.takeWhile_append_dropWhile]
        exact ⟨sent, { next with }⟩
    · exact kept

/-- Every call keeps it. -/
theorem Kept.step
    {pendingQueueCapacity : Nat} {session next : Session} {label : Label}
    (kept : Kept session [])
    (moves : step pendingQueueCapacity session label = some next) :
    Kept next [] := by
  cases label with
  | sendPacket outcome =>
      obtain ⟨connected, same⟩ := Option.ite_none_right_eq_some.mp moves
      exact Option.some.inj same ▸ kept.sendPacket connected
  | onSendReply packetSequence outcomes =>
      obtain ⟨connected, same⟩ := Option.ite_none_right_eq_some.mp moves
      exact Option.some.inj same ▸ kept.onSendReply connected
  | onTimeout =>
      obtain rfl := Option.some.inj moves
      refine { kept with ordered := fun small connected => ?_ }
      obtain ⟨sent, waits⟩ := kept.ordered small connected
      exact ⟨sent, { waits with }⟩
  | disconnect =>
      obtain rfl := Option.some.inj moves
      exact { kept with ordered := fun _ connected => nomatch connected }

/-- A fresh connection. -/
theorem kept_connectedSession : Kept connectedSession [] where
  unique := List.nodup_nil
  recorded := nofun
  complete := fun _ => nofun
  ordered := fun _ _ =>
    ⟨0,
      { last := rfl
        inOrder := rfl
        total := rfl
        acked := le_rfl
        bounded := nofun
        inMap := fun _ above below => absurd (above.trans_le below) (lt_irrefl _)
      }⟩

/-! ## Whole runs -/

/-- The window lies between its bounds, and each packet was sent with fewer
packets unacknowledged than the window had. -/
def BoundsFlight (session : Session) : Prop :=
  (1 ≤ session.flowController.cwnd ∧
    session.flowController.cwnd ≤ maxCwnd) ∧
    ∀ transmission ∈ session.transmissions, transmission.WithinWindow

/-- In every run the window bounds what is in flight if the skipped packets fit at
every transmission, and only then as long as sequences do not come round. -/
theorem boundsFlight_iff_skippedFit
    {pendingQueueCapacity : Nat} {session : Session}
    (reached : (system pendingQueueCapacity).Reachable session) :
    ((∀ transmission ∈ session.transmissions, transmission.SkippedFit) →
      BoundsFlight session) ∧
    (session.allocated < 2 ^ 63 → BoundsFlight session →
      ∀ transmission ∈ session.transmissions, transmission.SkippedFit) := by
  have kept : Kept session [] :=
    reached.invariant (fun _ begins => begins ▸ kept_connectedSession)
      fun _ _ _ _ kept moves => kept.step moves
  constructor
  · intro fit
    refine
      ⟨⟨session.flowController.cwnd_pos, session.flowController.cwnd_le⟩,
        fun transmission member => ?_⟩
    exact Transmission.withinWindow_of_skippedFit
      (kept.recorded transmission member) (fit transmission member)
  · intro small bounds transmission member
    exact Transmission.skippedFit_of_withinWindow
      (kept.complete small transmission member)
      (bounds.2 transmission member)

/-- Four packets of which only the last one is acknowledged, and three more. -/
def skippedCalls : List Label :=
  [.sendPacket .sent, .sendPacket .sent, .sendPacket .sent, .sendPacket .sent,
    .onSendReply 4 fun _ => .sent,
    .sendPacket .sent, .sendPacket .sent, .sendPacket .sent]

/-- The session after these calls. -/
def skippedSession : Session :=
  ((system 16).run connectedSession skippedCalls).getD connectedSession

/-- The last packet is sent with five packets unacknowledged and a window of
five. -/
theorem window_exceeded_after_skipping :
    (system 16).Reachable skippedSession ∧
      (skippedSession.transmissions.map fun transmission =>
        (transmission.packetSequence,
          transmission.sendPacketInfoMap.length,
          transmission.flowController.cwnd)) =
        [(1, 0, 4), (2, 1, 4), (3, 2, 4), (4, 3, 4), (5, 3, 5), (6, 4, 5),
          (7, 5, 5)] ∧
      ¬ BoundsFlight skippedSession :=
  ⟨.run (.initial rfl)
    (show (system 16).run connectedSession skippedCalls =
      some skippedSession from rfl),
    by decide, fun bounds => absurd bounds.2 (by decide)⟩

/-- A packet is skipped, the window has room for it, and a pending packet is
flushed. -/
def roomyCalls : List Label :=
  [.sendPacket .sent, .sendPacket .sent, .sendPacket .sent, .sendPacket .sent,
    .sendPacket .sent, .onSendReply 2 fun _ => .sent]

/-- The session after these calls. -/
def roomySession : Session :=
  ((system 16).run connectedSession roomyCalls).getD connectedSession

theorem boundsFlight_roomy : BoundsFlight roomySession :=
  (boundsFlight_iff_skippedFit
    (TransitionSystem.Reachable.run (.initial rfl)
      (show (system 16).run connectedSession roomyCalls = some roomySession
        from rfl))).1 (by decide)

end CongestionWindow
end MultiSocketRudp
