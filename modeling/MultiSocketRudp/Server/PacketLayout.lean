import MultiSocketRudp.Server.SendFlow

/-!
# The layout of sent packets

Every caller of `SendPacketImmediate` but one passes the class that belongs to
the type of the packet.  `TryFlushPendingQueue` passes the class of a SEND packet
for whatever the queue holds, so the layouts agree in every run in which no
heartbeat enters the queue.  A heartbeat can enter it, because the window is
tested before the heartbeat's own sequence is allocated.
-/

namespace MultiSocketRudp
namespace SendFlow

open TransitionSystems

/-- The packet goes out in the layout of its type. -/
def Frame.LayoutOfType (frame : Frame) : Prop :=
  frame.isCorePacket = (frame.packetType != .sendType)

/-- The items are SEND packets. -/
def AllSend (items : List PendingItem) : Prop :=
  ∀ item ∈ items, item.packetType = .sendType

/-- What a call in progress holds has the layout of its type. -/
def CallState.LayoutSound : CallState → Prop
  | .allocated frame =>
      frame.LayoutOfType ∧
        (frame.packetType = .sendType ∨ frame.packetType = .heartbeatType)
  | .immediate frame rest => frame.LayoutOfType ∧ AllSend rest
  | .inserted frame rest => frame.LayoutOfType ∧ AllSend rest
  | .encoded frame rest => frame.LayoutOfType ∧ AllSend rest
  | _ => True

/-- No heartbeat enters the pending queue: whenever one takes the pending lock,
nothing is pending and the window admits it. -/
def NoHeartbeatQueued (session : Session) : Label → Prop
  | .enterLock _ frame =>
      frame.packetType = .heartbeatType →
        session.pendingPacketQueue = [] ∧
          session.flowController.canSend frame.packetSequence = true
  | _ => True

instance (session : Session) (label : Label) :
    Decidable (NoHeartbeatQueued session label) :=
  match label with
  | .enterLock _ frame =>
      inferInstanceAs (Decidable (frame.packetType = .heartbeatType → _))
  | .beginSendPacket _ | .allocateData _ | .beginHeartbeat _
  | .checkHeartbeat _ | .allocateHeartbeat _ | .allocFails _
  | .beginReply _ _ | .infoAllocFails _ _ _ | .insert _ _ _ | .encode _ _ _
  | .coreSendPacket _ _ _ _ | .ackErase _ _ | .ackUpdate _ _ | .flush _
  | .timeout | .failDisconnect _ | .disconnect => .isTrue trivial

/-- The invariant of the runs in which no heartbeat enters the queue. -/
structure LayoutInvariant (session : Session) : Prop where
  /-- Everything encoded so far had the layout of its type. -/
  encoded : LayoutsAgree session
  /-- Only SEND packets are pending. -/
  pending : AllSend session.pendingPacketQueue
  /-- So is everything that the calls hold. -/
  calls : ∀ call, (session.calls call).LayoutSound

namespace LayoutInvariant

variable {session : Session}

/-- A step that only moves one call keeps the invariant when what the call holds
afterwards is sound. -/
theorem update
    (holds : LayoutInvariant session)
    (call : Nat)
    {moved : CallState}
    (sound : moved.LayoutSound)
    (other : Nat) :
    (Function.update session.calls call moved other).LayoutSound := by
  revert other
  exact (Function.forall_update_iff session.calls
    fun _ state => state.LayoutSound).mpr
      ⟨sound, fun other _ => holds.calls other⟩

/-- The call that makes a step is sound before it. -/
theorem at_call
    (holds : LayoutInvariant session)
    {call : Nat} {state : CallState}
    (stands : session.calls call = state) :
    state.LayoutSound :=
  stands ▸ holds.calls call

/-- A flush hands its items on with the layout of SEND packets. -/
theorem sendNext_sound
    {items : List PendingItem}
    (send : AllSend items) :
    (sendNext items).LayoutSound := by
  cases items with
  | nil => trivial
  | cons item rest =>
      have first := send item (by simp)
      refine ⟨?_, fun other member => send other (by simp [member])⟩
      simp [Frame.LayoutOfType, first]

/-- `DoDisconnect` changes nothing that the invariant speaks of. -/
theorem doDisconnect
    (holds : LayoutInvariant session) :
    LayoutInvariant (doDisconnect session) := by
  unfold SendFlow.doDisconnect
  split <;> exact ⟨holds.encoded, holds.pending, holds.calls⟩

/-- The section under the pending lock keeps the invariant when it queues no
heartbeat. -/
theorem enterPendingLock
    (holds : LayoutInvariant session)
    (capacity call : Nat) {frame : Frame}
    (stands : session.calls call = .allocated frame)
    (notQueued : NoHeartbeatQueued session (.enterLock call frame)) :
    LayoutInvariant (enterPendingLock capacity session call frame) := by
  obtain ⟨layout, typed⟩ := holds.at_call stands
  unfold SendFlow.enterPendingLock
  split
  case isTrue queues =>
    split
    · exact ⟨holds.encoded, holds.pending, holds.update call trivial⟩
    · have send : frame.packetType = .sendType := by
        refine typed.resolve_right fun heartbeat => ?_
        obtain ⟨empty, admitted⟩ := notQueued heartbeat
        simp [empty, admitted] at queues
      refine ⟨holds.encoded, ?_, holds.update call trivial⟩
      intro item member
      rcases List.mem_append.mp member with old | new
      · exact holds.pending item old
      · obtain rfl := List.mem_singleton.mp new
        exact send
  case isFalse =>
    refine ⟨holds.encoded, holds.pending, holds.update call ⟨layout, ?_⟩⟩
    simp [AllSend]

end LayoutInvariant

/-- Every step that queues no heartbeat keeps the invariant. -/
theorem layoutInvariant_step
    {capacity : Nat}
    {session next : Session}
    {label : Label}
    (holds : LayoutInvariant session)
    (notQueued : NoHeartbeatQueued session label)
    (moves : step capacity session label = some next) :
    LayoutInvariant next := by
  cases label with
  | coreSendPacket call frame rest sent =>
      cases sent with
      | true =>
          simp only [step, Option.ite_none_right_eq_some, Option.some.injEq]
            at moves
          obtain ⟨⟨stands, -⟩, rfl⟩ := moves
          have sound := holds.at_call stands
          exact ⟨holds.encoded, holds.pending,
            holds.update call (LayoutInvariant.sendNext_sound sound.2)⟩
      | false =>
          simp only [step, Option.ite_none_right_eq_some, Option.some.injEq]
            at moves
          obtain ⟨-, rfl⟩ := moves
          exact ⟨holds.encoded, holds.pending, holds.update call trivial⟩
  | timeout =>
      obtain rfl := Option.some.inj moves
      exact ⟨holds.encoded, holds.pending, holds.calls⟩
  | disconnect =>
      obtain rfl := Option.some.inj moves
      exact holds.doDisconnect
  | failDisconnect call =>
      simp only [step, Option.ite_none_right_eq_some, Option.some.injEq]
        at moves
      obtain ⟨-, rfl⟩ := moves
      exact LayoutInvariant.doDisconnect
        ⟨holds.encoded, holds.pending, holds.update call trivial⟩
  | enterLock call frame =>
      simp only [step, Option.ite_none_right_eq_some, Option.some.injEq]
        at moves
      obtain ⟨stands, rfl⟩ := moves
      exact holds.enterPendingLock capacity call stands notQueued
  | encode call frame rest =>
      simp only [step, Option.ite_none_right_eq_some, Option.some.injEq]
        at moves
      obtain ⟨stands, rfl⟩ := moves
      have sound := holds.at_call stands
      refine ⟨?_, holds.pending, holds.update call sound⟩
      intro other member
      rcases List.mem_cons.mp member with rfl | old
      · exact sound.1
      · exact holds.encoded other old
  | flush call =>
      simp only [step, Option.ite_none_right_eq_some, Option.some.injEq]
        at moves
      obtain ⟨-, rfl⟩ := moves
      refine ⟨holds.encoded, ?_,
        holds.update call (LayoutInvariant.sendNext_sound ?_)⟩
      · intro item member
        exact holds.pending item ((List.dropWhile_suffix _).mem member)
      · intro item member
        exact holds.pending item (List.takeWhile_subset _ member)
  | beginSendPacket call =>
      simp only [step, Option.ite_none_right_eq_some, Option.some.injEq]
        at moves
      obtain ⟨-, rfl⟩ := moves
      exact ⟨holds.encoded, holds.pending, holds.update call trivial⟩
  | allocateData call =>
      simp only [step, Option.ite_none_right_eq_some, Option.some.injEq]
        at moves
      obtain ⟨-, rfl⟩ := moves
      exact ⟨holds.encoded, holds.pending,
        holds.update call ⟨rfl, .inl rfl⟩⟩
  | beginHeartbeat call =>
      simp only [step, Option.ite_none_right_eq_some, Option.some.injEq]
        at moves
      obtain ⟨-, rfl⟩ := moves
      exact ⟨holds.encoded, holds.pending, holds.update call trivial⟩
  | checkHeartbeat call =>
      simp only [step, Option.ite_none_right_eq_some, Option.some.injEq]
        at moves
      obtain ⟨-, rfl⟩ := moves
      refine ⟨holds.encoded, holds.pending, holds.update call ?_⟩
      split <;> trivial
  | allocateHeartbeat call =>
      simp only [step, Option.ite_none_right_eq_some, Option.some.injEq]
        at moves
      obtain ⟨-, rfl⟩ := moves
      exact ⟨holds.encoded, holds.pending,
        holds.update call ⟨rfl, .inr rfl⟩⟩
  | allocFails call =>
      simp only [step, Option.ite_none_right_eq_some, Option.some.injEq]
        at moves
      obtain ⟨-, rfl⟩ := moves
      exact ⟨holds.encoded, holds.pending, holds.update call trivial⟩
  | beginReply call packetSequence =>
      simp only [step, Option.ite_none_right_eq_some, Option.some.injEq]
        at moves
      obtain ⟨-, rfl⟩ := moves
      exact ⟨holds.encoded, holds.pending,
        holds.update call ⟨rfl, by simp [AllSend]⟩⟩
  | infoAllocFails call frame rest =>
      simp only [step, Option.ite_none_right_eq_some, Option.some.injEq]
        at moves
      obtain ⟨-, rfl⟩ := moves
      exact ⟨holds.encoded, holds.pending, holds.update call trivial⟩
  | insert call frame rest =>
      simp only [step, Option.ite_none_right_eq_some, Option.some.injEq]
        at moves
      obtain ⟨stands, rfl⟩ := moves
      have sound := holds.at_call stands
      exact ⟨holds.encoded, holds.pending, holds.update call sound⟩
  | ackErase call packetSequence =>
      simp only [step, Option.ite_none_right_eq_some, Option.some.injEq]
        at moves
      obtain ⟨-, rfl⟩ := moves
      exact ⟨holds.encoded, holds.pending, holds.update call trivial⟩
  | ackUpdate call packetSequence =>
      simp only [step, Option.ite_none_right_eq_some, Option.some.injEq]
        at moves
      obtain ⟨-, rfl⟩ := moves
      exact ⟨holds.encoded, holds.pending, holds.update call trivial⟩

/-- In every run in which no heartbeat enters the pending queue, every packet is
encoded in the layout of its type. -/
theorem layoutsAgree_of_noHeartbeatQueued
    {capacity : Nat}
    {session : Session}
    (reached : (system capacity).GuardedReachable NoHeartbeatQueued session) :
    LayoutsAgree session := by
  refine LayoutInvariant.encoded (reached.invariant ?_ ?_)
  · rintro state rfl
    exact ⟨by simp [LayoutsAgree, connectedSession],
      by simp [AllSend, connectedSession], fun _ => trivial⟩
  · intro state label next _ holds notQueued moves
    exact layoutInvariant_step holds notQueued moves

/-- One call of `SendHeartbeatPacket` that finds the window open. -/
def heartbeatSchedule : List Label :=
  let frame : Frame := ⟨.heartbeatType, 1, false, true⟩
  [.beginHeartbeat 0, .checkHeartbeat 0, .allocateHeartbeat 0,
    .enterLock 0 frame, .insert 0 frame [], .encode 0 frame []]

/-- The session after that call has encoded its packet. -/
def heartbeatSession : Session :=
  ((system 8).run connectedSession heartbeatSchedule).getD connectedSession

theorem layoutsAgree_of_noHeartbeatQueued_heartbeat :
    LayoutsAgree heartbeatSession :=
  layoutsAgree_of_noHeartbeatQueued
    (TransitionSystem.GuardedReachable.guardedRun (.initial rfl)
      (show (system 8).guardedRun NoHeartbeatQueued connectedSession
        heartbeatSchedule = some heartbeatSession from rfl))

/-- Sending one packet that the window admits, from the test of `IsConnected`
through the pending lock and `MultiSocketRUDPCore::SendPacket`. -/
def sendDataSchedule (call : Nat) (packetSequence : PacketSequence) :
    List Label :=
  let frame : Frame := ⟨.sendType, packetSequence, false, false⟩
  [.beginSendPacket call, .allocateData call, .enterLock call frame,
    .insert call frame [], .encode call frame [],
    .coreSendPacket call frame [] true]

/-- The heartbeat thread tests the window behind sequence three; the packet with
sequence four is sent before the heartbeat takes sequence five, which is queued.
The acknowledgement of sequence one flushes it. -/
def queuedHeartbeatSchedule : List Label :=
  sendDataSchedule 0 1 ++ sendDataSchedule 0 2 ++ sendDataSchedule 0 3 ++
    [.beginHeartbeat 1, .checkHeartbeat 1] ++ sendDataSchedule 0 4 ++
    [.allocateHeartbeat 1, .enterLock 1 ⟨.heartbeatType, 5, false, true⟩,
      .ackErase 2 1, .ackUpdate 2 1, .flush 2,
      .insert 2 ⟨.heartbeatType, 5, false, false⟩ [],
      .encode 2 ⟨.heartbeatType, 5, false, false⟩ []]

/-- The session at the end of that run. -/
def queuedHeartbeatSession : Session :=
  ((system 8).run connectedSession queuedHeartbeatSchedule).getD
    connectedSession

/-- A heartbeat that waited in the queue is encoded in the layout of SEND. -/
theorem queuedHeartbeat_layout :
    (system 8).Reachable queuedHeartbeatSession ∧
    ¬ LayoutsAgree queuedHeartbeatSession := by
  refine ⟨?_, by unfold LayoutsAgree; decide⟩
  refine TransitionSystem.Reachable.run
    (TransitionSystem.Reachable.initial rfl)
    (show (system 8).run connectedSession queuedHeartbeatSchedule =
      some queuedHeartbeatSession from rfl)

end SendFlow
end MultiSocketRudp
