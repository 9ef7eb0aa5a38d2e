import MultiSocketRudp.Client.Lifecycle

/-!
# Restarting a client

`Stop` and `Start` leave the sequences, the remote window, the receive queue and
the send queue as they are.  So a client that is started again is like a new one
when it has not been used, and in general it is not.
-/

namespace MultiSocketRudp

/-! ## The packets in the send path -/

namespace SendPath

open ReceivePath

variable {Payload : Type}

/-- The packet that a call of `SendPacket` deals with. -/
def ClientCall.frame : ClientCall Payload → Option (DataFrame Payload)
  | .idle => none
  | .allocated frame | .windowLoaded frame _ | .toPending frame
  | .registering frame | .registered frame => some frame

/-- The packet that the flush deals with. -/
def Receiver.frame : Receiver Payload → Option (DataFrame Payload)
  | .idle | .windowStored _ | .erased | .flushing _ => none
  | .flushRegistering frame _ | .flushRegistered frame _ => some frame

/-- Every packet in the send path has the property. -/
structure Frames
    (Property : ClientFrame Payload → Prop) (client : Client Payload) :
    Prop where
  map : ∀ info ∈ client.sendPacketInfoMap, Property info.frame
  retransmission : ∀ frame, client.retransmission = some frame →
    Property frame
  pending : ∀ frame ∈ client.pendingPacketQueue, Property (.send frame)
  calls : ∀ call frame, (client.calls call).frame = some frame →
    Property (.send frame)
  receiver : ∀ frame, client.receiver.frame = some frame →
    Property (.send frame)

namespace Frames

variable {Property : ClientFrame Payload → Prop} {client : Client Payload}

/-- One call moves on. -/
theorem moveCall
    (frames : Frames Property client)
    {call : Nat} {moved : ClientCall Payload}
    (allowed : ∀ frame, moved.frame = some frame → Property (.send frame))
    (other : Nat) (frame : DataFrame Payload)
    (found : (Function.update client.calls call moved other).frame =
      some frame) :
    Property (.send frame) := by
  by_cases same : other = call
  · subst same
    rw [Function.update_self] at found
    exact allowed frame found
  · rw [Function.update_of_ne same] at found
    exact frames.calls other frame found

/-- A packet is registered. -/
theorem insert
    (frames : Frames Property client)
    {frame : ClientFrame Payload}
    (allowed : Property frame)
    (info : SendPacketInfo Payload)
    (member : info ∈ insertSendPacketInfo client.sendPacketInfoMap frame) :
    Property info.frame := by
  unfold insertSendPacketInfo at member
  split at member
  · exact frames.map info member
  · obtain rfl | present := List.mem_cons.mp member
    · exact allowed
    · exact frames.map info present

/-- A step of the send path brings in no other packet than the one that it
allocates, and enqueues only packets that are there. -/
theorem clientStep
    [DecidableEq Payload]
    {maximum : Nat} {label : ClientLabel Payload}
    {next : Client Payload} {enqueued : List (ClientFrame Payload)}
    (frames : Frames Property client)
    (allocated : ∀ call payload, label = .allocate call payload →
      Property (.send ⟨client.lastSendPacketSequence + 1, payload⟩))
    (moves : SendPath.clientStep maximum client label =
      some (next, enqueued)) :
    Frames Property next ∧ ∀ frame ∈ enqueued, Property frame := by
  cases label with
  | allocate call payload =>
      simp only [SendPath.clientStep, Option.ite_none_right_eq_some,
        Option.some.injEq, Prod.mk.injEq] at moves
      obtain ⟨-, rfl, rfl⟩ := moves
      refine ⟨{ frames with calls := frames.moveCall ?_ }, by simp⟩
      rintro frame ⟨⟩
      exact allocated call payload rfl
  | loadWindow call frame =>
      simp only [SendPath.clientStep, Option.ite_none_right_eq_some,
        Option.some.injEq, Prod.mk.injEq] at moves
      obtain ⟨stands, rfl, rfl⟩ := moves
      have allowed := frames.calls call frame (by rw [stands]; rfl)
      refine ⟨{ frames with calls := frames.moveCall ?_ }, by simp⟩
      intro other found
      split at found <;> cases found <;> exact allowed
  | compareOutstanding call frame window =>
      simp only [SendPath.clientStep, Option.ite_none_right_eq_some,
        Option.some.injEq, Prod.mk.injEq] at moves
      obtain ⟨stands, rfl, rfl⟩ := moves
      have allowed := frames.calls call frame (by rw [stands]; rfl)
      refine ⟨{ frames with calls := frames.moveCall ?_ }, by simp⟩
      intro other found
      split at found <;> cases found <;> exact allowed
  | pushPending call frame =>
      simp only [SendPath.clientStep, Option.ite_none_right_eq_some,
        Option.some.injEq, Prod.mk.injEq] at moves
      obtain ⟨⟨stands, -⟩, rfl, rfl⟩ := moves
      have allowed := frames.calls call frame (by rw [stands]; rfl)
      exact ⟨{ frames with
        calls := frames.moveCall (by rintro _ ⟨⟩)
        pending := List.forall_mem_cons.mpr ⟨allowed, frames.pending⟩ }, by simp⟩
  | register call frame =>
      simp only [SendPath.clientStep, Option.ite_none_right_eq_some,
        Option.some.injEq, Prod.mk.injEq] at moves
      obtain ⟨stands, rfl, rfl⟩ := moves
      have allowed := frames.calls call frame (by rw [stands]; rfl)
      refine ⟨{ frames with
        calls := frames.moveCall ?_
        map := frames.insert allowed }, by simp⟩
      rintro other ⟨⟩
      exact allowed
  | registerFails call frame =>
      simp only [SendPath.clientStep, Option.ite_none_right_eq_some,
        Option.some.injEq, Prod.mk.injEq] at moves
      obtain ⟨-, rfl, rfl⟩ := moves
      exact ⟨{ frames with calls := frames.moveCall (by rintro _ ⟨⟩) }, by simp⟩
  | enqueue call frame =>
      simp only [SendPath.clientStep, Option.ite_none_right_eq_some,
        Option.some.injEq, Prod.mk.injEq] at moves
      obtain ⟨stands, rfl, rfl⟩ := moves
      have allowed := frames.calls call frame (by rw [stands]; rfl)
      exact ⟨{ frames with calls := frames.moveCall (by rintro _ ⟨⟩) },
        List.forall_mem_singleton.mpr allowed⟩
  | onSendReply reply =>
      simp only [SendPath.clientStep, Option.ite_none_right_eq_some] at moves
      obtain ⟨-, moves⟩ := moves
      split at moves
      · cases moves
        exact ⟨frames, by simp⟩
      · cases moves
        exact ⟨{ frames with receiver := by rintro _ ⟨⟩ }, by simp⟩
  | eraseAcked packetSequence =>
      simp only [SendPath.clientStep, Option.ite_none_right_eq_some,
        Option.some.injEq, Prod.mk.injEq] at moves
      obtain ⟨-, rfl, rfl⟩ := moves
      exact ⟨{ frames with
        map := fun info member =>
          frames.map info (List.mem_of_mem_filter member)
        receiver := by rintro _ ⟨⟩ }, by simp⟩
  | flushBegin =>
      simp only [SendPath.clientStep, Option.ite_none_right_eq_some,
        Option.some.injEq, Prod.mk.injEq] at moves
      obtain ⟨-, rfl, rfl⟩ := moves
      refine ⟨{ frames with receiver := fun frame found => ?_ }, by simp⟩
      simp only at found
      split at found <;> cases found
  | flushPop frame window =>
      simp only [SendPath.clientStep, Option.ite_none_right_eq_some,
        Option.some.injEq, Prod.mk.injEq] at moves
      obtain ⟨⟨-, -, popped, -⟩, rfl, rfl⟩ := moves
      refine ⟨{ frames with
        pending := fun other member =>
          frames.pending other (List.mem_of_mem_erase member)
        receiver := ?_ }, by simp⟩
      rintro other ⟨⟩
      exact frames.pending frame popped
  | flushRegister frame window =>
      simp only [SendPath.clientStep, Option.ite_none_right_eq_some,
        Option.some.injEq, Prod.mk.injEq] at moves
      obtain ⟨stands, rfl, rfl⟩ := moves
      have allowed := frames.receiver frame (by rw [stands]; rfl)
      refine ⟨{ frames with
        map := frames.insert allowed
        receiver := ?_ }, by simp⟩
      rintro other ⟨⟩
      exact allowed
  | flushRegisterFails frame window =>
      simp only [SendPath.clientStep, Option.ite_none_right_eq_some,
        Option.some.injEq, Prod.mk.injEq] at moves
      obtain ⟨-, rfl, rfl⟩ := moves
      exact ⟨{ frames with receiver := by rintro _ ⟨⟩ }, by simp⟩
  | flushEnqueue frame window =>
      simp only [SendPath.clientStep, Option.ite_none_right_eq_some,
        Option.some.injEq, Prod.mk.injEq] at moves
      obtain ⟨stands, rfl, rfl⟩ := moves
      have allowed := frames.receiver frame (by rw [stands]; rfl)
      exact ⟨{ frames with receiver := by rintro _ ⟨⟩ },
        List.forall_mem_singleton.mpr allowed⟩
  | flushEnd window =>
      simp only [SendPath.clientStep, Option.ite_none_right_eq_some,
        Option.some.injEq, Prod.mk.injEq] at moves
      obtain ⟨-, rfl, rfl⟩ := moves
      exact ⟨{ frames with receiver := by rintro _ ⟨⟩ }, by simp⟩
  | retransmitCount info =>
      simp only [SendPath.clientStep, Option.ite_none_right_eq_some] at moves
      obtain ⟨⟨-, -, present⟩, moves⟩ := moves
      have map : ∀ other ∈
          { info with
            retransmissionCount := info.retransmissionCount + 1 } ::
            client.sendPacketInfoMap.erase info, Property other.frame :=
        List.forall_mem_cons.mpr ⟨frames.map info present,
          fun other member => frames.map other (List.mem_of_mem_erase member)⟩
      split at moves
      · cases moves
        exact ⟨{ frames with map := map }, by simp⟩
      · cases moves
        refine ⟨{ frames with map := map, retransmission := ?_ }, by simp⟩
        rintro frame ⟨⟩
        exact frames.map info present
  | retransmitEnqueue frame =>
      simp only [SendPath.clientStep, Option.ite_none_right_eq_some,
        Option.some.injEq, Prod.mk.injEq] at moves
      obtain ⟨slot, rfl, rfl⟩ := moves
      exact ⟨{ frames with retransmission := by simp },
        List.forall_mem_singleton.mpr (frames.retransmission frame slot)⟩

end Frames

/-- A weaker property holds of the same packets. -/
theorem Frames.mono
    {Property Weaker : ClientFrame Payload → Prop} {client : Client Payload}
    (frames : Frames Property client)
    (weakens : ∀ frame, Property frame → Weaker frame) :
    Frames Weaker client where
  map info member := weakens _ (frames.map info member)
  retransmission frame slot := weakens _ (frames.retransmission frame slot)
  pending frame member := weakens _ (frames.pending frame member)
  calls call frame found := weakens _ (frames.calls call frame found)
  receiver frame found := weakens _ (frames.receiver frame found)

/-- The last sequence after a step. -/
def ClientLabel.sequenceAfter
    (client : Client Payload) : ClientLabel Payload → PacketSequence
  | .allocate _ _ => client.lastSendPacketSequence + 1
  | _ => client.lastSendPacketSequence

/-- The remote window after a step. -/
def ClientLabel.windowAfter
    (client : Client Payload) : ClientLabel Payload → Byte
  | .onSendReply reply =>
      if client.lastSendPacketSequence < reply.packetSequence then
        client.remoteAdvertisedWindow
      else reply.advertiseWindow
  | _ => client.remoteAdvertisedWindow

/-- What a step does to the last sequence and to the remote window. -/
theorem clientStep_registers
    [DecidableEq Payload]
    {maximum : Nat} {label : ClientLabel Payload}
    {client next : Client Payload} {enqueued : List (ClientFrame Payload)}
    (moves : clientStep maximum client label = some (next, enqueued)) :
    next.lastSendPacketSequence = label.sequenceAfter client ∧
      next.remoteAdvertisedWindow = label.windowAfter client := by
  cases label with
  | onSendReply reply =>
      simp only [clientStep, Option.ite_none_right_eq_some] at moves
      obtain ⟨-, moves⟩ := moves
      simp only [ClientLabel.sequenceAfter, ClientLabel.windowAfter]
      split at moves
      case isTrue ahead =>
        cases moves
        exact ⟨rfl, (if_pos ahead).symm⟩
      case isFalse known =>
        cases moves
        exact ⟨rfl, (if_neg known).symm⟩
  | retransmitCount info =>
      simp only [clientStep, Option.ite_none_right_eq_some] at moves
      obtain ⟨-, moves⟩ := moves
      split at moves <;> cases moves <;> exact ⟨rfl, rfl⟩
  | allocate | loadWindow | compareOutstanding | pushPending | register
  | registerFails | enqueue | eraseAcked | flushBegin | flushPop
  | flushRegister | flushRegisterFails | flushEnqueue | flushEnd
  | retransmitEnqueue =>
      simp only [clientStep, Option.ite_none_right_eq_some,
        Option.some.injEq, Prod.mk.injEq] at moves
      obtain ⟨-, rfl, -⟩ := moves
      exact ⟨rfl, rfl⟩

/-- Only the retransmission thread takes a packet for retransmission. -/
theorem clientStep_retransmission
    [DecidableEq Payload]
    {maximum : Nat} {label : ClientLabel Payload}
    {client next : Client Payload} {enqueued : List (ClientFrame Payload)}
    (moves : clientStep maximum client label = some (next, enqueued))
    (uncounted : ∀ info, label ≠ .retransmitCount info)
    (idle : client.retransmission = none) :
    next.retransmission = none := by
  cases label with
  | onSendReply reply =>
      simp only [clientStep, Option.ite_none_right_eq_some] at moves
      obtain ⟨-, moves⟩ := moves
      split at moves <;> cases moves <;> exact idle
  | retransmitCount info => exact absurd rfl (uncounted info)
  | retransmitEnqueue frame =>
      simp only [clientStep, Option.ite_none_right_eq_some,
        Option.some.injEq, Prod.mk.injEq] at moves
      obtain ⟨-, rfl, -⟩ := moves
      rfl
  | allocate | loadWindow | compareOutstanding | pushPending | register
  | registerFails | enqueue | eraseAcked | flushBegin | flushPop
  | flushRegister | flushRegisterFails | flushEnqueue | flushEnd =>
      simp only [clientStep, Option.ite_none_right_eq_some,
        Option.some.injEq, Prod.mk.injEq] at moves
      obtain ⟨-, rfl, -⟩ := moves
      exact idle

end SendPath

namespace HoldingQueue

variable {Payload : Type}

/-- `GetReceivedPacket` returns a packet of the queue and leaves others. -/
theorem getReceivedPacket_subset
    (queue : List (RecvPacketInfo Payload)) (next : PacketSequence) :
    (∀ info ∈ (getReceivedPacket queue next).1, info ∈ queue) ∧
      ∀ info ∈ (getReceivedPacket queue next).2.1, info ∈ queue := by
  fun_induction getReceivedPacket queue next with
  | case1 next => exact ⟨by simp, by simp⟩
  | case2 next top rest outdated inductionHypothesis =>
      exact inductionHypothesis.imp
        (fun returned info member => List.mem_cons_of_mem _ (returned info member))
        (fun left info member => List.mem_cons_of_mem _ (left info member))
  | case3 next top rest current ahead => exact ⟨by simp, fun _ member => member⟩
  | case4 next top rest current expected heartbeat inductionHypothesis =>
      exact inductionHypothesis.imp
        (fun returned info member => List.mem_cons_of_mem _ (returned info member))
        (fun left info member => List.mem_cons_of_mem _ (left info member))
  | case5 next top rest current expected data =>
      refine ⟨?_, fun _ member => List.mem_cons_of_mem _ member⟩
      rintro info ⟨⟩
      exact List.mem_cons_self

end HoldingQueue

/-! ## The invariant -/

namespace ClientLifecycle

open ReceivePath SendPath HoldingQueue TransitionSystems

variable {Payload : Type}

/-- A data packet belongs to the session. -/
def OfSession (session : Nat) : ClientFrame (Tagged Payload) → Prop
  | .connect _ _ => True
  | .send frame => frame.payload.session = session

/-- The packet is a CONNECT packet. -/
def IsConnect : ClientFrame (Tagged Payload) → Prop
  | .connect _ _ => True
  | .send _ => False

/-- The packet is a data packet. -/
def IsSend : ClientFrame (Tagged Payload) → Prop
  | .connect _ _ => False
  | .send _ => True

/-- What is known of a client by what has happened to it and by where its threads
stand. -/
structure Kept (core : ClientCore Payload) : Prop where
  tags : Frames (OfSession core.session) core.client
  held : ∀ info ∈ core.recvPacketHoldingQueue,
    info.buffer.session = core.session
  queued : ∀ buffer ∈ core.sendBufferQueue, buffer.session = core.session
  unsent : .allocated ∉ core.history →
    core.client.lastSendPacketSequence = 0 ∧ Frames IsConnect core.client
  unheld : .held ∉ core.history →
    core.nextRecvPacketSequence = 1 ∧ core.recvPacketHoldingQueue = []
  window : core.client.remoteAdvertisedWindow = lastWindow core.history
  flushed : .stranded ∉ core.history → core.sendThread = .ended →
    core.sendBufferQueue = []
  later : ∀ session, core.session < session →
    core.firstSequence session = none
  first : core.firstSequence core.session = none →
    core.client.lastSendPacketSequence = 0
  restarts : RestartsFresh core
  starting : core.starter ≠ .outside →
    core.isStopped = true ∧ core.stopper = .outside
  ended : core.stopper = .joined ∨ core.stopper = .cleared ∨
      core.isAtRest = true →
    core.sendThread = .ended ∧ core.recvThread = false ∧
      core.retransmissionThread = false
  emptied : core.stopper = .cleared ∨ core.isAtRest = true →
    Frames IsSend core.client
  idle : core.retransmissionThread = false →
    core.client.retransmission = none

theorem isAtRest_iff {core : ClientCore Payload} :
    core.isAtRest = true ↔
      core.isStopped = true ∧ core.starter = .outside ∧
        core.stopper = .outside := by
  simp [ClientCore.isAtRest, and_assoc]

theorem kept_constructed : Kept (constructed : ClientCore Payload) where
  tags := ⟨nofun, nofun, nofun, nofun, nofun⟩
  held := nofun
  queued := nofun
  unsent _ := ⟨rfl, nofun, nofun, nofun, nofun, nofun⟩
  unheld _ := ⟨rfl, rfl⟩
  window := rfl
  flushed _ _ := rfl
  later _ _ := rfl
  first _ := rfl
  restarts := ⟨nofun, nofun, nofun, nofun⟩
  starting starts := absurd rfl starts
  ended _ := ⟨rfl, rfl, rfl⟩
  emptied _ := ⟨nofun, nofun, nofun, nofun, nofun⟩
  idle _ := rfl

namespace Kept

variable {core next : ClientCore Payload}

/-- A packet of the session is enqueued. -/
theorem enqueue
    (kept : Kept core)
    (packet : Packet Payload) :
    Kept (core.enqueue core.session packet) := by
  have history : ∀ event, event ≠ .stranded →
      event ∉ (core.enqueue core.session packet).history →
      event ∉ core.history := by
    intro event distinct absent present
    refine absent ?_
    unfold ClientCore.enqueue
    split
    · exact List.mem_cons_of_mem _ present
    · exact present
  exact
    { kept with
      queued := by
        intro buffer member
        obtain before | last := List.mem_append.mp member
        · exact kept.queued buffer before
        · rw [List.mem_singleton.mp last]
          rfl
      unsent := fun absent => kept.unsent (history _ nofun absent)
      unheld := fun absent => kept.unheld (history _ nofun absent)
      window := by
        refine kept.window.trans ?_
        unfold ClientCore.enqueue
        split <;> rfl
      flushed := by
        intro absent ended
        unfold ClientCore.enqueue at absent ended
        rw [if_pos ended] at absent
        exact absurd List.mem_cons_self absent
      restarts := { kept.restarts with } }

/-- Packets of the send path are enqueued. -/
theorem enqueueAll
    (frames : List (ClientFrame (Tagged Payload)))
    (kept : Kept core)
    (mine : ∀ frame ∈ frames, OfSession core.session frame) :
    Kept (core.enqueueAll frames) := by
  induction frames generalizing core with
  | nil => exact kept
  | cons frame frames inductionHypothesis =>
      obtain ⟨first, rest⟩ := List.forall_mem_cons.mp mine
      have same : core.sessionOf frame = core.session := by
        cases frame with
        | connect => rfl
        | send => exact first
      change Kept ((core.enqueue (core.sessionOf frame)
        (.frame frame)).enqueueAll frames)
      rw [same]
      exact inductionHypothesis (kept.enqueue (.frame frame)) rest

/-- The client moves in a way that the records need not say anything about. -/
theorem moveClient
    {client : Client (Tagged Payload)}
    (kept : Kept core)
    (tags : Frames (OfSession core.session) client)
    (unsent : Frames IsConnect core.client → Frames IsConnect client)
    (emptied : Frames IsSend core.client → Frames IsSend client)
    (sequence : client.lastSendPacketSequence =
      core.client.lastSendPacketSequence)
    (window : client.remoteAdvertisedWindow =
      core.client.remoteAdvertisedWindow)
    (idle : core.retransmissionThread = false →
      client.retransmission = none) :
    Kept { core with client } :=
  { kept with
    tags
    unsent := fun absent =>
      (kept.unsent absent).imp sequence.trans unsent
    window := window.trans kept.window
    first := fun fresh => sequence.trans (kept.first fresh)
    restarts := { kept.restarts with }
    emptied := fun stands => emptied (kept.emptied stands)
    idle }

/-- A sequence is allocated. -/
theorem allocate
    {client : Client (Tagged Payload)}
    (kept : Kept core)
    (tags : Frames (OfSession core.session) client)
    (emptied : Frames IsSend core.client → Frames IsSend client)
    (window : client.remoteAdvertisedWindow =
      core.client.remoteAdvertisedWindow)
    (idle : core.retransmissionThread = false →
      client.retransmission = none) :
    Kept { core.noteSequence (core.client.lastSendPacketSequence + 1) with
      client } :=
  { kept with
    tags
    unsent := fun absent => absurd List.mem_cons_self absent
    unheld := fun absent => kept.unheld fun present =>
      absent (List.mem_cons_of_mem _ present)
    window := window.trans kept.window
    flushed := fun absent => kept.flushed fun present =>
      absent (List.mem_cons_of_mem _ present)
    later := by
      intro session beyond
      refine (Function.update_of_ne ?_ _ _).trans (kept.later session beyond)
      exact Nat.ne_of_gt beyond
    first := by
      intro fresh
      change Function.update core.firstSequence core.session _ core.session =
        none at fresh
      rw [Function.update_self] at fresh
      cases fresh
    restarts :=
      { kept.restarts with
        first := by
          intro session packetSequence found
          change Function.update core.firstSequence core.session _ session =
            some packetSequence at found
          by_cases same : session = core.session
          · subst same
            rw [Function.update_self] at found
            cases before : core.firstSequence core.session with
            | none =>
                rw [before, kept.first before] at found
                exact (Option.some.inj found).symm
            | some sequence =>
                rw [before] at found
                cases found
                exact kept.restarts.first core.session sequence before
          · rw [Function.update_of_ne same] at found
            exact kept.restarts.first session packetSequence found }
    emptied := fun stands => emptied (kept.emptied stands)
    idle }

/-- A step of the send path. -/
theorem sendStep
    [DecidableEq Payload]
    {maximum : Nat} {label : ClientLabel (Tagged Payload)}
    (kept : Kept core)
    (moves : core.sendStep maximum label = some next) :
    Kept next := by
  simp only [ClientCore.sendStep, Option.ite_none_right_eq_some,
    Option.map_eq_some_iff, Prod.exists] at moves
  obtain ⟨allowed, client, frames, moved, rfl⟩ := moves
  obtain ⟨tags, mine⟩ := kept.tags.clientStep (by
    rintro call payload rfl
    have mine : payload.session = core.session := of_decide_eq_true allowed
    exact mine) moved
  obtain ⟨sequence, window⟩ := clientStep_registers moved
  have emptied : Frames IsSend core.client → Frames IsSend client :=
    fun data => (data.clientStep (fun _ _ _ => trivial) moved).1
  have idle : core.retransmissionThread = false →
      client.retransmission = none := by
    intro ended
    refine clientStep_retransmission moved ?_ (kept.idle ended)
    rintro info rfl
    rw [ClientCore.mayTake, ended] at allowed
    cases allowed
  have inner : Kept { core.note label with client } := by
    cases label with
    | allocate call payload => exact kept.allocate tags emptied window idle
    | onSendReply reply =>
        have unsent : Frames IsConnect core.client →
            Frames IsConnect client :=
          fun connects =>
            (connects.clientStep (by rintro _ _ ⟨⟩) moved).1
        simp only [ClientLabel.windowAfter] at window
        split at window
        case isTrue ahead =>
          have noted : core.note (.onSendReply reply) = core := if_pos ahead
          rw [noted]
          exact kept.moveClient tags unsent emptied sequence window idle
        case isFalse known =>
          have noted : core.note (.onSendReply reply) =
              { core with
                history :=
                  .windowStored reply.advertiseWindow :: core.history } :=
            if_neg known
          rw [noted]
          exact
            { kept with
              tags
              unsent := fun absent => (kept.unsent fun present =>
                absent (List.mem_cons_of_mem _ present)).imp
                  sequence.trans unsent
              unheld := fun absent => kept.unheld fun present =>
                absent (List.mem_cons_of_mem _ present)
              window
              flushed := fun absent => kept.flushed fun present =>
                absent (List.mem_cons_of_mem _ present)
              first := fun fresh => sequence.trans (kept.first fresh)
              restarts := { kept.restarts with }
              emptied := fun stands => emptied (kept.emptied stands)
              idle }
    | loadWindow | compareOutstanding | pushPending | register
    | registerFails | enqueue | eraseAcked | flushBegin | flushPop
    | flushRegister | flushRegisterFails | flushEnqueue | flushEnd
    | retransmitCount | retransmitEnqueue =>
        exact kept.moveClient tags
          (fun connects => (connects.clientStep (by rintro _ _ ⟨⟩) moved).1)
          emptied sequence window idle
  have session : (core.note label).session = core.session := by
    cases label with
    | onSendReply reply =>
        simp only [ClientCore.note]
        split <;> rfl
    | _ => rfl
  refine inner.enqueueAll frames fun frame member => ?_
  change OfSession (core.note label).session frame
  rw [session]
  exact mine frame member

/-- The protocol state of an unused client at rest is that of a new one. -/
theorem protocol_eq
    (kept : Kept core)
    (rest : core.isAtRest = true)
    (unused : Unused core.history) :
    core.protocol = .constructed := by
  obtain ⟨unallocated, unheld, unstranded, window⟩ := unused
  obtain ⟨sequence, connects⟩ := kept.unsent unallocated
  obtain ⟨next, held⟩ := kept.unheld unheld
  have data := kept.emptied (.inr rest)
  have queue := kept.flushed unstranded (kept.ended (.inr (.inr rest))).1
  have map : core.client.sendPacketInfoMap = [] := by
    refine List.eq_nil_iff_forall_not_mem.mpr fun info member => ?_
    have connect := connects.map info member
    have send := data.map info member
    cases frame : info.frame with
    | connect => rw [frame] at send; exact send
    | send => rw [frame] at connect; exact connect
  have pending : core.client.pendingPacketQueue = [] :=
    List.eq_nil_iff_forall_not_mem.mpr connects.pending
  simp only [ClientCore.protocol, Protocol.constructed, sequence, next, held,
    kept.window, window, queue, map, pending]

/-- An unused client is started. -/
theorem start
    (kept : Kept core)
    (rest : core.isAtRest = true)
    (unused : Unused core.history)
    (sessionId : SessionIdType) :
    Kept (core.start sessionId) := by
  have fresh := kept.protocol_eq rest unused
  obtain ⟨sequence, connects⟩ := kept.unsent unused.1
  have held := (kept.unheld unused.2.1).2
  obtain ⟨-, -, stopper⟩ := isAtRest_iff.mp rest
  have queue := kept.flushed unused.2.2.1 (kept.ended (.inr (.inr rest))).1
  have session : Frames (OfSession (core.session + 1)) core.client := by
    refine connects.mono fun frame connect => ?_
    cases frame with
    | connect => trivial
    | send => cases connect
  have working : ¬ (core.start sessionId).isAtRest = true := by
    simp [isAtRest_iff, ClientCore.start]
  have stopped : (core.start sessionId).stopper = .outside := stopper
  exact
    { tags := { session with }
      held := by
        intro info member
        change info ∈ core.recvPacketHoldingQueue at member
        rw [held] at member
        cases member
      queued := by
        intro buffer member
        change buffer ∈ core.sendBufferQueue at member
        rw [queue] at member
        cases member
      unsent := fun _ => ⟨sequence, { connects with }⟩
      unheld := kept.unheld
      window := kept.window
      flushed := nofun
      later := fun session beyond => kept.later session (by
        change core.session + 1 < session at beyond
        omega)
      first := fun _ => sequence
      restarts :=
        { kept.restarts with
          launches :=
            List.forall_mem_cons.mpr ⟨fresh, kept.restarts.launches⟩ }
      starting := fun _ => ⟨(isAtRest_iff.mp rest).1, stopper⟩
      ended := by
        rw [stopped]
        rintro (joined | cleared | atRest)
        · cases joined
        · cases cleared
        · exact absurd atRest working
      emptied := by
        rw [stopped]
        rintro (cleared | atRest)
        · cases cleared
        · exact absurd atRest working
      idle := nofun }

/-- `Stop` begins. -/
theorem stop
    (kept : Kept core)
    (running : core.isStopped = false) :
    Kept core.stop := by
  have working : ¬ core.stop.isAtRest = true := by
    simp [isAtRest_iff, ClientCore.stop]
  exact
    { kept with
      tags := { kept.tags with }
      unsent := fun absent =>
        (kept.unsent absent).imp_right fun connects => { connects with }
      restarts := { kept.restarts with }
      starting := fun starts =>
        nomatch running.symm.trans (kept.starting starts).1
      ended := by
        rintro (joined | cleared | atRest)
        · cases joined
        · cases cleared
        · exact absurd atRest working
      emptied := by
        rintro (cleared | atRest)
        · cases cleared
        · exact absurd atRest working }

/-- The client receives a packet of its session. -/
theorem receive
    {info : RecvPacketInfo (Tagged Payload)} {replies : Bool}
    (kept : Kept core)
    (moves : core.receive info replies = some next) :
    Kept next := by
  simp only [ClientCore.receive, Option.ite_none_right_eq_some,
    Option.some.injEq] at moves
  obtain ⟨⟨-, -, -, mine⟩, rfl⟩ := moves
  exact
    { kept with
      held := by
        intro other member
        obtain rfl | before := (List.mem_orderedInsert _).mp member
        · exact mine
        · exact kept.held other before
      unsent := fun absent => kept.unsent fun present =>
        absent (List.mem_cons_of_mem _ present)
      unheld := fun absent => absurd List.mem_cons_self absent
      flushed := fun absent => kept.flushed fun present =>
        absent (List.mem_cons_of_mem _ present)
      restarts := { kept.restarts with } }

/-- The receive thread enqueues a reply. -/
theorem reply
    (kept : Kept core)
    (moves : core.reply = some next) :
    Kept next := by
  simp only [ClientCore.reply, Option.map_eq_some_iff, Prod.exists] at moves
  obtain ⟨packetSequence, packetType, -, rfl⟩ := moves
  have done : Kept { core with replying := none } :=
    { kept with restarts := { kept.restarts with } }
  exact done.enqueue (.reply packetSequence packetType)

/-- A packet is taken out of the receive queue. -/
theorem getReceivedPacket (kept : Kept core) :
    Kept core.getReceivedPacket := by
  obtain ⟨returned, left⟩ := getReceivedPacket_subset
    core.recvPacketHoldingQueue core.nextRecvPacketSequence
  exact
    { kept with
      held := fun info member => kept.held info (left info member)
      unheld := by
        intro absent
        obtain ⟨next, empty⟩ := kept.unheld absent
        unfold ClientCore.getReceivedPacket
        simp only [empty, HoldingQueue.getReceivedPacket, next, and_self]
      restarts :=
        { kept.restarts with
          delivered := by
            intro entry member
            unfold ClientCore.getReceivedPacket at member
            dsimp only at member
            split at member
            case h_1 info found =>
              obtain rfl | before := List.mem_cons.mp member
              · exact kept.held info (returned info found)
              · exact kept.restarts.delivered entry before
            case h_2 => exact kept.restarts.delivered entry member } }

/-- `Disconnect`. -/
theorem disconnect
    (kept : Kept core)
    (moves : core.disconnect = some next) :
    Kept next := by
  simp only [ClientCore.disconnect, Option.ite_none_right_eq_some,
    Option.some.injEq] at moves
  obtain ⟨-, rfl⟩ := moves
  have allocated : Kept
      { core.noteSequence (core.client.lastSendPacketSequence + 1) with
        client :=
          { core.client with
            lastSendPacketSequence := core.client.lastSendPacketSequence + 1
            isConnected := false } } :=
    kept.allocate { kept.tags with } (fun data => { data with }) rfl kept.idle
  split
  · exact allocated.enqueue _
  · exact allocated

/-- The send thread takes a packet, or leaves `DoSend`. -/
theorem doSend
    (kept : Kept core)
    (moves : core.doSend = some next) :
    Kept next := by
  unfold ClientCore.doSend at moves
  split at moves
  case h_1 last sending empty =>
    cases moves
    have busy : core.sendThread ≠ .ended := by simp [sending]
    exact
      { kept with
        flushed := fun _ _ => empty
        restarts := { kept.restarts with }
        ended := fun stands => absurd (kept.ended stands).1 busy }
  case h_2 last packet rest sending queue =>
    simp only [Option.some.injEq] at moves
    have busy : core.sendThread ≠ .ended := by simp [sending]
    have queued := kept.queued
    rw [queue, List.forall_mem_cons] at queued
    split at moves
    case isTrue isOpen =>
      subst moves
      exact
        { kept with
          queued := queued.2
          flushed := fun _ ended => absurd ended busy
          restarts :=
            { kept.restarts with
              transmitted := List.forall_mem_cons.mpr
                ⟨queued.1, kept.restarts.transmitted⟩ } }
    case isFalse closed =>
      subst moves
      by_cases stranded : last = true ∧ rest ≠ []
      · rw [if_pos stranded]
        exact
          { kept with
            queued := queued.2
            unsent := fun absent => kept.unsent fun present =>
              absent (List.mem_cons_of_mem _ present)
            unheld := fun absent => kept.unheld fun present =>
              absent (List.mem_cons_of_mem _ present)
            flushed := fun absent => absurd List.mem_cons_self absent
            restarts := { kept.restarts with }
            ended := fun stands => absurd (kept.ended stands).1 busy }
      · rw [if_neg stranded]
        exact
          { kept with
            queued := queued.2
            flushed := by
              intro _ ended
              cases last with
              | false => cases ended
              | true =>
                  by_contra left
                  exact stranded ⟨rfl, left⟩
            restarts := { kept.restarts with }
            ended := fun stands => absurd (kept.ended stands).1 busy }
  case h_3 => cases moves
  case h_4 => cases moves

/-- Every step that meets the condition keeps what is known of a client. -/
theorem step
    [DecidableEq Payload]
    {maximum : Nat} {label : Label Payload}
    (kept : Kept core)
    (guard : StartsUnused core label)
    (moves : ClientLifecycle.step maximum core label = some next) :
    Kept next := by
  cases label with
  | start sessionId =>
      simp only [ClientLifecycle.step, Option.ite_none_right_eq_some,
        Option.some.injEq] at moves
      obtain ⟨rest, rfl⟩ := moves
      exact kept.start rest (guard rfl) sessionId
  | startFails =>
      simp only [ClientLifecycle.step, Option.ite_none_right_eq_some,
        Option.some.injEq] at moves
      obtain ⟨-, rfl⟩ := moves
      exact kept.moveClient { kept.tags with }
        (fun connects => { connects with }) (fun data => { data with })
        rfl rfl kept.idle
  | connectRegister =>
      simp only [ClientLifecycle.step, Option.ite_none_right_eq_some,
        Option.some.injEq] at moves
      obtain ⟨launched, rfl⟩ := moves
      have starts : core.starter ≠ .outside := by simp [launched]
      obtain ⟨stopped, stopper⟩ := kept.starting starts
      exact
        { kept with
          tags := { kept.tags with map := kept.tags.insert trivial }
          unsent := fun absent => (kept.unsent absent).imp_right
            fun connects => { connects with map := connects.insert trivial }
          restarts := { kept.restarts with }
          starting := fun _ => ⟨stopped, stopper⟩
          ended := by
            simp [stopper, isAtRest_iff]
          emptied := by
            simp [stopper, isAtRest_iff] }
  | connectEnqueue =>
      simp only [ClientLifecycle.step, Option.ite_none_right_eq_some,
        Option.some.injEq] at moves
      obtain ⟨registered, rfl⟩ := moves
      have starts : core.starter ≠ .outside := by simp [registered]
      obtain ⟨stopped, stopper⟩ := kept.starting starts
      have enqueued : Kept { core with starter := .enqueued } :=
        { kept with
          restarts := { kept.restarts with }
          starting := fun _ => ⟨stopped, stopper⟩
          ended := by simp [stopper, isAtRest_iff]
          emptied := by simp [stopper, isAtRest_iff] }
      exact enqueued.enqueue _
  | startReturns =>
      simp only [ClientLifecycle.step, Option.ite_none_right_eq_some,
        Option.some.injEq] at moves
      obtain ⟨returns, rfl⟩ := moves
      have starts : core.starter ≠ .outside := by
        rintro outside
        simp [outside] at returns
      obtain ⟨stopped, stopper⟩ := kept.starting starts
      exact
        { kept with
          restarts := { kept.restarts with }
          starting := fun still => absurd rfl still
          ended := by simp [stopper, isAtRest_iff]
          emptied := by simp [stopper, isAtRest_iff] }
  | stop =>
      simp only [ClientLifecycle.step, Option.ite_none_right_eq_some,
        Option.some.injEq] at moves
      obtain ⟨running, rfl⟩ := moves
      exact kept.stop running
  | join =>
      simp only [ClientLifecycle.step, Option.ite_none_right_eq_some,
        Option.some.injEq] at moves
      obtain ⟨⟨joining, retransmission, send, recv⟩, rfl⟩ := moves
      exact
        { kept with
          restarts := { kept.restarts with }
          starting := fun starts => by cases joining.symm.trans (kept.starting starts).2
          ended := fun _ => ⟨send, recv, retransmission⟩
          emptied := by simp [isAtRest_iff] }
  | clearMap =>
      simp only [ClientLifecycle.step, Option.ite_none_right_eq_some,
        Option.some.injEq] at moves
      obtain ⟨joined, rfl⟩ := moves
      have ended := kept.ended (.inl joined)
      have idle := kept.idle ended.2.2
      exact
        { kept with
          tags := { kept.tags with map := by simp }
          unsent := fun absent => (kept.unsent absent).imp_right
            fun connects => { connects with map := by simp }
          restarts := { kept.restarts with }
          starting := fun starts => by cases joined.symm.trans (kept.starting starts).2
          ended := fun _ => ended
          emptied := fun _ =>
            { map := by simp
              retransmission := fun _ slot => by cases idle.symm.trans slot
              pending := fun _ _ => trivial
              calls := fun _ _ _ => trivial
              receiver := fun _ _ => trivial } }
  | clearPending =>
      simp only [ClientLifecycle.step, Option.ite_none_right_eq_some,
        Option.some.injEq] at moves
      obtain ⟨⟨cleared, -⟩, rfl⟩ := moves
      have ended := kept.ended (.inr (.inl cleared))
      have data := kept.emptied (.inl cleared)
      exact
        { kept with
          tags := { kept.tags with pending := by simp }
          unsent := fun absent => (kept.unsent absent).imp_right
            fun connects => { connects with pending := by simp }
          restarts := { kept.restarts with }
          starting := fun starts => by cases cleared.symm.trans (kept.starting starts).2
          ended := fun _ => ended
          emptied := fun _ => { data with pending := by simp } }
  | send label => exact kept.sendStep moves
  | receive info replies => exact kept.receive moves
  | reply => exact kept.reply moves
  | getReceivedPacket =>
      cases moves
      exact kept.getReceivedPacket
  | disconnect => exact kept.disconnect moves
  | wake =>
      simp only [ClientLifecycle.step] at moves
      split at moves
      case h_1 count waiting events =>
        cases moves
        exact
          { kept with
            flushed := by simp
            restarts := { kept.restarts with }
            ended := fun stands => by cases waiting.symm.trans (kept.ended stands).1 }
      case h_2 => cases moves
  | wakeToStop =>
      simp only [ClientLifecycle.step, Option.ite_none_right_eq_some,
        Option.some.injEq] at moves
      obtain ⟨⟨waiting, -⟩, rfl⟩ := moves
      exact
        { kept with
          flushed := by simp
          restarts := { kept.restarts with }
          ended := fun stands => by cases waiting.symm.trans (kept.ended stands).1 }
  | doSend => exact kept.doSend moves
  | recvEnds =>
      simp only [ClientLifecycle.step, Option.ite_none_right_eq_some,
        Option.some.injEq] at moves
      obtain ⟨-, rfl⟩ := moves
      exact
        { kept with
          restarts := { kept.restarts with }
          ended := fun stands =>
            (kept.ended stands).imp_right fun both => ⟨rfl, both.2⟩ }
  | retransmissionEnds =>
      simp only [ClientLifecycle.step, Option.ite_none_right_eq_some,
        Option.some.injEq] at moves
      obtain ⟨⟨-, -, idle⟩, rfl⟩ := moves
      exact
        { kept with
          restarts := { kept.restarts with }
          ended := fun stands =>
            (kept.ended stands).imp_right fun both => ⟨both.1, rfl⟩
          idle := fun _ => Option.isNone_iff_eq_none.mp idle }

end Kept

/-- What is known of a client in every run that starts it unused. -/
theorem kept_of_startsUnused
    [DecidableEq Payload]
    (maximum : Nat) {core : ClientCore Payload}
    (reachable : (system maximum).GuardedReachable StartsUnused core) :
    Kept core :=
  reachable.invariant (fun _ begins => begins ▸ kept_constructed)
    fun _ _ _ _ kept guard moves => kept.step guard moves

/-- When a client is started only while it has not been used since its
construction, every start finds the protocol state of a new client, every session
begins with sequence 1, and no packet of another session is delivered or
transmitted. -/
theorem restartsFresh_of_startsUnused
    [DecidableEq Payload]
    (maximum : Nat) (core : ClientCore Payload)
    (reachable : (system maximum).GuardedReachable StartsUnused core) :
    RestartsFresh core :=
  (kept_of_startsUnused maximum reachable).restarts

/-! ## A client that is restarted unused -/

/-- A client connects and is stopped again. -/
def unusedSchedule : List (Label Nat) :=
  [.start 7, .connectRegister, .connectEnqueue, .wake, .doSend, .doSend,
    .send (.onSendReply ⟨0, 1⟩), .send (.eraseAcked 0), .send .flushBegin,
    .send (.flushEnd 1), .startReturns,
    .stop, .retransmissionEnds, .wakeToStop, .doSend, .recvEnds, .join,
    .clearMap, .clearPending]

/-- The client after that and a second start. -/
def restartedUnused : ClientCore Nat :=
  ((system 3).run constructed (unusedSchedule ++ [.start 8])).getD constructed

/-- Both starts found a new client. -/
theorem restartsFresh_restartedUnused :
    restartedUnused.launches.length = 2 ∧ RestartsFresh restartedUnused := by
  have run_restarted : (system 3).guardedRun StartsUnused constructed
      (unusedSchedule ++ [.start 8]) = some restartedUnused := rfl
  exact ⟨rfl, restartsFresh_of_startsUnused 3 restartedUnused
    (.guardedRun (.initial rfl) run_restarted)⟩

/-! ## A client that is restarted after use -/

/-- A client sends one packet, receives one, and is stopped. -/
def usedSchedule : List (Label Nat) :=
  [.start 7, .connectRegister, .connectEnqueue, .wake, .doSend, .doSend,
    .send (.onSendReply ⟨0, 8⟩), .send (.eraseAcked 0), .send .flushBegin,
    .send (.flushEnd 8), .startReturns,
    .send (.allocate 0 ⟨1, 10⟩), .send (.loadWindow 0 ⟨1, ⟨1, 10⟩⟩),
    .send (.compareOutstanding 0 ⟨1, ⟨1, 10⟩⟩ 8),
    .send (.register 0 ⟨1, ⟨1, 10⟩⟩), .send (.enqueue 0 ⟨1, ⟨1, 10⟩⟩),
    .wake, .doSend, .doSend,
    .receive ⟨⟨1, 20⟩, 1, .sendType⟩ false, .getReceivedPacket,
    .stop, .retransmissionEnds, .wakeToStop, .doSend, .recvEnds, .join,
    .clearMap, .clearPending]

/-- The client after that and a second start. -/
def restartedUsed : ClientCore Nat :=
  ((system 3).run constructed (usedSchedule ++ [.start 8])).getD constructed

set_option maxRecDepth 4000 in
/-- The second start finds the sequences and the window of the first session. -/
theorem restartedUsed_reachable :
    (system 3).Reachable restartedUsed ∧
      restartedUsed.launches = [⟨1, 2, 8, [], [], [], []⟩, .constructed] ∧
      ¬ RestartsFresh restartedUsed := by
  have run_restarted : (system 3).run constructed
      (usedSchedule ++ [.start 8]) = some restartedUsed := rfl
  have launches : restartedUsed.launches =
      [⟨1, 2, 8, [], [], [], []⟩, .constructed] := rfl
  refine ⟨.run (.initial rfl) run_restarted, launches, fun fresh => ?_⟩
  have second := fresh.launches ⟨1, 2, 8, [], [], [], []⟩
    (launches ▸ List.mem_cons_self)
  exact absurd (congrArg Protocol.lastSendPacketSequence second) (by decide)

end ClientLifecycle
end MultiSocketRudp
