import MultiSocketRudp.Client.SendPath
import MultiSocketRudp.Lib.TransitionSystem

/-!
# Packets that the client holds back

`SendPacket` puts a packet into the pending queue when the window is full, and
the receive thread flushes the queue after an acknowledgement.  The window is
tested before the queue is looked at, and the pending lock is taken only after
the test.

So a call may register its packet although an earlier one is waiting, and a
packet may be queued when the acknowledgement that would have flushed it has
been processed already.  Without these two the client sends in order and does
not stall.
-/

namespace MultiSocketRudp
namespace SendPath

open ReceivePath TransitionSystems

variable {Payload : Type}

/-! ## What waits and what is registered -/

/-- The packet of a call that is not yet registered. -/
def ClientCall.waiting : ClientCall Payload → Option (DataFrame Payload)
  | .allocated frame | .windowLoaded frame _ | .toPending frame
  | .registering frame => some frame
  | .idle | .registered _ => none

/-- The packet that a call is about to register. -/
def ClientCall.registers : ClientCall Payload → Option (DataFrame Payload)
  | .registering frame => some frame
  | _ => none

/-- The packet that the flush is about to register. -/
def Receiver.registers : Receiver Payload → Option (DataFrame Payload)
  | .flushRegistering frame _ => some frame
  | _ => none

/-- The packet that a step puts into `sendPacketInfoMap`. -/
def ClientLabel.registered : ClientLabel Payload → Option (DataFrame Payload)
  | .register _ frame | .flushRegister frame _ => some frame
  | _ => none

namespace Client

/-- The packet is inside a call and not yet registered. -/
def WaitsInCall (client : Client Payload) (frame : DataFrame Payload) : Prop :=
  ∃ call, (client.calls call).waiting = some frame

/-- The packet is waiting to be registered. -/
def Waits (client : Client Payload) (frame : DataFrame Payload) : Prop :=
  frame ∈ client.pendingPacketQueue ∨ client.WaitsInCall frame ∨
    client.receiver.registers = some frame

/-- Some thread is about to register the packet. -/
def Registers (client : Client Payload) (frame : DataFrame Payload) : Prop :=
  (∃ call, (client.calls call).registers = some frame) ∨
    client.receiver.registers = some frame

end Client

namespace Client

variable (client : Client Payload) {next : Client Payload}

/-- Where the calls of a client wait after one of them has moved. -/
theorem waitsInCall_of_update
    {frame : DataFrame Payload}
    (waits : next.WaitsInCall frame)
    {call : Nat} {moved : ClientCall Payload}
    (calls : next.calls = Function.update client.calls call moved) :
    moved.waiting = some frame ∨ client.WaitsInCall frame := by
  obtain ⟨other, waits⟩ := waits
  rw [calls] at waits
  by_cases same : other = call
  · subst same
    rw [Function.update_self] at waits
    exact .inl waits
  · rw [Function.update_of_ne same] at waits
    exact .inr ⟨other, waits⟩

/-- What is about to be registered after a call has moved. -/
theorem registers_of_update
    {frame : DataFrame Payload}
    (registers : next.Registers frame)
    {call : Nat} {moved : ClientCall Payload}
    (calls : next.calls = Function.update client.calls call moved)
    (receiver : next.receiver = client.receiver) :
    moved.registers = some frame ∨ client.Registers frame := by
  rcases registers with ⟨other, registers⟩ | registers
  · rw [calls] at registers
    by_cases same : other = call
    · subst same
      rw [Function.update_self] at registers
      exact .inl registers
    · rw [Function.update_of_ne same] at registers
      exact .inr (.inl ⟨other, registers⟩)
  · exact .inr (.inr (receiver ▸ registers))

end Client

theorem ClientCall.waiting_of_registers
    {call : ClientCall Payload} {frame : DataFrame Payload}
    (registers : call.registers = some frame) :
    call.waiting = some frame := by
  cases call with
  | registering other => exact registers
  | _ => cases registers

/-- The client on its own, with whatever replies the receive thread decodes. -/
def system
    [DecidableEq Payload]
    (maxPacketRetransmissionCount : Nat) (sessionId : SessionIdType) :
    TransitionSystem (Client Payload) (ClientLabel Payload) where
  Initial client := client = .connecting sessionId
  step client label :=
    (clientStep maxPacketRetransmissionCount client label).map Prod.fst

/-! ## Sending in order -/

/-- A call passes the window test and the flush pops a packet only when no
packet with a smaller sequence is waiting, and sequences do not wrap around. -/
def DecidesInOrder
    (client : Client Payload) : ClientLabel Payload → Prop
  | .allocate _ _ => client.lastSendPacketSequence.toNat + 1 < 2 ^ 64
  | .compareOutstanding _ frame window =>
      ¬ window ≤ client.outstanding →
        ∀ other, client.Waits other →
          frame.packetSequence ≤ other.packetSequence
  | .flushPop frame _ =>
      ∀ other, client.WaitsInCall other →
        frame.packetSequence ≤ other.packetSequence
  | _ => True

/-- What is about to be registered is the first of what is waiting. -/
structure Ordered (client : Client Payload) : Prop where
  allocated : ∀ frame, client.Waits frame →
    frame.packetSequence ≤ client.lastSendPacketSequence
  first : ∀ frame, client.Registers frame →
    ∀ other, client.Waits other →
      frame.packetSequence ≤ other.packetSequence

namespace Ordered

variable {client next : Client Payload}

theorem initial (sessionId : SessionIdType) :
    Ordered (.connecting sessionId : Client Payload) where
  allocated frame waits := by
    rcases waits with member | ⟨call, waits⟩ | registers
    · cases member
    · cases waits
    · cases registers
  first frame registers := by
    rcases registers with ⟨call, registers⟩ | registers
    · cases registers
    · cases registers

/-- Nothing new is waiting or about to be registered. -/
theorem mono
    (ordered : Ordered client)
    (same : next.lastSendPacketSequence = client.lastSendPacketSequence)
    (waits : ∀ frame, next.Waits frame → client.Waits frame)
    (registers : ∀ frame, next.Registers frame → client.Registers frame) :
    Ordered next where
  allocated frame waiting := same ▸ ordered.allocated frame (waits frame waiting)
  first frame registering other waiting :=
    ordered.first frame (registers frame registering) other
      (waits other waiting)

/-- A call moves on without starting to register. -/
theorem moveCall
    (ordered : Ordered client)
    {call : Nat} {moved : ClientCall Payload}
    (calls : next.calls = Function.update client.calls call moved)
    (same : next.lastSendPacketSequence = client.lastSendPacketSequence)
    (pending : next.pendingPacketQueue = client.pendingPacketQueue)
    (receiver : next.receiver = client.receiver)
    (undecided : moved.registers = none)
    (waiting : ∀ frame, moved.waiting = some frame →
      (client.calls call).waiting = some frame) :
    Ordered next := by
  refine ordered.mono same ?_ ?_
  · rintro frame (member | waits | registers)
    · exact .inl (pending ▸ member)
    · rcases client.waitsInCall_of_update waits calls with new | old
      · exact .inr (.inl ⟨call, waiting frame new⟩)
      · exact .inr (.inl old)
    · exact .inr (.inr (receiver ▸ registers))
  · intro frame registers
    rcases client.registers_of_update registers calls receiver with new | old
    · exact nomatch undecided.symm.trans new
    · exact old

/-- The receive thread moves on and registers nothing. -/
theorem moveReceiver
    (ordered : Ordered client)
    (undecided : next.receiver.registers = none)
    (same : next.lastSendPacketSequence = client.lastSendPacketSequence)
    (calls : next.calls = client.calls)
    (pending : next.pendingPacketQueue = client.pendingPacketQueue) :
    Ordered next := by
  refine ordered.mono same ?_ ?_
  · rintro frame (member | ⟨call, waits⟩ | registers)
    · exact .inl (pending ▸ member)
    · exact .inr (.inl ⟨call, calls ▸ waits⟩)
    · exact nomatch undecided.symm.trans registers
  · rintro frame (⟨call, registers⟩ | registers)
    · exact .inl ⟨call, calls ▸ registers⟩
    · exact nomatch undecided.symm.trans registers

/-- A call takes the next sequence. -/
theorem allocate
    (ordered : Ordered client)
    {call : Nat} {payload : Payload}
    (bounded : client.lastSendPacketSequence.toNat + 1 < 2 ^ 64)
    (calls : next.calls = Function.update client.calls call
      (.allocated ⟨client.lastSendPacketSequence + 1, payload⟩))
    (last : next.lastSendPacketSequence = client.lastSendPacketSequence + 1)
    (pending : next.pendingPacketQueue = client.pendingPacketQueue)
    (receiver : next.receiver = client.receiver) :
    Ordered next := by
  have grows : client.lastSendPacketSequence ≤
      client.lastSendPacketSequence + 1 := by
    rw [BitVec.le_def, BitVec.toNat_add,
      show (1 : PacketSequence).toNat = 1 from rfl]
    omega
  have waitsOrNew : ∀ frame, next.Waits frame →
      client.Waits frame ∨
        frame.packetSequence = client.lastSendPacketSequence + 1 := by
    rintro frame (member | waits | registers)
    · exact .inl (.inl (pending ▸ member))
    · rcases client.waitsInCall_of_update waits calls with new | old
      · obtain rfl := Option.some.inj new
        exact .inr rfl
      · exact .inl (.inr (.inl old))
    · exact .inl (.inr (.inr (receiver ▸ registers)))
  have registersBefore : ∀ frame, next.Registers frame →
      client.Registers frame := by
    intro frame registers
    rcases client.registers_of_update registers calls receiver with new | old
    · cases new
    · exact old
  refine ⟨fun frame waits => ?_, fun frame registers other waits => ?_⟩
  · rw [last]
    rcases waitsOrNew frame waits with old | new
    · exact BitVec.le_trans (ordered.allocated frame old) grows
    · exact BitVec.le_of_eq new
  · have before := registersBefore frame registers
    rcases waitsOrNew other waits with old | new
    · exact ordered.first frame before other old
    · rw [new]
      refine BitVec.le_trans (ordered.allocated frame ?_) grows
      rcases before with ⟨call, registers⟩ | registers
      · exact .inr (.inl ⟨call, ClientCall.waiting_of_registers registers⟩)
      · exact .inr (.inr registers)

/-- A call passes the window test while nothing smaller is waiting. -/
theorem passWindow
    (ordered : Ordered client)
    {call : Nat} {frame : DataFrame Payload}
    (stands : (client.calls call).waiting = some frame)
    (first : ∀ other, client.Waits other →
      frame.packetSequence ≤ other.packetSequence) :
    Ordered
      { client with
        calls := Function.update client.calls call (.registering frame) } := by
  have waitsBefore : ∀ other,
      Client.Waits
        { client with
          calls := Function.update client.calls call (.registering frame) }
        other → client.Waits other := by
    rintro other (member | waits | registers)
    · exact .inl member
    · rcases client.waitsInCall_of_update waits rfl with new | old
      · obtain rfl := Option.some.inj new
        exact .inr (.inl ⟨call, stands⟩)
      · exact .inr (.inl old)
    · exact .inr (.inr registers)
  refine
    ⟨fun other waits => ordered.allocated other (waitsBefore other waits),
      fun other registers another waits => ?_⟩
  rcases client.registers_of_update registers rfl rfl with
    new | old
  · obtain rfl := Option.some.inj new
    exact first another (waitsBefore another waits)
  · exact ordered.first other old another (waitsBefore another waits)

/-- A call puts its packet into the pending queue. -/
theorem pushPending
    (ordered : Ordered client)
    {call : Nat} {frame : DataFrame Payload}
    (stands : client.calls call = .toPending frame) :
    Ordered
      { client with
        pendingPacketQueue := frame :: client.pendingPacketQueue
        calls := Function.update client.calls call .idle } := by
  refine ordered.mono rfl ?_ ?_
  · rintro other (member | waits | registers)
    · rcases List.mem_cons.mp member with rfl | old
      · exact .inr (.inl ⟨call, by rw [stands]; rfl⟩)
      · exact .inl old
    · rcases client.waitsInCall_of_update waits rfl with new | old
      · cases new
      · exact .inr (.inl old)
    · exact .inr (.inr registers)
  · intro other registers
    rcases client.registers_of_update registers rfl rfl with
      new | old
    · cases new
    · exact old

/-- The flush pops the first pending packet while no call holds a smaller
sequence. -/
theorem flushPop
    [DecidableEq Payload]
    (ordered : Ordered client)
    {frame : DataFrame Payload} {window : Byte}
    (stands : client.receiver = .flushing window)
    (member : frame ∈ client.pendingPacketQueue)
    (top : ∀ other ∈ client.pendingPacketQueue,
      frame.packetSequence ≤ other.packetSequence)
    (first : ∀ other, client.WaitsInCall other →
      frame.packetSequence ≤ other.packetSequence) :
    Ordered
      { client with
        pendingPacketQueue := client.pendingPacketQueue.erase frame
        receiver := .flushRegistering frame window } := by
  have waitsBefore : ∀ other,
      Client.Waits
        { client with
          pendingPacketQueue := client.pendingPacketQueue.erase frame
          receiver := .flushRegistering frame window } other →
        client.Waits other := by
    rintro other (inside | waits | registers)
    · exact .inl (List.mem_of_mem_erase inside)
    · exact .inr (.inl waits)
    · obtain rfl := Option.some.inj registers
      exact .inl member
  refine
    ⟨fun other waits => ordered.allocated other (waitsBefore other waits),
      fun other registers another waits => ?_⟩
  have before := waitsBefore another waits
  rcases registers with registers | registers
  · exact ordered.first other (.inl registers) another before
  · obtain rfl := Option.some.inj registers
    rcases before with inside | waits | registers
    · exact top another inside
    · exact first another waits
    · rw [stands] at registers
      cases registers

/-- Every step keeps the order, if it decides in order. -/
theorem step
    [DecidableEq Payload]
    {maxPacketRetransmissionCount : Nat} {label : ClientLabel Payload}
    {enqueued : List (ClientFrame Payload)}
    (ordered : Ordered client)
    (decides : DecidesInOrder client label)
    (moves : clientStep maxPacketRetransmissionCount client label =
      some (next, enqueued)) :
    Ordered next := by
  cases label with
  | allocate call payload =>
      simp only [clientStep, Option.ite_none_right_eq_some, Option.some.injEq,
        Prod.mk.injEq] at moves
      obtain ⟨-, rfl, -⟩ := moves
      exact ordered.allocate decides rfl rfl rfl rfl
  | loadWindow call frame =>
      simp only [clientStep, Option.ite_none_right_eq_some, Option.some.injEq,
        Prod.mk.injEq] at moves
      obtain ⟨stands, rfl, -⟩ := moves
      refine ordered.moveCall rfl rfl rfl rfl ?_ ?_
      · split <;> rfl
      · intro other waits
        rw [stands]
        split at waits <;> exact waits
  | compareOutstanding call frame window =>
      simp only [clientStep, Option.ite_none_right_eq_some, Option.some.injEq,
        Prod.mk.injEq] at moves
      obtain ⟨stands, rfl, -⟩ := moves
      by_cases full : window ≤ client.outstanding
      · refine ordered.moveCall rfl rfl rfl rfl ?_ ?_
        · rw [if_pos full]
          rfl
        · intro other waits
          rw [if_pos full] at waits
          rw [stands]
          exact waits
      · rw [if_neg full]
        exact ordered.passWindow (by rw [stands]; rfl) (decides full)
  | pushPending call frame =>
      simp only [clientStep, Option.ite_none_right_eq_some, Option.some.injEq,
        Prod.mk.injEq] at moves
      obtain ⟨⟨stands, -⟩, rfl, -⟩ := moves
      exact ordered.pushPending stands
  | register call frame | registerFails call frame | enqueue call frame =>
      simp only [clientStep, Option.ite_none_right_eq_some, Option.some.injEq,
        Prod.mk.injEq] at moves
      obtain ⟨-, rfl, -⟩ := moves
      exact ordered.moveCall rfl rfl rfl rfl rfl (by rintro _ ⟨⟩)
  | onSendReply reply =>
      simp only [clientStep, Option.ite_none_right_eq_some] at moves
      obtain ⟨idle, moves⟩ := moves
      split at moves
      · cases moves
        exact ordered
      · cases moves
        exact ordered.moveReceiver rfl rfl rfl rfl
  | eraseAcked packetSequence =>
      simp only [clientStep, Option.ite_none_right_eq_some, Option.some.injEq,
        Prod.mk.injEq] at moves
      obtain ⟨-, rfl, -⟩ := moves
      exact ordered.moveReceiver rfl rfl rfl rfl
  | flushBegin =>
      simp only [clientStep, Option.ite_none_right_eq_some, Option.some.injEq,
        Prod.mk.injEq] at moves
      obtain ⟨-, rfl, -⟩ := moves
      refine ordered.moveReceiver ?_ rfl rfl rfl
      dsimp only
      split <;> rfl
  | flushPop frame window =>
      simp only [clientStep, Option.ite_none_right_eq_some, Option.some.injEq,
        Prod.mk.injEq] at moves
      obtain ⟨⟨stands, -, member, top⟩, rfl, -⟩ := moves
      exact ordered.flushPop stands member top decides
  | flushRegister frame window | flushRegisterFails frame window
  | flushEnqueue frame window | flushEnd window =>
      simp only [clientStep, Option.ite_none_right_eq_some, Option.some.injEq,
        Prod.mk.injEq] at moves
      obtain ⟨-, rfl, -⟩ := moves
      exact ordered.moveReceiver rfl rfl rfl rfl
  | retransmitCount info =>
      simp only [clientStep, Option.ite_none_right_eq_some] at moves
      obtain ⟨-, moves⟩ := moves
      split at moves <;> cases moves <;>
        exact ordered.mono rfl (fun _ => id) fun _ => id
  | retransmitEnqueue frame =>
      simp only [clientStep, Option.ite_none_right_eq_some, Option.some.injEq,
        Prod.mk.injEq] at moves
      obtain ⟨-, rfl, -⟩ := moves
      exact ordered.mono rfl (fun _ => id) fun _ => id

end Ordered

/-- In every run that decides in order, no packet is registered while one with a
smaller sequence is waiting. -/
theorem le_of_registered_of_waits
    [DecidableEq Payload]
    {maxPacketRetransmissionCount : Nat} {sessionId : SessionIdType}
    {client next : Client Payload} {label : ClientLabel Payload}
    {frame other : DataFrame Payload}
    (reached :
      (system maxPacketRetransmissionCount sessionId).GuardedReachable
        DecidesInOrder client)
    (moves : (system maxPacketRetransmissionCount sessionId).step client label =
      some next)
    (registered : label.registered = some frame)
    (waits : client.Waits other) :
    frame.packetSequence ≤ other.packetSequence := by
  have ordered : Ordered client := by
    refine reached.invariant ?_ ?_
    · rintro _ rfl
      exact .initial sessionId
    · intro before label after _ ordered decides moves
      obtain ⟨outcome, steps, rfl⟩ := Option.map_eq_some_iff.mp moves
      exact ordered.step decides steps
  refine ordered.first frame ?_ other waits
  obtain ⟨outcome, moves, -⟩ := Option.map_eq_some_iff.mp moves
  cases label with
  | register call inserted =>
      obtain rfl := Option.some.inj registered
      simp only [clientStep, Option.ite_none_right_eq_some] at moves
      exact .inl ⟨call, by rw [moves.1]; rfl⟩
  | flushRegister inserted window =>
      obtain rfl := Option.some.inj registered
      simp only [clientStep, Option.ite_none_right_eq_some] at moves
      exact .inr (by rw [moves.1]; rfl)
  | _ => cases registered

/-! ## Overtaking -/

/-- The step tests no window and pops no packet, and sequences do not wrap
around. -/
def decidesNothing (client : Client Payload) : ClientLabel Payload → Bool
  | .allocate _ _ => client.lastSendPacketSequence.toNat + 1 < 2 ^ 64
  | .compareOutstanding _ _ _ | .flushPop _ _ => false
  | _ => true

theorem decidesInOrder_of_decidesNothing
    {client : Client Payload} {label : ClientLabel Payload}
    (nothing : decidesNothing client label = true) :
    DecidesInOrder client label := by
  cases label with
  | allocate call payload =>
      change _ < _
      exact of_decide_eq_true nothing
  | compareOutstanding call frame window => cases nothing
  | flushPop frame window => cases nothing
  | _ => trivial

/-- The receive thread processes the reply to the CONNECT packet, which opens a
window for one packet, and a call has loaded the window for the first one. -/
def windowLoadedSchedule : List (ClientLabel Nat) :=
  [.onSendReply ⟨0, 1⟩, .eraseAcked 0, .flushBegin, .flushEnd 1,
    .allocate 0 10, .loadWindow 0 ⟨1, 10⟩]

/-- The client after it. -/
def windowLoaded : Client Nat :=
  ((system 10 0).run (.connecting 0) windowLoadedSchedule).getD (.connecting 0)

/-- The first packet passes the window test. -/
def windowPassed : Client Nat :=
  ((system 10 0).step windowLoaded (.compareOutstanding 0 ⟨1, 10⟩ 1)).getD
    windowLoaded

/-- Another thread has allocated the second packet. -/
def secondAllocated : Client Nat :=
  ((system 10 0).step windowPassed (.allocate 1 20)).getD windowPassed

theorem secondAllocated_reachable :
    (system 10 0).GuardedReachable DecidesInOrder secondAllocated := by
  have loaded : (system 10 0).GuardedReachable DecidesInOrder windowLoaded :=
    TransitionSystem.GuardedReachable.guardedRun_of_imp
      (fun _ _ => decidesInOrder_of_decidesNothing) (.initial rfl)
      (show (system 10 0).guardedRun
          (fun client label => decidesNothing client label = true)
          (.connecting 0) windowLoadedSchedule = some windowLoaded from rfl)
  have first : DecidesInOrder windowLoaded
      (.compareOutstanding 0 ⟨1, 10⟩ 1) := by
    rintro - other (member | ⟨call, waits⟩ | registers)
    · cases member
    · match call with
      | 0 =>
          obtain rfl := Option.some.inj waits
          exact BitVec.le_refl _
      | call + 1 => cases waits
    · cases registers
  have passed : (system 10 0).GuardedReachable DecidesInOrder windowPassed :=
    loaded.step first rfl
  have bounded : DecidesInOrder windowPassed (.allocate 1 20) := by
    change 1 + 1 < 2 ^ 64
    decide
  exact passed.step bounded rfl

/-- The first packet is registered while the second one is waiting. -/
theorem le_of_registered_secondAllocated :
    (1 : PacketSequence) ≤ 2 :=
  le_of_registered_of_waits secondAllocated_reachable
    (show (system 10 0).step secondAllocated (.register 0 ⟨1, 10⟩) =
      some (((system 10 0).step secondAllocated (.register 0 ⟨1, 10⟩)).getD
        secondAllocated) from rfl)
    (show ClientLabel.registered _ = some (⟨1, 10⟩ : DataFrame Nat) from rfl)
    (show secondAllocated.Waits ⟨2, 20⟩ from .inr (.inl ⟨1, rfl⟩))

/-- A call takes a sequence and tests the window. -/
def sendUpToTest
    (packetSequence : PacketSequence) (payload : Nat) (window : Byte) :
    List (ClientLabel Nat) :=
  let frame : DataFrame Nat := ⟨packetSequence, payload⟩
  [.allocate 0 payload, .loadWindow 0 frame, .compareOutstanding 0 frame window]

/-- The first packet is registered and sent. -/
def firstPacketSchedule : List (ClientLabel Nat) :=
  windowLoadedSchedule ++
  [.compareOutstanding 0 ⟨1, 10⟩ 1, .register 0 ⟨1, 10⟩, .enqueue 0 ⟨1, 10⟩]

/-- The second packet is queued.  The first one is acknowledged, and before the
queue is flushed a third packet passes the window test. -/
def overtakingSchedule : List (ClientLabel Nat) :=
  firstPacketSchedule ++ sendUpToTest 2 20 1 ++
  [.pushPending 0 ⟨2, 20⟩, .onSendReply ⟨1, 1⟩, .eraseAcked 1] ++
  sendUpToTest 3 30 1

/-- The client after it. -/
def overtaken : Client Nat :=
  ((system 10 0).run (.connecting 0) overtakingSchedule).getD (.connecting 0)

/-- The third packet is registered while the second one is still pending. -/
theorem registers_before_pending :
    (system 10 0).Reachable overtaken ∧
      ((system 10 0).step overtaken (.register 0 ⟨3, 30⟩)).isSome ∧
      overtaken.Waits ⟨2, 20⟩ ∧
      ¬ (3 : PacketSequence) ≤ 2 := by
  refine ⟨TransitionSystem.Reachable.run (.initial rfl)
    (show (system 10 0).run (.connecting 0) overtakingSchedule =
      some overtaken from rfl), rfl, .inl ?_, by decide⟩
  exact List.mem_singleton_self _

/-! ## Stalling -/

/-- No reply closes the window. -/
def windowOpen : ClientLabel Payload → Bool
  | .onSendReply reply => reply.advertiseWindow ≠ 0
  | _ => true

/-- A packet that is put into the pending queue finds another one registered, or
the receive thread on its way to a flush. -/
def Client.pushIsNoticed (client : Client Payload) :
    ClientLabel Payload → Bool
  | .pushPending _ _ =>
      !client.sendPacketInfoMap.isEmpty ||
        match client.receiver with
        | .windowStored _ | .erased => true
        | _ => false
  | _ => true

/-- Every window is open. -/
def WindowsOpen (_ : Client Payload) (label : ClientLabel Payload) : Prop :=
  windowOpen label = true

/-- Every window is open, and every pushed packet is noticed. -/
def PushesNoticed
    (client : Client Payload) (label : ClientLabel Payload) : Prop :=
  windowOpen label = true ∧ client.pushIsNoticed label = true

instance (client : Client Payload) (label : ClientLabel Payload) :
    Decidable (WindowsOpen client label) :=
  inferInstanceAs (Decidable (_ = _))

instance (client : Client Payload) (label : ClientLabel Payload) :
    Decidable (PushesNoticed client label) :=
  inferInstanceAs (Decidable (_ ∧ _))

/-- Between calls, a packet is in flight if one is pending. -/
def NotStalled (client : Client Payload) : Prop :=
  (∀ call, client.calls call = .idle) → client.receiver = .idle →
    client.pendingPacketQueue ≠ [] → client.sendPacketInfoMap ≠ []

/-- The window that a running flush has loaded. -/
def Receiver.flushWindow : Receiver Payload → Option Byte
  | .flushing window | .flushRegistering _ window
  | .flushRegistered _ window => some window
  | .idle | .windowStored _ | .erased => none

/-- While a packet is pending, one is in flight or the receive thread is
busy. -/
structure Flowing (client : Client Payload) : Prop where
  opened : client.remoteAdvertisedWindow ≠ 0
  flushOpened : ∀ window, client.receiver.flushWindow = some window →
    window ≠ 0
  noticed : client.pendingPacketQueue ≠ [] → client.receiver = .idle →
    client.sendPacketInfoMap ≠ []

theorem insertSendPacketInfo_ne_nil
    (map : List (SendPacketInfo Payload)) (frame : ClientFrame Payload) :
    insertSendPacketInfo map frame ≠ [] := by
  unfold insertSendPacketInfo
  split
  · next present =>
      rintro rfl
      cases present
  · exact List.cons_ne_nil _ _

/-- A full window means that something is registered. -/
theorem Client.sendPacketInfoMap_ne_nil
    {client : Client Payload} {window : Byte}
    (opened : window ≠ 0)
    (full : window ≤ client.outstanding) :
    client.sendPacketInfoMap ≠ [] := by
  intro nothing
  rw [Client.outstanding, nothing] at full
  refine opened (BitVec.eq_of_toNat_eq ?_)
  exact Nat.le_zero.mp (BitVec.le_def.mp full)

namespace Flowing

variable {client next : Client Payload}

/-- Only the map has changed, and it is not empty unless it is the same. -/
theorem congr
    (flowing : Flowing client)
    (window : next.remoteAdvertisedWindow = client.remoteAdvertisedWindow)
    (receiver : next.receiver = client.receiver)
    (pending : next.pendingPacketQueue = client.pendingPacketQueue)
    (map : next.sendPacketInfoMap = client.sendPacketInfoMap ∨
      next.sendPacketInfoMap ≠ []) :
    Flowing next where
  opened := window ▸ flowing.opened
  flushOpened := by
    rw [receiver]
    exact flowing.flushOpened
  noticed := by
    rcases map with same | some
    · rw [receiver, pending, same]
      exact flowing.noticed
    · exact fun _ _ => some

/-- The receive thread is busy. -/
theorem busy
    (opened : next.remoteAdvertisedWindow ≠ 0)
    (flushOpened : ∀ window, next.receiver.flushWindow = some window →
      window ≠ 0)
    (busy : next.receiver ≠ .idle) :
    Flowing next where
  opened := opened
  flushOpened := flushOpened
  noticed _ idle := absurd idle busy

/-- Every step keeps the packets flowing, if windows are open and pushed packets
are noticed. -/
theorem step
    [DecidableEq Payload]
    {maxPacketRetransmissionCount : Nat} {label : ClientLabel Payload}
    {enqueued : List (ClientFrame Payload)}
    (flowing : Flowing client)
    (guarded : PushesNoticed client label)
    (moves : clientStep maxPacketRetransmissionCount client label =
      some (next, enqueued)) :
    Flowing next := by
  obtain ⟨opens, notices⟩ := guarded
  cases label with
  | allocate call payload | loadWindow call frame
  | compareOutstanding call frame window | registerFails call frame
  | enqueue call frame | retransmitEnqueue frame =>
      simp only [clientStep, Option.ite_none_right_eq_some, Option.some.injEq,
        Prod.mk.injEq] at moves
      obtain ⟨-, rfl, -⟩ := moves
      exact flowing.congr rfl rfl rfl (.inl rfl)
  | register call frame =>
      simp only [clientStep, Option.ite_none_right_eq_some, Option.some.injEq,
        Prod.mk.injEq] at moves
      obtain ⟨-, rfl, -⟩ := moves
      exact flowing.congr rfl rfl rfl (.inr (insertSendPacketInfo_ne_nil _ _))
  | pushPending call frame =>
      simp only [clientStep, Option.ite_none_right_eq_some, Option.some.injEq,
        Prod.mk.injEq] at moves
      obtain ⟨-, rfl, -⟩ := moves
      refine { flowing with noticed := fun _ idle => ?_ }
      dsimp only at idle
      simp only [Client.pushIsNoticed, idle, Bool.or_false, Bool.not_eq_true',
        List.isEmpty_eq_false_iff] at notices
      exact notices
  | onSendReply reply =>
      simp only [clientStep, Option.ite_none_right_eq_some] at moves
      obtain ⟨-, moves⟩ := moves
      split at moves
      · cases moves
        exact flowing
      · cases moves
        exact busy (of_decide_eq_true opens) (fun _ => by rintro ⟨⟩) (by simp)
  | eraseAcked packetSequence =>
      simp only [clientStep, Option.ite_none_right_eq_some, Option.some.injEq,
        Prod.mk.injEq] at moves
      obtain ⟨-, rfl, -⟩ := moves
      exact busy flowing.opened (fun _ => by rintro ⟨⟩) (by simp)
  | flushBegin =>
      simp only [clientStep, Option.ite_none_right_eq_some, Option.some.injEq,
        Prod.mk.injEq] at moves
      obtain ⟨-, rfl, -⟩ := moves
      rw [if_neg flowing.opened]
      refine busy flowing.opened ?_ (by simp)
      rintro window ⟨⟩
      exact flowing.opened
  | flushPop frame window =>
      simp only [clientStep, Option.ite_none_right_eq_some, Option.some.injEq,
        Prod.mk.injEq] at moves
      obtain ⟨⟨stands, -⟩, rfl, -⟩ := moves
      exact busy flowing.opened
        (fun _ loaded => flowing.flushOpened _ (by rw [stands]; exact loaded))
        (by simp)
  | flushRegister frame window | flushRegisterFails frame window
  | flushEnqueue frame window =>
      simp only [clientStep, Option.ite_none_right_eq_some, Option.some.injEq,
        Prod.mk.injEq] at moves
      obtain ⟨stands, rfl, -⟩ := moves
      exact busy flowing.opened
        (fun _ loaded => flowing.flushOpened _ (by rw [stands]; exact loaded))
        (by simp)
  | flushEnd window =>
      simp only [clientStep, Option.ite_none_right_eq_some, Option.some.injEq,
        Prod.mk.injEq] at moves
      obtain ⟨⟨stands, ended⟩, rfl, -⟩ := moves
      refine
        { opened := flowing.opened
          flushOpened := fun _ => by rintro ⟨⟩
          noticed := fun left _ => ?_ }
      rcases ended with nothing | full
      · exact absurd nothing left
      · exact Client.sendPacketInfoMap_ne_nil
          (flowing.flushOpened window (by rw [stands]; rfl)) full
  | retransmitCount info =>
      simp only [clientStep, Option.ite_none_right_eq_some] at moves
      obtain ⟨-, moves⟩ := moves
      split at moves <;> cases moves <;>
        exact flowing.congr rfl rfl rfl (.inr (List.cons_ne_nil _ _))

end Flowing

/-- In every run with open windows whose pushed packets are all noticed, the
client does not stall. -/
theorem notStalled_of_pushesNoticed
    [DecidableEq Payload]
    {maxPacketRetransmissionCount : Nat} {sessionId : SessionIdType}
    {client : Client Payload}
    (reached :
      (system maxPacketRetransmissionCount sessionId).GuardedReachable
        PushesNoticed client) :
    NotStalled client := by
  have flowing : Flowing client := by
    refine reached.invariant ?_ ?_
    · rintro _ rfl
      exact
        { opened := by change (1 : Byte) ≠ 0; decide
          flushOpened := fun _ => nofun
          noticed := fun left => absurd rfl left }
    · intro before label after _ flowing guarded moves
      obtain ⟨outcome, steps, rfl⟩ := Option.map_eq_some_iff.mp moves
      exact flowing.step guarded steps
  exact fun _ idle pending => flowing.noticed pending idle

/-- The second packet is queued while the first one is registered. -/
def queuedSchedule : List (ClientLabel Nat) :=
  firstPacketSchedule ++ sendUpToTest 2 20 1 ++ [.pushPending 0 ⟨2, 20⟩]

/-- The second packet is about to be queued when the acknowledgement of the
first one is processed. -/
def stallingSchedule : List (ClientLabel Nat) :=
  firstPacketSchedule ++ sendUpToTest 2 20 1 ++
  [.onSendReply ⟨1, 1⟩, .eraseAcked 1, .flushBegin, .flushEnd 1,
    .pushPending 0 ⟨2, 20⟩]

/-- The client after it. -/
def stalled : Client Nat :=
  ((system 10 0).run (.connecting 0) stallingSchedule).getD (.connecting 0)

/-- Although every window is open, a connected client can stall. -/
theorem stalled_reachable :
    (system 10 0).GuardedReachable WindowsOpen stalled ∧
      stalled.isConnected = true ∧ ¬ NotStalled stalled := by
  refine ⟨TransitionSystem.GuardedReachable.guardedRun (.initial rfl)
    (show (system 10 0).guardedRun WindowsOpen (.connecting 0)
      stallingSchedule = some stalled from rfl), rfl, fun flows => ?_⟩
  have idle : ∀ call, stalled.calls call = .idle
    | 0 => rfl
    | _ + 1 => rfl
  exact flows idle rfl (List.cons_ne_nil _ _) rfl

theorem notStalled_after_queuing :
    NotStalled
      (((system 10 0).run (.connecting 0) queuedSchedule).getD
        (.connecting 0)) :=
  notStalled_of_pushesNoticed
    (TransitionSystem.GuardedReachable.guardedRun (.initial rfl)
      (show (system 10 0).guardedRun PushesNoticed (.connecting 0)
          queuedSchedule =
        some (((system 10 0).run (.connecting 0) queuedSchedule).getD
          (.connecting 0)) from rfl))

end SendPath
end MultiSocketRudp
