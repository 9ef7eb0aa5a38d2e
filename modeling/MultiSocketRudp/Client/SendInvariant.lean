import MultiSocketRudp.Client.SendPath
import MultiSocketRudp.Server.ReceiveInvariant

/-!
# The invariant of the client's send path

Every packet that the client has pending, registered or in a call carries the
payload of its sequence.  A step keeps this, enqueues only such packets and
drops only what an acknowledgement has named.
-/

namespace MultiSocketRudp
namespace SendPath

open ReceivePath

variable {Payload : Type}

/-- What a call of `SendPacket` holds is valid. -/
def ValidCall (sent : List Payload) : ClientCall Payload → Prop
  | .idle => True
  | .allocated frame => ValidData sent frame
  | .windowLoaded frame _ => ValidData sent frame
  | .toPending frame => ValidData sent frame
  | .registering frame => ValidData sent frame
  | .registered frame => ValidData sent frame

/-- What the receive thread holds is valid. -/
def ValidReceiver (sent : List Payload) : Receiver Payload → Prop
  | .flushRegistering frame _ => ValidData sent frame
  | .flushRegistered frame _ => ValidData sent frame
  | _ => True

theorem ValidCall.append
    {sent : List Payload} {call : ClientCall Payload}
    (valid : ValidCall sent call)
    (later : List Payload) :
    ValidCall (sent ++ later) call := by
  cases call with
  | idle => trivial
  | _ => exact ValidData.append valid later

theorem ValidReceiver.append
    {sent : List Payload} {receiver : Receiver Payload}
    (valid : ValidReceiver sent receiver)
    (later : List Payload) :
    ValidReceiver (sent ++ later) receiver := by
  cases receiver with
  | flushRegistering frame window => exact ValidData.append valid later
  | flushRegistered frame window => exact ValidData.append valid later
  | _ => trivial

/-- Everything that the client keeps is valid. -/
structure ClientInvariant (client : Client Payload) : Prop where
  /-- The counter counts the payloads. -/
  length_eq : client.lastSendPacketSequence.toNat = client.sent.length
  /-- There are at most half as many as sequences. -/
  small : client.sent.length ≤ 2 ^ 63
  /-- The calls in progress are valid. -/
  calls : ∀ call, ValidCall client.sent (client.calls call)
  /-- Pending packets are valid. -/
  pending : ∀ frame ∈ client.pendingPacketQueue, ValidData client.sent frame
  /-- Registered packets are valid. -/
  map : ∀ info ∈ client.sendPacketInfoMap, ValidFrame client.sent info.frame
  /-- The packet being flushed is valid. -/
  receiver : ValidReceiver client.sent client.receiver
  /-- The packet being retransmitted is valid. -/
  retransmission : ∀ frame,
    client.retransmission = some frame → ValidFrame client.sent frame

namespace ClientInvariant

variable {client : Client Payload}

/-- One call may move to anything valid. -/
theorem update
    (holds : ClientInvariant client)
    (call : Nat)
    {moved : ClientCall Payload}
    (valid : ValidCall client.sent moved)
    (other : Nat) :
    ValidCall client.sent (Function.update client.calls call moved other) := by
  revert other
  exact (Function.forall_update_iff client.calls
    fun _ state => ValidCall client.sent state).mpr
      ⟨valid, fun other _ => holds.calls other⟩

/-- The call that makes a step is valid before it. -/
theorem at_call
    (holds : ClientInvariant client)
    {call : Nat} {state : ClientCall Payload}
    (stands : client.calls call = state) :
    ValidCall client.sent state :=
  stands ▸ holds.calls call

/-- The receive thread is valid before its step. -/
theorem at_receiver
    (holds : ClientInvariant client)
    {state : Receiver Payload}
    (stands : client.receiver = state) :
    ValidReceiver client.sent state :=
  stands ▸ holds.receiver

/-- Registering a valid packet keeps the map valid. -/
theorem insert
    (holds : ClientInvariant client)
    {frame : ClientFrame Payload}
    (valid : ValidFrame client.sent frame)
    (info : SendPacketInfo Payload)
    (member :
      info ∈ insertSendPacketInfo client.sendPacketInfoMap frame) :
    ValidFrame client.sent info.frame := by
  unfold insertSendPacketInfo at member
  split at member
  · exact holds.map info member
  · rcases List.mem_cons.mp member with rfl | old
    · exact valid
    · exact holds.map info old

/-- Taking the next sequence. -/
theorem allocate
    (holds : ClientInvariant client)
    (bounded : client.sent.length < 2 ^ 63)
    (call : Nat) (payload : Payload) :
    ClientInvariant
      { client with
        lastSendPacketSequence := client.lastSendPacketSequence + 1
        sent := client.sent ++ [payload]
        calls :=
          Function.update client.calls call
            (.allocated ⟨client.lastSendPacketSequence + 1, payload⟩) } := by
  have length_eq := holds.length_eq
  have next_eq :
      (client.lastSendPacketSequence + 1).toNat = client.sent.length + 1 := by
    rw [BitVec.toNat_add, length_eq]
    exact Nat.mod_eq_of_lt (by
      change client.sent.length + 1 < 2 ^ 64
      omega)
  exact
    { length_eq := by
        rw [next_eq, List.length_append, List.length_singleton]
      small := by
        rw [List.length_append, List.length_singleton]
        omega
      calls := by
        refine (Function.forall_update_iff client.calls
          fun _ state => ValidCall (client.sent ++ [payload]) state).mpr
            ⟨⟨?_, ?_⟩, fun other _ => (holds.calls other).append _⟩
        · rw [next_eq]
          omega
        · change (client.sent ++ [payload])[
            (client.lastSendPacketSequence + 1).toNat - 1]? = some payload
          rw [next_eq]
          simp
      pending := fun frame member => (holds.pending frame member).append _
      map := fun info member => (holds.map info member).append _
      receiver := holds.receiver.append _
      retransmission := fun frame slot =>
        (holds.retransmission frame slot).append _ }

end ClientInvariant

/-- What a step of the client does, as far as the connection notices it. -/
structure ClientOutcome
    (client next : Client Payload)
    (enqueued : List (ClientFrame Payload)) : Prop where
  /-- The invariant holds again. -/
  holds : ClientInvariant next
  /-- Payloads are only added. -/
  sent : ∃ later, next.sent = client.sent ++ later
  /-- What is enqueued is valid. -/
  enqueued : ∀ frame ∈ enqueued, ValidFrame next.sent frame
  /-- Only what an acknowledgement has named is dropped. -/
  dropped : ∀ packetSequence ∈ next.dropped,
    packetSequence ∈ client.dropped ∨
      client.receiver = .windowStored packetSequence

/-- Steps that add no payload, drop nothing and enqueue nothing. -/
theorem ClientOutcome.quiet
    {client next : Client Payload}
    (holds : ClientInvariant next)
    (sent : next.sent = client.sent)
    (dropped : next.dropped = client.dropped) :
    ClientOutcome client next [] where
  holds := holds
  sent := ⟨[], by rw [sent, List.append_nil]⟩
  enqueued := by simp
  dropped packetSequence member := .inl (dropped ▸ member)

/-- Steps that enqueue a packet and change only where a thread stands. -/
theorem ClientOutcome.enqueues
    {client next : Client Payload}
    {frame : ClientFrame Payload}
    (holds : ClientInvariant next)
    (sent : next.sent = client.sent)
    (dropped : next.dropped = client.dropped)
    (valid : ValidFrame client.sent frame) :
    ClientOutcome client next [frame] where
  holds := holds
  sent := ⟨[], by rw [sent, List.append_nil]⟩
  enqueued other member := by
    obtain rfl := List.mem_singleton.mp member
    exact sent ▸ valid
  dropped packetSequence member := .inl (dropped ▸ member)

section ClientStep

variable [DecidableEq Payload]

/-- Every bounded step of the client keeps its invariant. -/
theorem clientStep_outcome
    {maximum : Nat}
    {client next : Client Payload}
    {enqueued : List (ClientFrame Payload)}
    {label : ClientLabel Payload}
    (holds : ClientInvariant client)
    (bounded :
      (∃ call payload, label = .allocate call payload) →
        client.sent.length < 2 ^ 63)
    (moves : clientStep maximum client label = some (next, enqueued)) :
    ClientOutcome client next enqueued := by
  cases label with
  | allocate call payload =>
      simp only [clientStep, Option.ite_none_right_eq_some,
        Option.some.injEq, Prod.mk.injEq] at moves
      obtain ⟨-, rfl, rfl⟩ := moves
      exact
        { holds := holds.allocate (bounded ⟨call, payload, rfl⟩) call payload
          sent := ⟨[payload], rfl⟩
          enqueued := by simp
          dropped := fun _ member => .inl member }
  | loadWindow call frame =>
      simp only [clientStep, Option.ite_none_right_eq_some,
        Option.some.injEq, Prod.mk.injEq] at moves
      obtain ⟨stands, rfl, rfl⟩ := moves
      have valid := holds.at_call stands
      refine .quiet { holds with calls := holds.update call ?_ } rfl rfl
      split <;> exact valid
  | compareOutstanding call frame window =>
      simp only [clientStep, Option.ite_none_right_eq_some,
        Option.some.injEq, Prod.mk.injEq] at moves
      obtain ⟨stands, rfl, rfl⟩ := moves
      have valid := holds.at_call stands
      refine .quiet { holds with calls := holds.update call ?_ } rfl rfl
      split <;> exact valid
  | pushPending call frame =>
      simp only [clientStep, Option.ite_none_right_eq_some,
        Option.some.injEq, Prod.mk.injEq] at moves
      obtain ⟨⟨stands, -⟩, rfl, rfl⟩ := moves
      have valid := holds.at_call stands
      refine .quiet
        { holds with
          calls := holds.update call trivial
          pending := fun other member => ?_ } rfl rfl
      rcases List.mem_cons.mp member with rfl | old
      · exact valid
      · exact holds.pending other old
  | register call frame =>
      simp only [clientStep, Option.ite_none_right_eq_some,
        Option.some.injEq, Prod.mk.injEq] at moves
      obtain ⟨stands, rfl, rfl⟩ := moves
      have valid := holds.at_call stands
      exact .quiet
        { holds with
          calls := holds.update call valid
          map := holds.insert valid } rfl rfl
  | registerFails call frame =>
      simp only [clientStep, Option.ite_none_right_eq_some,
        Option.some.injEq, Prod.mk.injEq] at moves
      obtain ⟨-, rfl, rfl⟩ := moves
      exact .quiet { holds with calls := holds.update call trivial } rfl rfl
  | enqueue call frame =>
      simp only [clientStep, Option.ite_none_right_eq_some,
        Option.some.injEq, Prod.mk.injEq] at moves
      obtain ⟨stands, rfl, rfl⟩ := moves
      have valid := holds.at_call stands
      exact .enqueues { holds with calls := holds.update call trivial }
        rfl rfl valid
  | onSendReply reply =>
      simp only [clientStep, Option.ite_none_right_eq_some] at moves
      obtain ⟨-, moves⟩ := moves
      split at moves
      · simp only [Option.some.injEq, Prod.mk.injEq] at moves
        obtain ⟨rfl, rfl⟩ := moves
        exact .quiet holds rfl rfl
      · simp only [Option.some.injEq, Prod.mk.injEq] at moves
        obtain ⟨rfl, rfl⟩ := moves
        exact .quiet { holds with receiver := trivial } rfl rfl
  | eraseAcked packetSequence =>
      simp only [clientStep, Option.ite_none_right_eq_some,
        Option.some.injEq, Prod.mk.injEq] at moves
      obtain ⟨stands, rfl, rfl⟩ := moves
      refine
        { holds :=
            { holds with
              map := fun info member =>
                holds.map info (List.mem_of_mem_filter member)
              receiver := trivial }
          sent := ⟨[], (List.append_nil _).symm⟩
          enqueued := by simp
          dropped := ?_ }
      intro other member
      simp only at member
      split at member
      · rcases List.mem_cons.mp member with rfl | old
        · exact .inr stands
        · exact .inl old
      · exact .inl member
  | flushBegin =>
      simp only [clientStep, Option.ite_none_right_eq_some,
        Option.some.injEq, Prod.mk.injEq] at moves
      obtain ⟨-, rfl, rfl⟩ := moves
      refine .quiet { holds with receiver := ?_ } rfl rfl
      simp only
      split <;> trivial
  | flushPop frame window =>
      simp only [clientStep, Option.ite_none_right_eq_some,
        Option.some.injEq, Prod.mk.injEq] at moves
      obtain ⟨⟨-, -, popped, -⟩, rfl, rfl⟩ := moves
      exact .quiet
        { holds with
          pending := fun other member =>
            holds.pending other (List.mem_of_mem_erase member)
          receiver := holds.pending frame popped } rfl rfl
  | flushRegister frame window =>
      simp only [clientStep, Option.ite_none_right_eq_some,
        Option.some.injEq, Prod.mk.injEq] at moves
      obtain ⟨stands, rfl, rfl⟩ := moves
      have valid := holds.at_receiver stands
      exact .quiet
        { holds with
          map := holds.insert valid
          receiver := valid } rfl rfl
  | flushRegisterFails frame window =>
      simp only [clientStep, Option.ite_none_right_eq_some,
        Option.some.injEq, Prod.mk.injEq] at moves
      obtain ⟨-, rfl, rfl⟩ := moves
      exact .quiet { holds with receiver := trivial } rfl rfl
  | flushEnqueue frame window =>
      simp only [clientStep, Option.ite_none_right_eq_some,
        Option.some.injEq, Prod.mk.injEq] at moves
      obtain ⟨stands, rfl, rfl⟩ := moves
      have valid := holds.at_receiver stands
      exact .enqueues { holds with receiver := trivial } rfl rfl valid
  | flushEnd window =>
      simp only [clientStep, Option.ite_none_right_eq_some,
        Option.some.injEq, Prod.mk.injEq] at moves
      obtain ⟨-, rfl, rfl⟩ := moves
      exact .quiet { holds with receiver := trivial } rfl rfl
  | retransmitCount info =>
      simp only [clientStep, Option.ite_none_right_eq_some] at moves
      obtain ⟨⟨-, -, present⟩, moves⟩ := moves
      have counted (other : SendPacketInfo Payload)
          (member : other ∈
            { info with
              retransmissionCount := info.retransmissionCount + 1 } ::
              client.sendPacketInfoMap.erase info) :
          ValidFrame client.sent other.frame := by
        rcases List.mem_cons.mp member with rfl | old
        · exact holds.map info present
        · exact holds.map other (List.mem_of_mem_erase old)
      split at moves
      · simp only [Option.some.injEq, Prod.mk.injEq] at moves
        obtain ⟨rfl, rfl⟩ := moves
        exact .quiet { holds with map := counted } rfl rfl
      · simp only [Option.some.injEq, Prod.mk.injEq] at moves
        obtain ⟨rfl, rfl⟩ := moves
        refine .quiet
          { holds with
            map := counted
            retransmission := fun frame slot => ?_ } rfl rfl
        obtain rfl := Option.some.inj slot
        exact holds.map info present
  | retransmitEnqueue frame =>
      simp only [clientStep, Option.ite_none_right_eq_some,
        Option.some.injEq, Prod.mk.injEq] at moves
      obtain ⟨slot, rfl, rfl⟩ := moves
      exact .enqueues { holds with retransmission := by simp } rfl rfl
        (holds.retransmission frame slot)

/-- The delivery of a reply enqueues nothing and is about that reply. -/
theorem onSendReply_outcome
    {maximum : Nat}
    {client next : Client Payload}
    {enqueued : List (ClientFrame Payload)}
    {reply : SendReply}
    (moves :
      clientStep maximum client (.onSendReply reply) = some (next, enqueued)) :
    enqueued = [] ∧
      ∀ packetSequence, next.receiver = .windowStored packetSequence →
        packetSequence = reply.packetSequence := by
  simp only [clientStep, Option.ite_none_right_eq_some] at moves
  obtain ⟨idle, moves⟩ := moves
  split at moves
  · simp only [Option.some.injEq, Prod.mk.injEq] at moves
    obtain ⟨rfl, rfl⟩ := moves
    exact ⟨rfl, by simp [idle]⟩
  · simp only [Option.some.injEq, Prod.mk.injEq] at moves
    obtain ⟨rfl, rfl⟩ := moves
    refine ⟨rfl, fun packetSequence stored => ?_⟩
    injection stored with same
    exact same.symm

/-- Only the delivery of a reply stores a window. -/
theorem receiver_of_ownStep
    {maximum : Nat}
    {client next : Client Payload}
    {enqueued : List (ClientFrame Payload)}
    {label : ClientLabel Payload}
    (own : isOwnStep label = true)
    (moves : clientStep maximum client label = some (next, enqueued))
    {packetSequence : PacketSequence}
    (stored : next.receiver = .windowStored packetSequence) :
    client.receiver = .windowStored packetSequence := by
  cases label with
  | onSendReply reply => exact absurd own (by simp [isOwnStep])
  | allocate call payload | loadWindow call frame
  | compareOutstanding call frame window | pushPending call frame
  | register call frame | registerFails call frame | enqueue call frame
  | retransmitEnqueue frame =>
      simp only [clientStep, Option.ite_none_right_eq_some,
        Option.some.injEq, Prod.mk.injEq] at moves
      obtain ⟨-, rfl, -⟩ := moves
      exact stored
  | eraseAcked erased | flushPop frame window | flushRegister frame window
  | flushRegisterFails frame window | flushEnqueue frame window
  | flushEnd window =>
      simp only [clientStep, Option.ite_none_right_eq_some,
        Option.some.injEq, Prod.mk.injEq] at moves
      obtain ⟨-, rfl, -⟩ := moves
      exact absurd stored (by simp)
  | flushBegin =>
      simp only [clientStep, Option.ite_none_right_eq_some,
        Option.some.injEq, Prod.mk.injEq] at moves
      obtain ⟨-, rfl, -⟩ := moves
      simp only at stored
      split at stored <;> exact absurd stored (by simp)
  | retransmitCount info =>
      simp only [clientStep, Option.ite_none_right_eq_some] at moves
      obtain ⟨-, moves⟩ := moves
      split at moves <;>
        (simp only [Option.some.injEq, Prod.mk.injEq] at moves
         obtain ⟨rfl, -⟩ := moves
         exact stored)

end ClientStep

end SendPath
end MultiSocketRudp
