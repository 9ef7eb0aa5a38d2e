import MultiSocketRudp.Client.HoldingQueue
import MultiSocketRudp.Lib.TransitionSystem
import MultiSocketRudp.Server.Retransmission

/-!
# Packets from the session to its client

The session sends data and heartbeat packets, several of them in one datagram,
and sends them again until it receives a reply.  The client queues every packet,
replies at once and passes the packets on in order when the application asks for
them.  The network may lose and duplicate datagrams and replies and deliver them
in any order, but it does not forge them.

The session is the one with all its threads, of which only those steps are
replaced that depend on what a packet holds or on what the client has sent.
-/

namespace MultiSocketRudp
namespace ServerToClient

open HoldingQueue InOrderDelivery Retransmission TransitionSystems

/-- Both ends and what is between them, together with what has happened. -/
structure State (Payload : Type) where
  server : Retransmission.State
  /-- Data and heartbeat packets, in the order of their ordinals. -/
  sent : List (RecvPacketInfo Payload)
  /-- Packets in the datagram under construction. -/
  stream : List (RecvPacketInfo Payload)
  toClient : List (List (RecvPacketInfo Payload))
  /-- Packets of the datagram that the receive thread has still to process. -/
  received : List (RecvPacketInfo Payload)
  /-- The sequence that the receive thread is about to reply to. -/
  replying : Option PacketSequence
  recvPacketHoldingQueue : List (RecvPacketInfo Payload)
  nextRecvPacketSequence : PacketSequence
  /-- Replies on their way, by their sequence. -/
  toServer : List PacketSequence
  /-- Everything that was put into the receive queue. -/
  arrived : List (RecvPacketInfo Payload)
  /-- What `GetReceivedPacket` has returned, earliest first. -/
  returned : List (RecvPacketInfo Payload)
  /-- Sequences that `OnSendReply` has removed from `sendPacketInfoMap`. -/
  removed : List PacketSequence

/-- The atomic steps. -/
inductive Label (Payload : Type)
  /-- The session takes a sequence for a data or heartbeat packet. -/
  | takeSequence (useSize : Nat) (packetType : PacketType) (buffer : Payload)
  /-- Any other step of the session that is not made for a reply. -/
  | server (label : Retransmission.Label)
  /-- A datagram reaches the client. -/
  | deliver (datagram : List (RecvPacketInfo Payload))
  /-- `ProcessRecvPacket` queues the next packet of the datagram. -/
  | processRecvPacket
  /-- It replies, unless `ShouldSendReplyToServer` says no. -/
  | sendReply (shouldSendReply : Bool)
  | getReceivedPacket
  /-- A reply reaches the session. -/
  | onSendReply (packetSequence : PacketSequence)
  | loseDatagram (datagram : List (RecvPacketInfo Payload))
  | duplicateDatagram (datagram : List (RecvPacketInfo Payload))
  | loseReply (packetSequence : PacketSequence)
  | duplicateReply (packetSequence : PacketSequence)

/-- The session makes the step without looking at packets or replies. -/
def isOwnStep : Retransmission.Label → Bool
  | .takeSequence _ | .ackErase _ _ => false
  | _ => true

variable {Payload : Type}

namespace State

/-- The content of a packet that is written into a datagram. -/
def contentOf
    (sent : List (RecvPacketInfo Payload))
    (transmission : Transmission) : Option (RecvPacketInfo Payload) :=
  match transmission.item.packet with
  | .data (ordinal + 1) => sent[ordinal]?
  | _ => none

/-- The packets that a step of the session has written. -/
def written
    (state : State Payload)
    (server : Retransmission.State) : List (RecvPacketInfo Payload) :=
  (server.transmissions.take
    (server.transmissions.length - state.server.transmissions.length)).filterMap
      (contentOf state.sent)

/-- The datagram under construction after a step of the session: a new one is
begun when the queue is measured, and a datagram that is sent leaves it. -/
def afterServer
    (state : State Payload)
    (label : Retransmission.Label)
    (server : Retransmission.State) : State Payload :=
  match label with
  | .measureQueue _ => { state with server, stream := [] }
  | .tryRioSend _ _ true =>
      { state with
        server
        stream := []
        toClient := state.stream :: state.toClient }
  | _ => { state with server, stream := state.stream ++ state.written server }

/-- `OnSendReply` on the server, up to the removal from the map. -/
def onSendReply
    (maxPacketRetransmissionCount : Nat)
    (state : State Payload)
    (packetSequence : PacketSequence) : Option (State Payload) :=
  if state.server.lastSendPacketSequence < packetSequence then some state
  else
    match state.server.sendPacketInfoMap packetSequence with
    | none => some state
    | some ordinal =>
        (Retransmission.step maxPacketRetransmissionCount state.server
          (.ackErase packetSequence ordinal)).map fun server =>
            { state with server, removed := packetSequence :: state.removed }

end State

/-- One atomic step. -/
def step
    [DecidableEq Payload]
    (maxPacketRetransmissionCount : Nat) (state : State Payload) :
    Label Payload → Option (State Payload)
  | .takeSequence useSize packetType buffer =>
      if packetType = .sendType ∨ packetType = .heartbeatType then
        (Retransmission.step maxPacketRetransmissionCount state.server
          (.takeSequence useSize)).map fun server =>
            { state with
              server
              sent := state.sent ++
                [⟨buffer, server.lastSendPacketSequence, packetType⟩] }
      else none
  | .server label =>
      if isOwnStep label then
        (Retransmission.step maxPacketRetransmissionCount state.server
          label).map (state.afterServer label)
      else none
  | .deliver datagram =>
      if datagram ∈ state.toClient ∧ state.received = [] ∧
          state.replying = none then
        some
          { state with
            toClient := state.toClient.erase datagram
            received := datagram }
      else none
  | .processRecvPacket =>
      match state.replying, state.received with
      | none, info :: received =>
          some
            { state with
              received
              replying := some info.packetSequence
              recvPacketHoldingQueue :=
                emplace info state.recvPacketHoldingQueue
              arrived := info :: state.arrived }
      | _, _ => none
  | .sendReply shouldSendReply =>
      state.replying.map fun packetSequence =>
        { state with
          replying := none
          toServer :=
            if shouldSendReply then packetSequence :: state.toServer
            else state.toServer }
  | .getReceivedPacket =>
      let result :=
        getReceivedPacket state.recvPacketHoldingQueue
          state.nextRecvPacketSequence
      some
        { state with
          recvPacketHoldingQueue := result.2.1
          nextRecvPacketSequence := result.2.2
          returned := state.returned ++ result.1.toList }
  | .onSendReply packetSequence =>
      if packetSequence ∈ state.toServer ∧ state.server.acking = none then
        State.onSendReply maxPacketRetransmissionCount
          { state with toServer := state.toServer.erase packetSequence }
          packetSequence
      else none
  | .loseDatagram datagram =>
      if datagram ∈ state.toClient then
        some { state with toClient := state.toClient.erase datagram }
      else none
  | .duplicateDatagram datagram =>
      if datagram ∈ state.toClient then
        some { state with toClient := datagram :: state.toClient }
      else none
  | .loseReply packetSequence =>
      if packetSequence ∈ state.toServer then
        some { state with toServer := state.toServer.erase packetSequence }
      else none
  | .duplicateReply packetSequence =>
      if packetSequence ∈ state.toServer then
        some { state with toServer := packetSequence :: state.toServer }
      else none

/-- The session has been connected and nothing has been sent. -/
def initial : State Payload where
  server := Retransmission.initial
  sent := []
  stream := []
  toClient := []
  received := []
  replying := none
  recvPacketHoldingQueue := []
  nextRecvPacketSequence := 1
  toServer := []
  arrived := []
  returned := []
  removed := []

/-- The runs of a session and its client. -/
def system
    [DecidableEq Payload]
    (maxPacketRetransmissionCount : Nat) :
    TransitionSystem (State Payload) (Label Payload) where
  Initial state := state = initial
  step := step maxPacketRetransmissionCount

/-- Every sequence is below `2 ^ 64 - 1`. -/
def SequencesBelowMax
    (state : State Payload) (label : Label Payload) : Prop :=
  match label with
  | .takeSequence _ _ _ => state.server.sequencesTaken + 1 < 2 ^ 64 - 1
  | _ => True

instance (state : State Payload) (label : Label Payload) :
    Decidable (SequencesBelowMax state label) :=
  match label with
  | .takeSequence _ _ _ => Nat.decLt _ _
  | .server _ | .deliver _ | .processRecvPacket | .sendReply _
  | .getReceivedPacket | .onSendReply _ | .loseDatagram _
  | .duplicateDatagram _ | .loseReply _ | .duplicateReply _ =>
      .isTrue trivial

/-! ## What the protocol promises -/

/-- The data packets among some packets. -/
def sendTypes
    (packets : List (RecvPacketInfo Payload)) :
    List (RecvPacketInfo Payload) :=
  packets.filter fun info => info.packetType = .sendType

/-- All sequences from 1 up to a bound have arrived. -/
def ArrivedUpTo (state : State Payload) (bound : Nat) : Prop :=
  ∀ place, 1 ≤ place → place ≤ bound →
    ∃ info ∈ state.arrived, info.position = place

/-- The promise of the protocol towards the client. -/
structure Reliable (state : State Payload) : Prop where
  /-- The packets of the session are numbered from 1. -/
  numbered :
    state.sent.map RecvPacketInfo.position = List.range' 1 state.sent.length
  /-- What the session has dropped was in the receive queue. -/
  removed : ∀ packetSequence ∈ state.removed,
    ∃ info ∈ state.arrived, info.packetSequence = packetSequence
  /-- The returned packets are the data packets before the next sequence, each
  once and in their order. -/
  returned :
    state.returned =
      sendTypes (state.sent.take (state.nextRecvPacketSequence.toNat - 1))
  increasing : state.returned.Pairwise fun first second =>
    first.position < second.position
  /-- Before a returned packet everything has arrived. -/
  preceded : ∀ info ∈ state.returned, ArrivedUpTo state info.position
  /-- When a call returns nothing, the data packets up to the first missing one
  have been returned. -/
  complete : ∀ bound, ArrivedUpTo state bound →
    (getReceivedPacket state.recvPacketHoldingQueue
      state.nextRecvPacketSequence).1 = none →
    ∀ info ∈ sendTypes state.sent, info.position ≤ bound →
      info ∈ state.returned
  /-- Repeated calls come to that. -/
  drained : ∀ bound, ArrivedUpTo state bound →
    ∀ info ∈ sendTypes state.sent, info.position ≤ bound →
      info ∈ state.returned ++
        (receiveAll state.recvPacketHoldingQueue
          state.nextRecvPacketSequence).1

/-! ## The invariant -/

/-- A packet with this sequence has been put into the receive queue. -/
def HasArrived
    (state : State Payload) (packetSequence : PacketSequence) : Prop :=
  ∃ info ∈ state.arrived, info.packetSequence = packetSequence

/-- Everything in flight comes from the session, and replies answer what has
arrived. -/
structure Invariant (state : State Payload) : Prop where
  count : state.server.sequencesTaken = state.sent.length
  small : state.sent.length < 2 ^ 64 - 1
  numbered : InOrder RecvPacketInfo.position state.sent state.sent
  types : ∀ info ∈ state.sent,
    info.packetType = .sendType ∨ info.packetType = .heartbeatType
  stream : ∀ info ∈ state.stream, info ∈ state.sent
  toClient : ∀ datagram ∈ state.toClient, ∀ info ∈ datagram,
    info ∈ state.sent
  received : ∀ info ∈ state.received, info ∈ state.sent
  arrived : ∀ info ∈ state.arrived, info ∈ state.sent
  replying : ∀ packetSequence, state.replying = some packetSequence →
    HasArrived state packetSequence
  toServer : ∀ packetSequence ∈ state.toServer,
    HasArrived state packetSequence
  removed : ∀ packetSequence ∈ state.removed,
    HasArrived state packetSequence
  queue : ∃ passed,
    Holds state.arrived passed state.recvPacketHoldingQueue
      state.nextRecvPacketSequence ∧
    state.returned = passed.filter RecvPacketInfo.isData

/-! ## The number of sequences -/

section sequencesTaken

open Retransmission.State

variable
  (server : Retransmission.State) (caller : Caller) (item : QueueItem)
  (reserved : Bool) (locals : StreamLocals)

theorem sequencesTaken_insertSendPacketInfo (packet : PacketRef) :
    (server.insertSendPacketInfo packet).sequencesTaken =
      server.sequencesTaken := by
  cases packet <;> rfl

theorem sequencesTaken_eraseSendPacketInfo (packet : PacketRef) :
    (server.eraseSendPacketInfo packet).sequencesTaken =
      server.sequencesTaken := by
  cases packet <;> rfl

theorem sequencesTaken_beginRefresh :
    (server.beginRefresh caller item reserved locals).sequencesTaken =
      server.sequencesTaken := by
  unfold beginRefresh
  split
  · rfl
  · split <;> rfl

theorem sequencesTaken_finishRefresh (deadline : Nat) :
    (server.finishRefresh caller item reserved locals
      deadline).sequencesTaken = server.sequencesTaken := by
  unfold finishRefresh
  split
  · rfl
  · dsimp only
    split <;> rfl

theorem sequencesTaken_checkTaken :
    (server.checkTaken caller item reserved locals).sequencesTaken =
      server.sequencesTaken := by
  have refreshed :=
    sequencesTaken_beginRefresh server caller item reserved locals
  unfold checkTaken
  dsimp only
  repeat' split
  all_goals first | rfl | exact refreshed

theorem sequencesTaken_takeReserved (bufferCount : Nat) :
    (server.takeReserved caller bufferCount).sequencesTaken =
      server.sequencesTaken := by
  unfold takeReserved
  dsimp only
  split <;> rfl

theorem sequencesTaken_popQueue :
    (server.popQueue caller locals).sequencesTaken =
      server.sequencesTaken := by
  unfold popQueue
  split <;> rfl

theorem sequencesTaken_checkDue
    (maxPacketRetransmissionCount : Nat) (entry : HeapEntry) :
    (server.checkDue maxPacketRetransmissionCount entry).sequencesTaken =
      server.sequencesTaken := by
  unfold checkDue
  dsimp only
  split <;> rfl

end sequencesTaken

/-- Only `takeSequence` changes the number of sequences. -/
theorem sequencesTaken_step
    {maxPacketRetransmissionCount : Nat}
    {server next : Retransmission.State} {label : Retransmission.Label}
    (own : ∀ useSize, label ≠ .takeSequence useSize)
    (moves :
      Retransmission.step maxPacketRetransmissionCount server label =
        some next) :
    next.sequencesTaken = server.sequencesTaken := by
  cases label with
  | takeSequence useSize => exact absurd rfl (own useSize)
  | disconnect =>
      obtain rfl := Option.some.inj moves
      rfl
  | acquire caller =>
      simp only [Retransmission.step, Option.ite_none_right_eq_some] at moves
      obtain ⟨-, moves⟩ := moves
      split at moves <;> obtain rfl := Option.some.inj moves <;> rfl
  | tryRioSend caller length result =>
      cases result <;>
        simp only [Retransmission.step, Option.ite_none_right_eq_some,
          Option.some.injEq] at moves <;>
        obtain ⟨-, rfl⟩ := moves <;> rfl
  | insert packet =>
      simp only [Retransmission.step, Option.ite_none_right_eq_some,
        Option.some.injEq] at moves
      obtain ⟨-, rfl⟩ := moves
      exact sequencesTaken_insertSendPacketInfo server packet
  | eraseFromMap packet =>
      simp only [Retransmission.step, Option.ite_none_right_eq_some,
        Option.some.injEq] at moves
      obtain ⟨-, rfl⟩ := moves
      exact sequencesTaken_eraseSendPacketInfo server packet
  | takeReserved caller bufferCount =>
      simp only [Retransmission.step, Option.ite_none_right_eq_some,
        Option.some.injEq] at moves
      obtain ⟨-, rfl⟩ := moves
      exact sequencesTaken_takeReserved server caller bufferCount
  | checkTaken caller item reserved locals =>
      simp only [Retransmission.step, Option.ite_none_right_eq_some,
        Option.some.injEq] at moves
      obtain ⟨-, rfl⟩ := moves
      exact sequencesTaken_checkTaken server caller item reserved locals
  | finishRefresh caller item reserved locals deadline =>
      simp only [Retransmission.step, Option.ite_none_right_eq_some,
        Option.some.injEq] at moves
      obtain ⟨-, rfl⟩ := moves
      exact sequencesTaken_finishRefresh server caller item reserved locals
        deadline
  | popQueue caller locals =>
      simp only [Retransmission.step, Option.ite_none_right_eq_some,
        Option.some.injEq] at moves
      obtain ⟨-, rfl⟩ := moves
      exact sequencesTaken_popQueue server caller locals
  | checkDue entry =>
      simp only [Retransmission.step, Option.ite_none_right_eq_some,
        Option.some.injEq] at moves
      obtain ⟨-, rfl⟩ := moves
      exact sequencesTaken_checkDue server maxPacketRetransmissionCount entry
  | _ =>
      simp only [Retransmission.step, Option.ite_none_right_eq_some,
        Option.some.injEq] at moves
      obtain ⟨-, rfl⟩ := moves
      rfl

/-! ## Steps keep the invariant -/

namespace Invariant

variable {state next : State Payload}

theorem initial : Invariant (ServerToClient.initial : State Payload) where
  count := rfl
  small := by
    change 0 < 2 ^ 64 - 1
    decide
  numbered := .empty
  types _ member := nomatch member
  stream _ member := nomatch member
  toClient _ member := nomatch member
  received _ member := nomatch member
  arrived _ member := nomatch member
  replying _ waits := nomatch waits
  toServer _ member := nomatch member
  removed _ member := nomatch member
  queue := ⟨[], .initial, rfl⟩

/-- The session takes the next sequence for a packet. -/
theorem takeSequence
    (holds : Invariant state)
    {packetType : PacketType} (buffer : Payload)
    (type : packetType = .sendType ∨ packetType = .heartbeatType)
    (below : state.server.sequencesTaken + 1 < 2 ^ 64 - 1)
    {server : Retransmission.State}
    (taken : server.sequencesTaken = state.server.sequencesTaken + 1) :
    Invariant
      { state with
        server
        sent := state.sent ++
          [⟨buffer, server.lastSendPacketSequence, packetType⟩] } := by
  have position :
      server.lastSendPacketSequence.toNat = state.sent.length + 1 := by
    rw [Retransmission.State.lastSendPacketSequence, taken,
      BitVec.toNat_ofNat, holds.count]
    have := holds.count
    omega
  have grows : ∀ info ∈ state.sent, info ∈ state.sent ++
      [⟨buffer, server.lastSendPacketSequence, packetType⟩] :=
    fun info member => List.mem_append_left _ member
  exact
    { holds with
      count := by rw [taken, holds.count, List.length_append]; rfl
      small := by
        rw [List.length_append, ← holds.count]
        exact below
      numbered := (holds.numbered.mono grows).pass
        (List.mem_append_right _ (List.mem_singleton_self _)) position
      types := by
        intro info member
        rcases List.mem_append.mp member with old | new
        · exact holds.types info old
        · rw [List.mem_singleton.mp new]
          exact type
      stream := fun info member => grows info (holds.stream info member)
      toClient := fun datagram inFlight info member =>
        grows info (holds.toClient datagram inFlight info member)
      received := fun info member => grows info (holds.received info member)
      arrived := fun info member => grows info (holds.arrived info member) }

/-- What the session writes are its packets. -/
theorem mem_sent_of_mem_written
    (state : State Payload)
    {server : Retransmission.State} {info : RecvPacketInfo Payload}
    (member : info ∈ state.written server) :
    info ∈ state.sent := by
  obtain ⟨transmission, -, content⟩ := List.mem_filterMap.mp member
  unfold State.contentOf at content
  split at content
  · exact List.mem_of_getElem? content
  · cases content

/-- The session moves on. -/
theorem afterServer
    (holds : Invariant state)
    (label : Retransmission.Label)
    {server : Retransmission.State}
    (same : server.sequencesTaken = state.server.sequencesTaken) :
    Invariant (state.afterServer label server) := by
  have count : server.sequencesTaken = state.sent.length :=
    same.trans holds.count
  unfold State.afterServer
  split
  · exact { holds with count, stream := fun _ member => nomatch member }
  · refine
      { holds with
        count
        stream := fun _ member => nomatch member
        toClient := ?_ }
    intro datagram inFlight
    rcases List.mem_cons.mp inFlight with rfl | old
    · exact holds.stream
    · exact holds.toClient datagram old
  · refine { holds with count, stream := ?_ }
    intro info member
    rcases List.mem_append.mp member with old | new
    · exact holds.stream info old
    · exact mem_sent_of_mem_written state new

/-- The receive thread queues a packet. -/
theorem processRecvPacket
    (holds : Invariant state)
    {info : RecvPacketInfo Payload} {received : List (RecvPacketInfo Payload)}
    (stands : state.received = info :: received) :
    Invariant
      { state with
        received
        replying := some info.packetSequence
        recvPacketHoldingQueue := emplace info state.recvPacketHoldingQueue
        arrived := info :: state.arrived } := by
  have before : ∀ other ∈ info :: received, other ∈ state.sent :=
    stands ▸ holds.received
  have grows : ∀ packetSequence, HasArrived state packetSequence →
      ∃ other ∈ info :: state.arrived,
        other.packetSequence = packetSequence :=
    fun _ ⟨other, member, same⟩ => ⟨other, List.mem_cons_of_mem _ member, same⟩
  obtain ⟨passed, queue, returned⟩ := holds.queue
  exact
    { holds with
      received := fun other member =>
        before other (List.mem_cons_of_mem _ member)
      arrived := by
        intro other member
        rcases List.mem_cons.mp member with rfl | old
        · exact before _ List.mem_cons_self
        · exact holds.arrived other old
      replying := by
        rintro _ ⟨⟩
        exact ⟨info, List.mem_cons_self, rfl⟩
      toServer := fun packetSequence member =>
        grows packetSequence (holds.toServer packetSequence member)
      removed := fun packetSequence member =>
        grows packetSequence (holds.removed packetSequence member)
      queue := ⟨passed, queue.emplace info, returned⟩ }

/-- What has arrived has a small sequence. -/
theorem arrived_small
    (holds : Invariant state)
    {info : RecvPacketInfo Payload}
    (member : info ∈ state.arrived) :
    info.packetSequence.toNat < 2 ^ 64 - 1 :=
  Nat.lt_of_le_of_lt
    (holds.numbered.position_bounds (holds.arrived info member)).2 holds.small

/-- The application asks for a packet. -/
theorem getReceivedPacket
    (holds : Invariant state) :
    Invariant
      { state with
        recvPacketHoldingQueue :=
          (HoldingQueue.getReceivedPacket state.recvPacketHoldingQueue
            state.nextRecvPacketSequence).2.1
        nextRecvPacketSequence :=
          (HoldingQueue.getReceivedPacket state.recvPacketHoldingQueue
            state.nextRecvPacketSequence).2.2
        returned := state.returned ++
          (HoldingQueue.getReceivedPacket state.recvPacketHoldingQueue
            state.nextRecvPacketSequence).1.toList } := by
  obtain ⟨passed, queue, returned⟩ := holds.queue
  obtain ⟨more, later, returnedMore, -⟩ :=
    queue.getReceivedPacket fun _ => holds.arrived_small
  refine { holds with queue := ⟨passed ++ more, later, ?_⟩ }
  rw [List.filter_append, returnedMore, returned]

/-- A reply reaches the session. -/
theorem onSendReply
    {maxPacketRetransmissionCount : Nat}
    (holds : Invariant state)
    {packetSequence : PacketSequence}
    (arrives : HasArrived state packetSequence)
    (moves :
      State.onSendReply maxPacketRetransmissionCount state packetSequence =
        some next) :
    Invariant next := by
  unfold State.onSendReply at moves
  split at moves
  · obtain rfl := Option.some.inj moves
    exact holds
  · split at moves
    · obtain rfl := Option.some.inj moves
      exact holds
    · obtain ⟨server, erases, rfl⟩ := Option.map_eq_some_iff.mp moves
      have same := sequencesTaken_step (by nofun) erases
      refine { holds with count := same.trans holds.count, removed := ?_ }
      intro other member
      rcases List.mem_cons.mp member with rfl | old
      · exact arrives
      · exact holds.removed other old

/-- Every step keeps the invariant. -/
theorem step
    [DecidableEq Payload]
    {maxPacketRetransmissionCount : Nat} {label : Label Payload}
    (holds : Invariant state)
    (below : SequencesBelowMax state label)
    (moves :
      ServerToClient.step maxPacketRetransmissionCount state label =
        some next) :
    Invariant next := by
  cases label with
  | takeSequence useSize packetType buffer =>
      simp only [ServerToClient.step, Option.ite_none_right_eq_some,
        Option.map_eq_some_iff] at moves
      obtain ⟨type, server, takes, rfl⟩ := moves
      refine holds.takeSequence buffer type below ?_
      obtain rfl := Option.some.inj takes
      rfl
  | server label =>
      simp only [ServerToClient.step, Option.ite_none_right_eq_some,
        Option.map_eq_some_iff] at moves
      obtain ⟨own, server, moves, rfl⟩ := moves
      refine holds.afterServer label (sequencesTaken_step ?_ moves)
      rintro useSize rfl
      cases own
  | deliver datagram =>
      simp only [ServerToClient.step, Option.ite_none_right_eq_some,
        Option.some.injEq] at moves
      obtain ⟨⟨inFlight, -, -⟩, rfl⟩ := moves
      exact
        { holds with
          toClient := fun other member =>
            holds.toClient other (List.mem_of_mem_erase member)
          received := holds.toClient datagram inFlight }
  | processRecvPacket =>
      simp only [ServerToClient.step] at moves
      split at moves
      · next info received _ stands =>
          obtain rfl := Option.some.inj moves
          exact holds.processRecvPacket stands
      · cases moves
  | sendReply shouldSendReply =>
      obtain ⟨packetSequence, waits, rfl⟩ := Option.map_eq_some_iff.mp moves
      refine { holds with replying := by simp, toServer := ?_ }
      intro other member
      dsimp only at member
      split at member
      · rcases List.mem_cons.mp member with rfl | old
        · exact holds.replying _ waits
        · exact holds.toServer other old
      · exact holds.toServer other member
  | getReceivedPacket =>
      obtain rfl := Option.some.inj moves
      exact holds.getReceivedPacket
  | onSendReply packetSequence =>
      obtain ⟨⟨inFlight, -⟩, moves⟩ := Option.ite_none_right_eq_some.mp moves
      have consumed : Invariant
          { state with toServer := state.toServer.erase packetSequence } :=
        { holds with
          toServer := fun other member =>
            holds.toServer other (List.mem_of_mem_erase member) }
      exact consumed.onSendReply (holds.toServer _ inFlight) moves
  | loseDatagram datagram =>
      obtain ⟨-, moves⟩ := Option.ite_none_right_eq_some.mp moves
      obtain rfl := Option.some.inj moves
      exact
        { holds with
          toClient := fun other member =>
            holds.toClient other (List.mem_of_mem_erase member) }
  | duplicateDatagram datagram =>
      obtain ⟨inFlight, moves⟩ := Option.ite_none_right_eq_some.mp moves
      obtain rfl := Option.some.inj moves
      refine { holds with toClient := fun other member => ?_ }
      rcases List.mem_cons.mp member with rfl | old
      · exact holds.toClient _ inFlight
      · exact holds.toClient other old
  | loseReply packetSequence =>
      obtain ⟨-, moves⟩ := Option.ite_none_right_eq_some.mp moves
      obtain rfl := Option.some.inj moves
      exact
        { holds with
          toServer := fun other member =>
            holds.toServer other (List.mem_of_mem_erase member) }
  | duplicateReply packetSequence =>
      obtain ⟨inFlight, moves⟩ := Option.ite_none_right_eq_some.mp moves
      obtain rfl := Option.some.inj moves
      refine { holds with toServer := fun other member => ?_ }
      rcases List.mem_cons.mp member with rfl | old
      · exact holds.toServer _ inFlight
      · exact holds.toServer other old

/-- The invariant holds in every state that the sequences allow. -/
theorem of_reachable
    [DecidableEq Payload]
    {maxPacketRetransmissionCount : Nat}
    (reached :
      (system maxPacketRetransmissionCount).GuardedReachable
        SequencesBelowMax state) :
    Invariant state := by
  refine reached.invariant ?_ ?_
  · rintro _ rfl
    exact initial
  · intro before label after _ holds below moves
    exact holds.step below moves

/-! ## The promise -/

/-- On the session's packets, what is not a heartbeat is data. -/
theorem filter_isData
    (holds : Invariant state)
    {packets : List (RecvPacketInfo Payload)}
    (member : ∀ info ∈ packets, info ∈ state.sent) :
    packets.filter RecvPacketInfo.isData = sendTypes packets := by
  refine List.filter_congr fun info inside => ?_
  rcases holds.types info (member info inside) with data | heartbeat
  · simp [RecvPacketInfo.isData, data]
  · simp [RecvPacketInfo.isData, heartbeat]

/-- The passed packets are the first ones of the session. -/
theorem passed_eq
    (holds : Invariant state)
    {passed : List (RecvPacketInfo Payload)}
    (inOrder : InOrder RecvPacketInfo.position state.arrived passed) :
    passed = state.sent.take passed.length := by
  have among := inOrder.mono holds.arrived
  have short : passed.length ≤ state.sent.length := by
    rcases Nat.eq_zero_or_pos passed.length with none | some
    · omega
    · obtain ⟨info, member, last⟩ := among.exists_position some le_rfl
      rw [← last]
      exact (holds.numbered.position_bounds (among.arrived info member)).2
  refine among.eq_of_length_eq holds.numbered.injOn
    (holds.numbered.take passed.length) ?_
  rw [List.length_take, Nat.min_eq_left short]

/-- A data packet up to a bound is passed as soon as everything up to there
is. -/
theorem mem_passed
    (holds : Invariant state)
    {passed : List (RecvPacketInfo Payload)}
    (inOrder : InOrder RecvPacketInfo.position state.arrived passed)
    {info : RecvPacketInfo Payload}
    (member : info ∈ sendTypes state.sent)
    (place : info.position ≤ passed.length) :
    info ∈ passed.filter RecvPacketInfo.isData := by
  have among := inOrder.mono holds.arrived
  obtain ⟨sent, data⟩ := List.mem_filter.mp member
  obtain ⟨other, passedOn, same⟩ :=
    among.exists_position (holds.numbered.position_bounds sent).1 place
  obtain rfl := holds.numbered.injOn (among.arrived other passedOn) sent same
  rw [holds.filter_isData among.arrived]
  exact List.mem_filter.mpr ⟨passedOn, data⟩

/-- The invariant gives the promise. -/
theorem reliable
    (holds : Invariant state) :
    Reliable state := by
  obtain ⟨passed, queue, returned⟩ := holds.queue
  have among := queue.inOrder.mono holds.arrived
  have small : ∀ info ∈ state.arrived,
      info.packetSequence.toNat < 2 ^ 64 - 1 :=
    fun _ => holds.arrived_small
  exact
    { numbered := holds.numbered.numbered
      removed := holds.removed
      returned := by
        rw [queue.next, Nat.add_sub_cancel, ← holds.passed_eq queue.inOrder,
          returned, holds.filter_isData among.arrived]
      increasing := by
        rw [returned]
        exact queue.inOrder.pairwise.filter _
      preceded := by
        intro info member place positive bound
        have inside : info ∈ passed :=
          List.mem_of_mem_filter (returned ▸ member)
        obtain ⟨earlier, passedOn, same⟩ :=
          queue.inOrder.exists_position positive
            (bound.trans (queue.inOrder.position_bounds inside).2)
        exact ⟨earlier, queue.inOrder.arrived earlier passedOn, same⟩
      complete := by
        intro bound complete nothing info member place
        obtain ⟨more, later, returnedMore, blocked⟩ :=
          queue.getReceivedPacket small
        have all := holds.mem_passed later.inOrder member
          (place.trans (InOrder.le_length_of_blocked (blocked nothing) complete))
        rw [List.filter_append, returnedMore, nothing] at all
        rw [returned]
        simpa using all
      drained := by
        intro bound complete info member place
        obtain ⟨more, later, returnedMore, blocked⟩ := queue.receiveAll small
        have all := holds.mem_passed later.inOrder member
          (place.trans (InOrder.le_length_of_blocked blocked complete))
        rwa [List.filter_append, returnedMore, ← returned] at all }

end Invariant

/-- In every run whose sequences stay below `2 ^ 64 - 1`, the session drops only
packets that have arrived, and the client returns the data packets in order and
each once, up to the first packet that is missing. -/
theorem reliable_to_client
    [DecidableEq Payload]
    {maxPacketRetransmissionCount : Nat} {state : State Payload}
    (reached :
      (system maxPacketRetransmissionCount).GuardedReachable
        SequencesBelowMax state) :
    Reliable state :=
  (Invariant.of_reachable reached).reliable

/-! ## An exchange -/

/-- The session sends a packet in a datagram of its own. -/
def sendAlone (ordinal : Nat) : List (Label Nat) :=
  let packet := PacketRef.data ordinal
  let caller := Caller.call packet
  let item : QueueItem := ⟨packet, none⟩
  let locals : StreamLocals := ⟨0, [], 0⟩
  [.insert packet, .testRelease packet, .push packet, .enterDoSend caller,
    .acquire caller, .ownerTest caller, .ownerLook caller,
    .measureQueue caller, .takeReserved caller 1,
    .popQueue caller ⟨1, [], 0⟩, .checkTaken caller item false locals,
    .finishRefresh caller item false locals 5,
    .popQueue caller ⟨0, [packet.key], 40⟩, .tryRioSend caller 40 true,
    .sendReturns packet true, .sendIoCompleted, .enterDoSend .completion,
    .acquire .completion, .ownerTest .completion, .ownerLook .completion,
    .releaseIoSending .completion .recheck, .recheck .completion,
    .completionReturns true].map Label.server

/-- The client processes a datagram of one packet and replies. -/
def receiveAlone (info : RecvPacketInfo Nat) : List (Label Nat) :=
  [.deliver [info], .processRecvPacket, .sendReply true, .getReceivedPacket]

/-- A heartbeat arrives before the data packet that was sent first, and once
more after it. -/
def exchange : List (Label Nat) :=
  let data : RecvPacketInfo Nat := ⟨7, 1, .sendType⟩
  let heartbeat : RecvPacketInfo Nat := ⟨0, 2, .heartbeatType⟩
  ([.takeSequence 40 .sendType 7] : List (Label Nat)) ++ sendAlone 1 ++
  ([.takeSequence 40 .heartbeatType 0] : List (Label Nat)) ++ sendAlone 2 ++
  ([.duplicateDatagram [heartbeat]] : List (Label Nat)) ++
  receiveAlone heartbeat ++
  ([.onSendReply 2, .server (.ackMark 2)] : List (Label Nat)) ++
  receiveAlone data ++ receiveAlone heartbeat ++
  ([.onSendReply 1] : List (Label Nat))

/-- The state after it. -/
def exchanged : State Nat :=
  ((system 10).run initial exchange).getD initial

set_option maxRecDepth 2000 in
theorem guardedRun_exchange :
    (system 10).guardedRun SequencesBelowMax initial exchange =
      some exchanged := rfl

example :
    exchanged.returned.map RecvPacketInfo.buffer = [7] ∧
      exchanged.removed = [1, 2] ∧ exchanged.nextRecvPacketSequence = 3 :=
  ⟨rfl, rfl, rfl⟩

theorem reliable_to_client_exchanged : Reliable exchanged :=
  reliable_to_client
    (TransitionSystem.GuardedReachable.guardedRun (.initial rfl)
      guardedRun_exchange)

end ServerToClient
end MultiSocketRudp
