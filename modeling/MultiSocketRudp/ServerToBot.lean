import MultiSocketRudp.BotTester.ReceivePacketOrderer
import MultiSocketRudp.Contents.Player
import MultiSocketRudp.ServerToClient

/-!
# Packets from the session to a bot

The bot tester replies to a packet before its orderer has seen it.  What the
orderer passes on goes through a channel to the task that calls `OnRecvPacket`,
except that the answer to a ping takes a short cut while round trips are being
measured.

The session and the network are those of `ServerToClient`: towards them a bot is
a client whose application asks for nothing.  `Cleanup` runs beside the receive
task: it closes the channel, takes away the key and empties the orderer, in this
order.
-/

namespace MultiSocketRudp
namespace ServerToBot

open BotTester Contents HoldingQueue InOrderDelivery Retransmission
open TransitionSystems

/-- Where the receive task stands. -/
inductive Receiver (Buffer : Type)
  /-- In the loop over `packetsToProcess`; behind its end the next packet of the
  datagram is decoded. -/
  | queueing (packetsToProcess : List (HeldPacket Buffer))
  /-- In `SendReplyToServerAsync`. -/
  | replying (info : RecvPacketInfo (Message Buffer))
  /-- About to call `CollectPacketsToProcess`. -/
  | collecting (info : RecvPacketInfo (Message Buffer))

/-- How far `Cleanup` has come. -/
inductive Cleanup
  | outside
  /-- The channel is completed. -/
  | completed
  /-- `AesGcm` is null. -/
  | disposed
  /-- The orderer is cleared. -/
  | cleared
  deriving DecidableEq, Repr

/-- `AesGcm` is not null. -/
def Cleanup.hasAesGcm : Cleanup → Bool
  | .outside | .completed => true
  | .disposed | .cleared => false

/-- Both ends and what is between them, together with what has happened. -/
structure State (Buffer : Type) where
  server : Retransmission.State
  /-- Data and heartbeat packets, in the order of their ordinals. -/
  sent : List (RecvPacketInfo (Message Buffer))
  /-- Packets in the datagram under construction. -/
  stream : List (RecvPacketInfo (Message Buffer))
  toClient : List (List (RecvPacketInfo (Message Buffer)))
  /-- Replies on their way, by their sequence. -/
  toServer : List PacketSequence
  /-- Sequences that `OnSendReply` has removed from `sendPacketInfoMap`. -/
  removed : List PacketSequence
  /-- Packets of the datagram that the receive task has still to process. -/
  received : List (RecvPacketInfo (Message Buffer))
  receiver : Receiver Buffer
  receivePacketOrderer : ReceivePacketOrderer Buffer
  isRttModeEnabled : Bool
  recvProcessingChannel : List (HeldPacket Buffer)
  cleanup : Cleanup
  /-- Packets that the receive task has decoded. -/
  decoded : List (RecvPacketInfo (Message Buffer))
  /-- Packets that were given to the orderer, earliest first. -/
  collected : List (HeldPacket Buffer)
  /-- Packets that `OnRecvPacket` was called with, earliest first. -/
  handled : List (HeldPacket Buffer)
  /-- Packets that `TryHandleRecvFastPath` has handled, earliest first. -/
  fastPath : List (HeldPacket Buffer)

/-- The atomic steps. -/
inductive Label (Buffer : Type)
  /-- The session or the network makes a step. -/
  | network (label : ServerToClient.Label (Message Buffer))
  /-- A datagram reaches the receive task. -/
  | receiveAsync (datagram : List (RecvPacketInfo (Message Buffer)))
  /-- The next packet of the datagram is decoded, if there is still a key. -/
  | decodePacket
  /-- The reply is sent, or sending it fails. -/
  | sendReply (sent : Bool)
  | collectPacketsToProcess
  /-- The next packet to process is queued or takes the short cut. -/
  | tryWrite
  /-- `PacketProcessorAsync` takes the next packet from the channel. -/
  | onRecvPacket
  | enableRttMode
  /-- `Cleanup` moves on. -/
  | cleanup

/-- The step is made by the session or the network. -/
def isNetworkStep {Payload : Type} : ServerToClient.Label Payload → Bool
  | .deliver _ | .processRecvPacket | .sendReply _ | .getReceivedPacket => false
  | _ => true

variable {Buffer : Type}

/-- What the receive task makes of a decoded packet.  Only a data packet has an
id. -/
def heldPacket (info : RecvPacketInfo (Message Buffer)) : HeldPacket Buffer where
  sequence := info.packetSequence
  packetId :=
    if info.packetType = .sendType then info.buffer.packetId
    else PacketIdType.invalidPacketId.toPacketId
  buffer := info.buffer.parameters
  packetType := info.packetType

/-- The packet that the receive task works on, before the orderer has it. -/
def Receiver.holds : Receiver Buffer → Option (RecvPacketInfo (Message Buffer))
  | .queueing _ => none
  | .replying info | .collecting info => some info

/-- The sequence that is about to be replied to. -/
def Receiver.replyingTo : Receiver Buffer → Option PacketSequence
  | .replying info => some info.packetSequence
  | .queueing _ | .collecting _ => none

/-- The packets that the orderer has passed on and that are still to be
processed. -/
def Receiver.packetsToProcess : Receiver Buffer → List (HeldPacket Buffer)
  | .queueing packets => packets
  | .replying _ | .collecting _ => []

namespace State

/-- The bot as a client of `ServerToClient`. -/
def asClient (state : State Buffer) :
    ServerToClient.State (Message Buffer) where
  server := state.server
  sent := state.sent
  stream := state.stream
  toClient := state.toClient
  received := state.received
  replying := state.receiver.replyingTo
  recvPacketHoldingQueue := state.decoded.foldr emplace []
  nextRecvPacketSequence := 1
  toServer := state.toServer
  arrived := state.decoded
  returned := []
  removed := state.removed

/-- The session and the network after a step of theirs. -/
def withNetwork
    (state : State Buffer)
    (next : ServerToClient.State (Message Buffer)) : State Buffer :=
  { state with
    server := next.server
    sent := next.sent
    stream := next.stream
    toClient := next.toClient
    toServer := next.toServer
    removed := next.removed }

/-- `TryHandleRecvFastPath` returns true. -/
def handlesFast (state : State Buffer) (packet : HeldPacket Buffer) : Bool :=
  state.isRttModeEnabled ∧ packet.packetId = PacketIdType.pong.toPacketId

/-- One round of the loop over `packetsToProcess`.  A completed channel takes
nothing. -/
def tryWrite (state : State Buffer) (packet : HeldPacket Buffer) :
    State Buffer :=
  if packet.packetType = .heartbeatType then state
  else if state.handlesFast packet then
    { state with fastPath := state.fastPath ++ [packet] }
  else if state.cleanup = .outside then
    { state with
      recvProcessingChannel := state.recvProcessingChannel ++ [packet] }
  else state

/-- The next step of `Cleanup`. -/
def nextCleanup (state : State Buffer) : Option (State Buffer) :=
  match state.cleanup with
  | .outside => some { state with cleanup := .completed }
  | .completed => some { state with cleanup := .disposed }
  | .disposed =>
      some
        { state with
          cleanup := .cleared
          receivePacketOrderer := .create }
  | .cleared => none

end State

/-- One atomic step. -/
def step
    [DecidableEq Buffer]
    (maxPacketRetransmissionCount : Nat) (state : State Buffer) :
    Label Buffer → Option (State Buffer)
  | .network label =>
      if isNetworkStep label then
        (ServerToClient.step maxPacketRetransmissionCount state.asClient
          label).map state.withNetwork
      else none
  | .receiveAsync datagram =>
      match state.receiver with
      | .queueing [] =>
          if datagram ∈ state.toClient ∧ state.received = [] then
            some
              { state with
                toClient := state.toClient.erase datagram
                received := datagram }
          else none
      | _ => none
  | .decodePacket =>
      match state.receiver, state.received with
      | .queueing [], info :: received =>
          if state.cleanup.hasAesGcm then
            some
              { state with
                received
                receiver := .replying info
                decoded := info :: state.decoded }
          else some { state with received }
      | _, _ => none
  | .sendReply sent =>
      match state.receiver with
      | .replying info =>
          some
            { state with
              receiver := .collecting info
              toServer :=
                if sent && state.cleanup.hasAesGcm then
                  info.packetSequence :: state.toServer
                else state.toServer }
      | _ => none
  | .collectPacketsToProcess =>
      match state.receiver with
      | .collecting info =>
          let result := state.receivePacketOrderer.collect (heldPacket info)
          some
            { state with
              receiver := .queueing result.1
              receivePacketOrderer := result.2
              collected := state.collected ++ [heldPacket info] }
      | _ => none
  | .tryWrite =>
      match state.receiver with
      | .queueing (packet :: packets) =>
          some ({ state with receiver := .queueing packets }.tryWrite packet)
      | _ => none
  | .onRecvPacket =>
      match state.recvProcessingChannel with
      | packet :: recvProcessingChannel =>
          some
            { state with
              recvProcessingChannel
              handled := state.handled ++ [packet] }
      | [] => none
  | .enableRttMode => some { state with isRttModeEnabled := true }
  | .cleanup => state.nextCleanup

/-- The session has been connected and nothing has been sent. -/
def initial : State Buffer where
  server := Retransmission.initial
  sent := []
  stream := []
  toClient := []
  toServer := []
  removed := []
  received := []
  receiver := .queueing []
  receivePacketOrderer := .create
  isRttModeEnabled := false
  recvProcessingChannel := []
  cleanup := .outside
  decoded := []
  collected := []
  handled := []
  fastPath := []

/-- The runs of a session and its bot. -/
def system
    [DecidableEq Buffer]
    (maxPacketRetransmissionCount : Nat) :
    TransitionSystem (State Buffer) (Label Buffer) where
  Initial state := state = initial
  step := step maxPacketRetransmissionCount

/-- The step takes a new sequence. -/
def Label.takesSequence : Label Buffer → Bool
  | .network (.takeSequence _ _ _) => true
  | _ => false

/-- Every sequence is below `2 ^ 63`. -/
def SequencesBelowHalf (state : State Buffer) (label : Label Buffer) : Prop :=
  label.takesSequence = true → state.server.sequencesTaken + 1 < 2 ^ 63

instance (state : State Buffer) (label : Label Buffer) :
    Decidable (SequencesBelowHalf state label) :=
  inferInstanceAs
    (Decidable (label.takesSequence = true →
      state.server.sequencesTaken + 1 < 2 ^ 63))

/-! ## What the protocol promises -/

/-- The data packets among some packets, as the bot sees them. -/
def dataPackets
    (packets : List (RecvPacketInfo (Message Buffer))) :
    List (HeldPacket Buffer) :=
  (ServerToClient.sendTypes packets).map heldPacket

/-- All sequences from 1 up to a bound were given to the orderer. -/
def CollectedUpTo (state : State Buffer) (bound : Nat) : Prop :=
  ∀ place, 1 ≤ place → place ≤ bound →
    ∃ packet ∈ state.collected, packet.position = place

/-- The promise of the protocol towards a bot. -/
structure Reliable (state : State Buffer) : Prop where
  /-- The packets of the session are numbered from 1. -/
  numbered :
    state.sent.map RecvPacketInfo.position = List.range' 1 state.sent.length
  /-- What the session has dropped is with the orderer, or on its way there. -/
  removed : ∀ packetSequence ∈ state.removed,
    (∃ packet ∈ state.collected, packet.sequence = packetSequence) ∨
      ∃ info, state.receiver.holds = some info ∧
        info.packetSequence = packetSequence
  /-- `OnRecvPacket` gets data packets in their order and each once, also while
  the session is cleaned up. -/
  in_order :
    (state.handled ++ state.recvProcessingChannel).Sublist
      (dataPackets state.sent)
  increasing : (state.handled ++ state.recvProcessingChannel).Pairwise
    fun first second => first.position < second.position
  /-- So does the short cut, up to the clean-up. -/
  fast_in_order : state.cleanup = .outside →
    state.fastPath.Sublist (dataPackets state.sent)
  /-- Only answers to pings take it, and only when round trips are measured. -/
  fast_pong : ∀ packet ∈ state.fastPath,
    packet.packetId = PacketIdType.pong.toPacketId ∧
      state.isRttModeEnabled = true
  /-- Together they get the data packets that the orderer has passed on, except
  those that are still to be processed. -/
  exact : state.cleanup = .outside →
    (state.handled ++ state.recvProcessingChannel ++ state.fastPath ++
      state.receiver.packetsToProcess.filter fun packet =>
        packet.packetType = .sendType).Perm
      (dataPackets
        (state.sent.take state.receivePacketOrderer.expectedSequence.toNat))
  /-- The orderer passes on everything up to the first packet that is missing. -/
  complete : state.cleanup = .outside → ∀ bound,
    CollectedUpTo state bound →
      bound ≤ state.receivePacketOrderer.expectedSequence.toNat

/-! ## The invariant -/

/-- A packet that is not a heartbeat. -/
def isData (packet : HeldPacket Buffer) : Bool :=
  packet.packetType ≠ .heartbeatType

/-- What the orderer has passed on, of which a first part has been processed. -/
structure Passed
    (collected packetsToProcess calls shortCut : List (HeldPacket Buffer))
    (orderer : ReceivePacketOrderer Buffer) (cleanup : Cleanup)
    (processed : List (HeldPacket Buffer)) : Prop where
  follows : ReceivePacketOrderer.Follows collected
    (processed ++ packetsToProcess) orderer
  blocked : Blocked HeldPacket.position collected
    (processed ++ packetsToProcess)
  queued : calls.Sublist (processed.filter isData)
  fastPath : shortCut.Sublist (processed.filter isData)
  all : cleanup = .outside →
    (calls ++ shortCut).Perm (processed.filter isData)

/-- What was sent comes to the orderer once it is decoded, and from the orderer to
the channel or to the short cut. -/
structure Invariant (state : State Buffer) : Prop where
  client : ServerToClient.Invariant state.asClient
  small : state.sent.length < 2 ^ 63
  decoded : ∀ info ∈ state.decoded,
    heldPacket info ∈ state.collected ∨ state.receiver.holds = some info
  holding : ∀ info, state.receiver.holds = some info → info ∈ state.sent
  collected : ∀ packet ∈ state.collected, packet ∈ state.sent.map heldPacket
  queued : (state.handled ++ state.recvProcessingChannel).Sublist
    ((state.sent.map heldPacket).filter isData)
  fast_pong : ∀ packet ∈ state.fastPath,
    packet.packetId = PacketIdType.pong.toPacketId ∧
      state.isRttModeEnabled = true
  passed : state.cleanup ≠ .cleared →
    ∃ processed,
      Passed state.collected state.receiver.packetsToProcess
        (state.handled ++ state.recvProcessingChannel) state.fastPath
        state.receivePacketOrderer state.cleanup processed

/-- The next packet is processed. -/
theorem Passed.advance
    {collected packets calls shortCut processed : List (HeldPacket Buffer)}
    {packet : HeldPacket Buffer}
    {orderer : ReceivePacketOrderer Buffer} {cleanup : Cleanup}
    (holds :
      Passed collected (packet :: packets) calls shortCut orderer cleanup
        processed)
    {nextCalls nextShortCut : List (HeldPacket Buffer)}
    (queued : nextCalls.Sublist ((processed ++ [packet]).filter isData))
    (fastPath : nextShortCut.Sublist ((processed ++ [packet]).filter isData))
    (all : cleanup = .outside →
      (nextCalls ++ nextShortCut).Perm
        ((processed ++ [packet]).filter isData)) :
    Passed collected packets nextCalls nextShortCut orderer cleanup
      (processed ++ [packet]) where
  follows := by
    rw [List.append_assoc, List.singleton_append]
    exact holds.follows
  blocked := by
    rw [List.append_assoc, List.singleton_append]
    exact holds.blocked
  queued := queued
  fastPath := fastPath
  all := all

/-! ## The session and the network -/

section network

variable {Payload : Type}
variable {maxPacketRetransmissionCount : Nat}
variable {before after : ServerToClient.State Payload}
variable {label : ServerToClient.Label Payload}

/-- The session and the network leave the receive thread alone. -/
structure SameClient (before after : ServerToClient.State Payload) : Prop where
  received : after.received = before.received
  replying : after.replying = before.replying
  recvPacketHoldingQueue :
    after.recvPacketHoldingQueue = before.recvPacketHoldingQueue
  nextRecvPacketSequence :
    after.nextRecvPacketSequence = before.nextRecvPacketSequence
  arrived : after.arrived = before.arrived
  returned : after.returned = before.returned

theorem sameClient_afterServer
    (label : Retransmission.Label) (server : Retransmission.State) :
    SameClient before (before.afterServer label server) ∧
      (before.afterServer label server).sent = before.sent := by
  unfold ServerToClient.State.afterServer
  split <;> exact ⟨⟨rfl, rfl, rfl, rfl, rfl, rfl⟩, rfl⟩

theorem sameClient_onSendReply
    {packetSequence : PacketSequence}
    (moves :
      ServerToClient.State.onSendReply maxPacketRetransmissionCount before
        packetSequence = some after) :
    SameClient before after ∧ after.sent = before.sent := by
  unfold ServerToClient.State.onSendReply at moves
  split at moves
  · obtain rfl := Option.some.inj moves
    exact ⟨⟨rfl, rfl, rfl, rfl, rfl, rfl⟩, rfl⟩
  · split at moves
    · obtain rfl := Option.some.inj moves
      exact ⟨⟨rfl, rfl, rfl, rfl, rfl, rfl⟩, rfl⟩
    · obtain ⟨server, -, rfl⟩ := Option.map_eq_some_iff.mp moves
      exact ⟨⟨rfl, rfl, rfl, rfl, rfl, rfl⟩, rfl⟩

/-- A step of the session or the network changes nothing at the client, and sends
at most one packet more. -/
theorem sameClient_networkStep
    [DecidableEq Payload]
    (network : isNetworkStep label = true)
    (moves :
      ServerToClient.step maxPacketRetransmissionCount before label =
        some after) :
    SameClient before after ∧
      (after.sent = before.sent ∨
        (∃ useSize packetType buffer,
          label = .takeSequence useSize packetType buffer) ∧
        ∃ info, after.sent = before.sent ++ [info]) := by
  cases label with
  | takeSequence useSize packetType buffer =>
      simp only [ServerToClient.step, Option.ite_none_right_eq_some,
        Option.map_eq_some_iff] at moves
      obtain ⟨-, server, -, rfl⟩ := moves
      exact ⟨⟨rfl, rfl, rfl, rfl, rfl, rfl⟩,
        .inr ⟨⟨_, _, _, rfl⟩, _, rfl⟩⟩
  | server label =>
      simp only [ServerToClient.step, Option.ite_none_right_eq_some,
        Option.map_eq_some_iff] at moves
      obtain ⟨-, server, -, rfl⟩ := moves
      exact (sameClient_afterServer label server).imp_right .inl
  | onSendReply packetSequence =>
      simp only [ServerToClient.step, Option.ite_none_right_eq_some] at moves
      obtain ⟨⟨received, replying, queue, next, arrived, returned⟩, sent⟩ :=
        sameClient_onSendReply moves.2
      exact ⟨⟨received, replying, queue, next, arrived, returned⟩, .inl sent⟩
  | deliver datagram => cases network
  | processRecvPacket => cases network
  | sendReply shouldSendReply => cases network
  | getReceivedPacket => cases network
  | _ =>
      simp only [ServerToClient.step, Option.ite_none_right_eq_some,
        Option.some.injEq] at moves
      obtain ⟨-, rfl⟩ := moves
      exact ⟨⟨rfl, rfl, rfl, rfl, rfl, rfl⟩, .inl rfl⟩

end network

/-- The session and the network see the step that they have made. -/
theorem asClient_withNetwork
    {state : State Buffer} {next : ServerToClient.State (Message Buffer)}
    (same : SameClient state.asClient next) :
    (state.withNetwork next).asClient = next := by
  obtain ⟨received, replying, queue, nextSequence, arrived, returned⟩ := same
  cases next
  simp only [State.asClient] at received replying queue
  simp only [State.asClient] at nextSequence arrived returned
  subst received replying queue nextSequence arrived returned
  rfl

/-! ## Steps keep the invariant -/

namespace Invariant

variable {state next : State Buffer}

theorem initial : Invariant (ServerToBot.initial : State Buffer) where
  client := .initial
  small := by
    change 0 < 2 ^ 63
    decide
  decoded _ member := nomatch member
  holding _ holds := nomatch holds
  collected _ member := nomatch member
  queued := List.nil_sublist _
  fast_pong _ member := nomatch member
  passed _ :=
    ⟨[],
      { follows := ⟨.empty, rfl⟩
        blocked := fun _ member => nomatch member
        queued := .slnil
        fastPath := .slnil
        all := fun _ => .nil }⟩

/-- The session or the network moves on. -/
theorem network
    [DecidableEq Buffer]
    {maxPacketRetransmissionCount : Nat}
    {label : ServerToClient.Label (Message Buffer)}
    {after : ServerToClient.State (Message Buffer)}
    (holds : Invariant state)
    (network : isNetworkStep label = true)
    (below : SequencesBelowHalf state (.network label))
    (moves :
      ServerToClient.step maxPacketRetransmissionCount state.asClient label =
        some after) :
    Invariant (state.withNetwork after) := by
  obtain ⟨same, sent⟩ := sameClient_networkStep network moves
  have belowMax : ServerToClient.SequencesBelowMax state.asClient label := by
    cases label with
    | takeSequence useSize packetType buffer =>
        have half : state.server.sequencesTaken + 1 < 2 ^ 63 := below rfl
        change state.server.sequencesTaken + 1 < 2 ^ 64 - 1
        omega
    | _ => trivial
  have grows : ∃ more, after.sent = state.sent ++ more := by
    rcases sent with same | ⟨-, info, more⟩
    · exact ⟨[], by rw [same, List.append_nil]; rfl⟩
    · exact ⟨[info], more⟩
  have small : after.sent.length < 2 ^ 63 := by
    rcases sent with same | ⟨⟨useSize, packetType, buffer, rfl⟩, info, more⟩
    · rw [same]
      exact holds.small
    · have half : state.server.sequencesTaken + 1 < 2 ^ 63 := below rfl
      have count : state.server.sequencesTaken = state.sent.length :=
        holds.client.count
      rw [more, List.length_append, List.length_singleton]
      change state.sent.length + 1 < 2 ^ 63
      omega
  obtain ⟨more, grown⟩ := grows
  exact
    { client := by
        rw [asClient_withNetwork same]
        exact holds.client.step belowMax moves
      small
      decoded := holds.decoded
      holding := fun info stands => by
        change info ∈ after.sent
        rw [grown]
        exact List.mem_append_left _ (holds.holding info stands)
      collected := fun packet member => by
        change packet ∈ after.sent.map heldPacket
        rw [grown, List.map_append]
        exact List.mem_append_left _ (holds.collected packet member)
      queued := by
        change (state.handled ++ state.recvProcessingChannel).Sublist
          ((after.sent.map heldPacket).filter isData)
        rw [grown, List.map_append, List.filter_append]
        exact holds.queued.trans (List.sublist_append_left _ _)
      fast_pong := holds.fast_pong
      passed := holds.passed }

/-- A datagram reaches the receive task. -/
theorem receiveAsync
    [DecidableEq Buffer]
    (holds : Invariant state)
    {datagram : List (RecvPacketInfo (Message Buffer))}
    (inFlight : datagram ∈ state.toClient) :
    Invariant
      { state with
        toClient := state.toClient.erase datagram
        received := datagram } :=
  { holds with
    client :=
      { holds.client with
        toClient := fun other member =>
          holds.client.toClient other (List.mem_of_mem_erase member)
        received := holds.client.toClient datagram inFlight } }

/-- A packet is skipped because there is no key. -/
theorem skip
    (holds : Invariant state)
    {info : RecvPacketInfo (Message Buffer)}
    {received : List (RecvPacketInfo (Message Buffer))}
    (stands : state.received = info :: received) :
    Invariant { state with received } := by
  have before : ∀ other ∈ info :: received, other ∈ state.sent :=
    stands ▸ holds.client.received
  exact
    { holds with
      client :=
        { holds.client with
          received := fun other member =>
            before other (List.mem_cons_of_mem info member) } }

/-- A packet is decoded. -/
theorem decode
    (holds : Invariant state)
    (looping : state.receiver = .queueing [])
    {info : RecvPacketInfo (Message Buffer)}
    {received : List (RecvPacketInfo (Message Buffer))}
    (stands : state.received = info :: received) :
    Invariant
      { state with
        received
        receiver := .replying info
        decoded := info :: state.decoded } := by
  have before : ∀ other ∈ info :: received, other ∈ state.sent :=
    stands ▸ holds.client.received
  exact
    { holds with
      client := holds.client.processRecvPacket stands
      decoded := by
        intro other member
        rcases List.mem_cons.mp member with rfl | old
        · exact .inr rfl
        · refine .inl ((holds.decoded other old).resolve_right ?_)
          simp [looping, Receiver.holds]
      holding := by
        rintro _ ⟨⟩
        exact before info List.mem_cons_self
      passed := by
        have passed := holds.passed
        rwa [looping] at passed }

/-- The reply is sent or not. -/
theorem sendReply
    (holds : Invariant state)
    {info : RecvPacketInfo (Message Buffer)}
    (stands : state.receiver = .replying info)
    (sent : Bool) :
    Invariant
      { state with
        receiver := .collecting info
        toServer :=
          if sent then info.packetSequence :: state.toServer
          else state.toServer } := by
  have sending : state.asClient.replying = some info.packetSequence := by
    simp [State.asClient, stands, Receiver.replyingTo]
  exact
    { holds with
      client :=
        { holds.client with
          replying := nofun
          toServer := by
            intro other member
            cases sent with
            | false => exact holds.client.toServer other member
            | true =>
                rcases List.mem_cons.mp member with rfl | old
                · exact holds.client.replying _ sending
                · exact holds.client.toServer other old }
      decoded := by
        have decoded := holds.decoded
        rwa [stands] at decoded
      holding := by
        have holding := holds.holding
        rwa [stands] at holding
      passed := by
        have passed := holds.passed
        rwa [stands] at passed }

/-- Every collected packet has a small sequence. -/
theorem position_le
    (holds : Invariant state)
    {packet : HeldPacket Buffer}
    (member : packet ∈ state.sent.map heldPacket) :
    packet.position ≤ 2 ^ 63 - 1 := by
  obtain ⟨info, sent, rfl⟩ := List.mem_map.mp member
  have bound := (holds.client.numbered.position_bounds sent).2
  have small := holds.small
  change info.position ≤ 2 ^ 63 - 1
  change info.position ≤ state.sent.length at bound
  omega

/-- The orderer gets a packet. -/
theorem collect
    (holds : Invariant state)
    {info : RecvPacketInfo (Message Buffer)}
    (stands : state.receiver = .collecting info) :
    Invariant
      { state with
        receiver :=
          .queueing (state.receivePacketOrderer.collect (heldPacket info)).1
        receivePacketOrderer :=
          (state.receivePacketOrderer.collect (heldPacket info)).2
        collected := state.collected ++ [heldPacket info] } := by
  have sent : heldPacket info ∈ state.sent.map heldPacket :=
    List.mem_map_of_mem (holds.holding info (by simp [stands, Receiver.holds]))
  have collected : ∀ packet ∈ state.collected ++ [heldPacket info],
      packet ∈ state.sent.map heldPacket := by
    intro packet member
    rcases List.mem_append.mp member with old | new
    · exact holds.collected packet old
    · rwa [List.mem_singleton.mp new]
  exact
    { holds with
      client :=
        { holds.client with replying := nofun }
      decoded := by
        intro other member
        left
        rcases holds.decoded other member with old | now
        · exact List.mem_append_left _ old
        · rw [stands] at now
          obtain rfl : info = other := Option.some.inj now
          exact List.mem_append_right _ (List.mem_singleton_self _)
      holding := nofun
      collected
      passed := by
        intro notCleared
        obtain ⟨processed, passed⟩ := holds.passed notCleared
        rw [stands] at passed
        have follows := passed.follows
        have blocked := passed.blocked
        simp only [Receiver.packetsToProcess, List.append_nil]
          at follows blocked
        obtain ⟨followsNext, blockedNext⟩ :=
          follows.collect blocked
            fun packet member => holds.position_le (collected packet member)
        exact ⟨processed,
          { passed with follows := followsNext, blocked := blockedNext }⟩ }

/-- What the orderer has passed on are the first packets of the session. -/
theorem passed_eq
    (holds : Invariant state)
    {passed : List (HeldPacket Buffer)}
    (inOrder : InOrder HeldPacket.position state.collected passed) :
    passed = (state.sent.take passed.length).map heldPacket := by
  have all : InOrder HeldPacket.position (state.sent.map heldPacket)
      (state.sent.map heldPacket) :=
    holds.client.numbered.map fun _ => rfl
  have among := inOrder.mono holds.collected
  have short : passed.length ≤ (state.sent.map heldPacket).length :=
    among.length_le
  rw [List.map_take]
  refine among.eq_of_length_eq all.injOn (all.take passed.length) ?_
  rw [List.length_take, Nat.min_eq_left short]

/-- What has been processed are data packets of the session, in order. -/
theorem processed_sublist
    (holds : Invariant state)
    {processed packets calls shortCut : List (HeldPacket Buffer)}
    {orderer : ReceivePacketOrderer Buffer} {cleanup : Cleanup}
    (passed :
      Passed state.collected packets calls shortCut orderer cleanup
        processed) :
    (processed.filter isData).Sublist
      ((state.sent.map heldPacket).filter isData) := by
  refine List.Sublist.filter isData
    ((List.sublist_append_left processed packets).trans ?_)
  rw [holds.passed_eq passed.follows.holding.inOrder]
  exact (List.take_sublist _ _).map heldPacket

/-- The loop processes a packet. -/
theorem tryWrite
    (holds : Invariant state)
    {packet : HeldPacket Buffer} {packets : List (HeldPacket Buffer)}
    (stands : state.receiver = .queueing (packet :: packets)) :
    Invariant
      ({ state with receiver := .queueing packets }.tryWrite packet) := by
  have decoded : ∀ info ∈ state.decoded,
      heldPacket info ∈ state.collected := by
    have decoded := holds.decoded
    simpa [stands, Receiver.holds] using decoded
  have passed := holds.passed
  rw [stands] at passed
  unfold State.tryWrite
  split
  next heartbeat =>
    have skipped : isData packet = false := by simp [isData, heartbeat]
    exact
      { holds with
        client := { holds.client with replying := nofun }
        decoded := fun info member => .inl (decoded info member)
        holding := nofun
        passed := by
          intro notCleared
          obtain ⟨processed, passed⟩ := passed notCleared
          have same : (processed ++ [packet]).filter isData =
              processed.filter isData := by
            simp [skipped]
          exact ⟨_, passed.advance (same ▸ passed.queued)
            (same ▸ passed.fastPath) (same ▸ passed.all)⟩ }
  next notHeartbeat =>
    have kept : isData packet = true := by simp [isData, notHeartbeat]
    have more (processed : List (HeldPacket Buffer)) :
        (processed ++ [packet]).filter isData =
          processed.filter isData ++ [packet] := by
      simp [kept]
    split
    next fast =>
      have pong : packet.packetId = PacketIdType.pong.toPacketId ∧
          state.isRttModeEnabled = true := by
        simpa [State.handlesFast, and_comm] using fast
      exact
        { holds with
          client := { holds.client with replying := nofun }
          decoded := fun info member => .inl (decoded info member)
          holding := nofun
          fast_pong := by
            intro other member
            rcases List.mem_append.mp member with old | new
            · exact holds.fast_pong other old
            · rwa [List.mem_singleton.mp new]
          passed := by
            intro notCleared
            obtain ⟨processed, passed⟩ := passed notCleared
            refine ⟨_, passed.advance ?_ ?_ ?_⟩
            · rw [more]
              exact passed.queued.trans (List.sublist_append_left _ _)
            · rw [more]
              exact passed.fastPath.append (.refl _)
            · intro outside
              rw [more, ← List.append_assoc]
              exact (passed.all outside).append_right _ }
    next notFast =>
      split
      next outside =>
        have longer : ∀ processed,
            (state.handled ++ state.recvProcessingChannel).Sublist
              (processed.filter isData) →
            (state.handled ++ (state.recvProcessingChannel ++ [packet])).Sublist
              ((processed ++ [packet]).filter isData) := by
          intro processed queued
          rw [more, ← List.append_assoc]
          exact queued.append (.refl _)
        have advanced : ∃ processed,
            Passed state.collected packets
              (state.handled ++ (state.recvProcessingChannel ++ [packet]))
              state.fastPath state.receivePacketOrderer state.cleanup
              processed := by
          obtain ⟨processed, passed⟩ :=
            passed fun cleared => nomatch cleared.symm.trans outside
          refine ⟨_, passed.advance (longer processed passed.queued) ?_ ?_⟩
          · rw [more]
            exact passed.fastPath.trans (List.sublist_append_left _ _)
          · intro outside
            rw [more, ← List.append_assoc]
            refine List.Perm.trans ?_ ((passed.all outside).append_right _)
            simp only [List.append_assoc]
            exact (List.perm_append_comm.append_left _).append_left _
        exact
          { holds with
            client := { holds.client with replying := nofun }
            decoded := fun info member => .inl (decoded info member)
            holding := nofun
            queued := by
              obtain ⟨processed, passed⟩ := advanced
              exact passed.queued.trans (holds.processed_sublist passed)
            passed := fun _ => advanced }
      next closed =>
        exact
          { holds with
            client := { holds.client with replying := nofun }
            decoded := fun info member => .inl (decoded info member)
            holding := nofun
            passed := by
              intro notCleared
              obtain ⟨processed, passed⟩ := passed notCleared
              refine ⟨_, passed.advance ?_ ?_ fun outside =>
                absurd outside closed⟩
              · rw [more]
                exact passed.queued.trans (List.sublist_append_left _ _)
              · rw [more]
                exact passed.fastPath.trans (List.sublist_append_left _ _) }

/-- The packet processor calls `OnRecvPacket`. -/
theorem onRecvPacket
    (holds : Invariant state)
    {packet : HeldPacket Buffer}
    {recvProcessingChannel : List (HeldPacket Buffer)}
    (stands : state.recvProcessingChannel = packet :: recvProcessingChannel) :
    Invariant
      { state with
        recvProcessingChannel
        handled := state.handled ++ [packet] } := by
  have same : state.handled ++ [packet] ++ recvProcessingChannel =
      state.handled ++ state.recvProcessingChannel := by
    rw [stands, List.append_assoc, List.singleton_append]
  exact
    { holds with
      queued := by
        rw [same]
        exact holds.queued
      passed := by
        rw [same]
        exact holds.passed }

/-- `Cleanup` moves on. -/
theorem nextCleanup
    (holds : Invariant state)
    (moves : state.nextCleanup = some next) :
    Invariant next := by
  unfold State.nextCleanup at moves
  split at moves
  next outside =>
    obtain rfl := Option.some.inj moves
    refine { holds with passed := fun _ => ?_ }
    obtain ⟨processed, passed⟩ := holds.passed (by simp [outside])
    exact ⟨processed, { passed with all := nofun }⟩
  next completed =>
    obtain rfl := Option.some.inj moves
    refine { holds with passed := fun _ => ?_ }
    obtain ⟨processed, passed⟩ := holds.passed (by simp [completed])
    exact ⟨processed, { passed with all := nofun }⟩
  next =>
    obtain rfl := Option.some.inj moves
    exact { holds with passed := fun notCleared => absurd rfl notCleared }
  next => cases moves

/-- Every step keeps the invariant. -/
theorem step
    [DecidableEq Buffer]
    {maxPacketRetransmissionCount : Nat} {label : Label Buffer}
    (holds : Invariant state)
    (below : SequencesBelowHalf state label)
    (moves :
      ServerToBot.step maxPacketRetransmissionCount state label = some next) :
    Invariant next := by
  cases label with
  | network label =>
      simp only [ServerToBot.step, Option.ite_none_right_eq_some,
        Option.map_eq_some_iff] at moves
      obtain ⟨isNetwork, after, moves, rfl⟩ := moves
      exact holds.network isNetwork below moves
  | receiveAsync datagram =>
      simp only [ServerToBot.step] at moves
      split at moves
      next =>
        obtain ⟨⟨inFlight, -⟩, rfl⟩ := by
          simpa only [Option.ite_none_right_eq_some, Option.some.injEq]
            using moves
        exact holds.receiveAsync inFlight
      next => cases moves
  | decodePacket =>
      simp only [ServerToBot.step] at moves
      split at moves
      next info received looping stands =>
        split at moves
        · obtain rfl := Option.some.inj moves
          exact holds.decode looping stands
        · obtain rfl := Option.some.inj moves
          exact holds.skip stands
      next => cases moves
  | sendReply sent =>
      simp only [ServerToBot.step] at moves
      split at moves
      next info stands =>
        obtain rfl := Option.some.inj moves
        exact holds.sendReply stands _
      next => cases moves
  | collectPacketsToProcess =>
      simp only [ServerToBot.step] at moves
      split at moves
      next info stands =>
        obtain rfl := Option.some.inj moves
        exact holds.collect stands
      next => cases moves
  | tryWrite =>
      simp only [ServerToBot.step] at moves
      split at moves
      next packet packets stands =>
        obtain rfl := Option.some.inj moves
        exact holds.tryWrite stands
      next => cases moves
  | onRecvPacket =>
      simp only [ServerToBot.step] at moves
      split at moves
      next packet channel stands =>
        obtain rfl := Option.some.inj moves
        exact holds.onRecvPacket stands
      next => cases moves
  | enableRttMode =>
      obtain rfl := Option.some.inj moves
      exact
        { holds with
          fast_pong := fun packet member =>
            ⟨(holds.fast_pong packet member).1, rfl⟩ }
  | cleanup => exact holds.nextCleanup moves

/-- The invariant holds in every state that the sequences allow. -/
theorem of_reachable
    [DecidableEq Buffer]
    {maxPacketRetransmissionCount : Nat}
    (reached :
      (system maxPacketRetransmissionCount).GuardedReachable
        SequencesBelowHalf state) :
    Invariant state := by
  refine reached.invariant ?_ ?_
  · rintro _ rfl
    exact initial
  · intro before label after _ holds below moves
    exact holds.step below moves

end Invariant

/-! ## The promise -/

namespace Invariant

variable {state : State Buffer}

/-- On the session's packets, what is not a heartbeat is data. -/
theorem filter_isData
    (holds : Invariant state)
    {packets : List (RecvPacketInfo (Message Buffer))}
    (member : ∀ info ∈ packets, info ∈ state.sent) :
    (packets.map heldPacket).filter isData = dataPackets packets := by
  rw [dataPackets, ← holds.client.filter_isData member, List.filter_map]
  rfl

/-- On what the orderer has passed on, too. -/
theorem filter_sendType
    (holds : Invariant state)
    {packets : List (HeldPacket Buffer)}
    (member : ∀ packet ∈ packets, packet ∈ state.sent.map heldPacket) :
    (packets.filter fun packet => packet.packetType = .sendType) =
      packets.filter isData := by
  refine List.filter_congr fun packet inside => ?_
  obtain ⟨info, sent, rfl⟩ := List.mem_map.mp (member packet inside)
  rcases holds.client.types info sent with data | heartbeat
  · simp [isData, heldPacket, data]
  · simp [isData, heldPacket, heartbeat]

/-- The orderer passes on the first packets of the session. -/
theorem exact
    (holds : Invariant state)
    {processed calls shortCut : List (HeldPacket Buffer)}
    (passed :
      Passed state.collected state.receiver.packetsToProcess calls shortCut
        state.receivePacketOrderer .outside processed) :
    (calls ++ shortCut ++
      state.receiver.packetsToProcess.filter fun packet =>
        packet.packetType = .sendType).Perm
      (dataPackets
        (state.sent.take
          state.receivePacketOrderer.expectedSequence.toNat)) := by
  have inOrder := passed.follows.holding.inOrder
  have whole := holds.passed_eq inOrder
  rw [← passed.follows.expected] at whole
  have sent : ∀ packet ∈ state.receiver.packetsToProcess,
      packet ∈ state.sent.map heldPacket := fun packet member =>
    holds.collected packet
      (inOrder.arrived packet (List.mem_append_right _ member))
  rw [holds.filter_sendType sent,
    ← holds.filter_isData fun info => List.mem_of_mem_take, ← whole,
    List.filter_append]
  exact (passed.all rfl).append_right _

/-- The invariant gives the promise. -/
theorem reliable (holds : Invariant state) : Reliable state where
  numbered := holds.client.numbered.numbered
  removed packetSequence member := by
    obtain ⟨info, decoded, rfl⟩ :=
      holds.client.removed packetSequence member
    exact (holds.decoded info decoded).imp
      (fun collected => ⟨heldPacket info, collected, rfl⟩)
      fun working => ⟨info, working, rfl⟩
  in_order := by
    rw [← holds.filter_isData fun _ => id]
    exact holds.queued
  increasing := by
    have all : InOrder HeldPacket.position (state.sent.map heldPacket)
        (state.sent.map heldPacket) :=
      holds.client.numbered.map fun _ => rfl
    exact (all.pairwise.filter isData).sublist holds.queued
  fast_in_order outside := by
    obtain ⟨processed, passed⟩ := holds.passed (by simp [outside])
    rw [← holds.filter_isData fun _ => id]
    exact passed.fastPath.trans (holds.processed_sublist passed)
  fast_pong := holds.fast_pong
  exact outside := by
    obtain ⟨processed, passed⟩ := holds.passed (by simp [outside])
    rw [outside] at passed
    exact holds.exact passed
  complete outside bound collected := by
    obtain ⟨processed, passed⟩ := holds.passed (by simp [outside])
    rw [passed.follows.expected]
    exact InOrder.le_length_of_blocked passed.blocked collected

end Invariant

/-- In every run whose sequences stay below `2 ^ 63`, the session drops only
packets that the bot has, and `OnRecvPacket` and the short cut get the data packets
in order and each once, up to the first packet that is missing. -/
theorem reliable_to_bot
    [DecidableEq Buffer]
    {maxPacketRetransmissionCount : Nat} {state : State Buffer}
    (reached :
      (system maxPacketRetransmissionCount).GuardedReachable
        SequencesBelowHalf state) :
    Reliable state :=
  (Invariant.of_reachable reached).reliable

/-! ## A pong on the short cut -/

/-- The session sends a packet in a datagram of its own. -/
def sendAlone (ordinal : Nat) : List (Label Nat) :=
  let packet := PacketRef.data ordinal
  let caller := Caller.call packet
  let item : QueueItem := ⟨packet, none⟩
  let locals : StreamLocals := ⟨0, [], 0⟩
  [.insert packet, .testRelease packet, .push packet, .enterDoSend caller,
    .acquire caller, .ownerTest caller, .ownerLook caller,
    .measureQueue caller, .takeReserved caller 1,
    .popQueue caller ⟨1, [], 0⟩, .checkTaken caller item false locals,
    .finishRefresh caller item false locals 5,
    .popQueue caller ⟨0, [packet.key], 40⟩, .tryRioSend caller 40 true,
    .sendReturns packet true, .sendIoCompleted, .enterDoSend .completion,
    .acquire .completion, .ownerTest .completion, .ownerLook .completion,
    .releaseIoSending .completion .recheck, .recheck .completion,
    .completionReturns true].map fun label => Label.network (.server label)

/-- The bot processes a datagram of one packet and replies. -/
def receiveAlone (info : RecvPacketInfo (Message Nat)) : List (Label Nat) :=
  [.receiveAsync [info], .decodePacket, .sendReply true,
    .collectPacketsToProcess]

/-- An answer to a ping. -/
def pong : RecvPacketInfo (Message Nat) :=
  ⟨⟨PacketIdType.pong.toPacketId, 0⟩, 1, .sendType⟩

/-- Another response. -/
def response : RecvPacketInfo (Message Nat) :=
  ⟨⟨PacketIdType.testPacketRes.toPacketId, 7⟩, 2, .sendType⟩

/-- While round trips are measured, the response arrives before the pong that was
sent first. -/
def measuredRoundTrip : List (Label Nat) :=
  ([.enableRttMode, .network (.takeSequence 40 .sendType pong.buffer)] :
    List (Label Nat)) ++ sendAlone 1 ++
  ([.network (.takeSequence 40 .sendType response.buffer)] :
    List (Label Nat)) ++ sendAlone 2 ++ receiveAlone response ++
  ([.network (.duplicateDatagram [pong]), .receiveAsync [pong],
    .decodePacket, .sendReply true] : List (Label Nat))

/-- The state before the orderer gets the pong. -/
def beforePong : State Nat :=
  ((system 10).run initial measuredRoundTrip).getD initial

/-- The state after it. -/
def afterPong : State Nat :=
  { beforePong with
    receiver := .queueing [heldPacket pong, heldPacket response]
    receivePacketOrderer := ⟨[], 2⟩
    collected := [heldPacket response, heldPacket pong] }

/-- The packets are processed, and the pong arrives once more. -/
def roundTripEnds : List (Label Nat) :=
  ([.tryWrite, .tryWrite, .onRecvPacket] : List (Label Nat)) ++
  receiveAlone pong ++ ([.network (.onSendReply 1)] : List (Label Nat))

/-- The state after that. -/
def roundTripMeasured : State Nat :=
  ((system 10).run afterPong roundTripEnds).getD initial

set_option maxRecDepth 2000 in
theorem guardedRun_measuredRoundTrip :
    (system 10).guardedRun SequencesBelowHalf initial measuredRoundTrip =
      some beforePong := rfl

theorem collect_pong :
    (⟨[heldPacket response], 0⟩ : ReceivePacketOrderer Nat).collect
        (heldPacket pong) =
      ([heldPacket pong, heldPacket response], ⟨[], 2⟩) := by
  have last : (⟨[], 2⟩ : ReceivePacketOrderer Nat).collectHeld =
      ([], ⟨[], 2⟩) := by
    rw [ReceivePacketOrderer.collectHeld]
    rfl
  have next : (⟨[heldPacket response], 1⟩ :
      ReceivePacketOrderer Nat).collectHeld =
        ([heldPacket response], ⟨[], 2⟩) := by
    rw [ReceivePacketOrderer.collectHeld]
    exact congrArg (Prod.map (heldPacket response :: ·) id) last
  exact congrArg (Prod.map (heldPacket pong :: ·) id) next

set_option maxRecDepth 2000 in
theorem step_beforePong :
    (system 10).step beforePong .collectPacketsToProcess =
      some afterPong := by
  have working : beforePong.receiver = .collecting pong := rfl
  have held : beforePong.receivePacketOrderer =
      ⟨[heldPacket response], 0⟩ := rfl
  have collected : beforePong.collected = [heldPacket response] := rfl
  simp only [system, step, working, held, collected, collect_pong]
  rfl

set_option maxRecDepth 2000 in
theorem guardedRun_roundTripEnds :
    (system 10).guardedRun SequencesBelowHalf afterPong roundTripEnds =
      some roundTripMeasured := rfl

example :
    roundTripMeasured.handled.map HeldPacket.buffer = [7] ∧
      roundTripMeasured.fastPath.map HeldPacket.buffer = [0] ∧
      roundTripMeasured.removed = [1] :=
  ⟨rfl, rfl, rfl⟩

theorem reliable_to_bot_roundTripMeasured : Reliable roundTripMeasured :=
  reliable_to_bot
    (((TransitionSystem.GuardedReachable.guardedRun (.initial rfl)
      guardedRun_measuredRoundTrip).step (by rintro ⟨⟩) step_beforePong).guardedRun
        guardedRun_roundTripEnds)

end ServerToBot
end MultiSocketRudp
