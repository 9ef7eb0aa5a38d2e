import MultiSocketRudp.BotTester.ReceivePacketOrderer
import MultiSocketRudp.Client.HoldingQueue
import MultiSocketRudp.Server.SessionPacketOrderer

/-!
# The three receive orderers

The server's orderer, the orderer of the bot tester and the receive queue of the
client see the same data packets arrive.  Each of them has passed on what has
arrived in order, and is blocked at the first sequence that has not, so that they
agree after every arrival.
-/

namespace MultiSocketRudp

open InOrderDelivery ReceivePath

variable {Payload : Type}

/-! ## The deliveries -/

/-- What the server's handlers are called with. -/
def SessionPacketOrderer.delivered
    (callback : Payload → PacketSequence → Bool)
    (maxHoldingQueueSize : Byte)
    (arrivals : List (DataFrame Payload)) : List Payload :=
  (deliveries
    (fun orderer frame => (Orderer.onReceive callback orderer frame).2)
    (Orderer.reset ⟨0, [], maxHoldingQueueSize⟩ 1) arrivals).1.map
    DataFrame.payload

/-- The arrival of a data packet at the bot tester. -/
def BotTester.HeldPacket.ofFrame
    (packetId : Payload → BitVec 32)
    (frame : DataFrame Payload) : BotTester.HeldPacket Payload :=
  ⟨frame.packetSequence, packetId frame.payload, frame.payload, .sendType⟩

/-- Sequence and content of a packet of the bot tester. -/
def BotTester.HeldPacket.toFrame
    (packet : BotTester.HeldPacket Payload) : DataFrame Payload :=
  ⟨packet.sequence, packet.buffer⟩

/-- What `Collect` returns. -/
def BotTester.ReceivePacketOrderer.delivered
    (packetId : Payload → BitVec 32)
    (arrivals : List (DataFrame Payload)) : List Payload :=
  (deliveries collect create (arrivals.map (.ofFrame packetId))).1.map
    HeldPacket.buffer

namespace HoldingQueue

/-- The arrival of a data packet at the client. -/
def RecvPacketInfo.ofFrame
    (frame : DataFrame Payload) : RecvPacketInfo Payload :=
  ⟨frame.payload, frame.packetSequence, .sendType⟩

/-- Sequence and content of a packet of the client. -/
def RecvPacketInfo.toFrame
    (info : RecvPacketInfo Payload) : DataFrame Payload :=
  ⟨info.packetSequence, info.buffer⟩

/-- A packet is queued, and `GetReceivedPacket` is called until it returns
none. -/
def receive
    (state : List (RecvPacketInfo Payload) × PacketSequence)
    (info : RecvPacketInfo Payload) :
    List (RecvPacketInfo Payload) ×
      List (RecvPacketInfo Payload) × PacketSequence :=
  receiveAll (emplace info state.1) state.2

/-- What `GetReceivedPacket` returns. -/
def delivered (arrivals : List (DataFrame Payload)) : List Payload :=
  (deliveries receive ([], 1) (arrivals.map .ofFrame)).1.map
    RecvPacketInfo.buffer

end HoldingQueue

/-! ## Each orderer delivers in order -/

/-- A list of payloads is what has arrived in order, up to the first sequence
that has not arrived. -/
def DeliversInOrder
    (arrivals : List (DataFrame Payload)) (payloads : List Payload) : Prop :=
  ∃ passed : List (DataFrame Payload),
    InOrder DataFrame.position arrivals passed ∧
      Blocked DataFrame.position arrivals passed ∧
      payloads = passed.map DataFrame.payload

/-- Where equal sequences have equal payloads, there is one such list. -/
theorem DeliversInOrder.unique
    {arrivals : List (DataFrame Payload)} {first second : List Payload}
    (consistent :
      ∀ frame ∈ arrivals, ∀ other ∈ arrivals,
        frame.packetSequence = other.packetSequence →
          frame.payload = other.payload)
    (firstInOrder : DeliversInOrder arrivals first)
    (secondInOrder : DeliversInOrder arrivals second) :
    first = second := by
  obtain ⟨passed, inOrder, blocked, rfl⟩ := firstInOrder
  obtain ⟨otherPassed, otherInOrder, otherBlocked, rfl⟩ := secondInOrder
  have injective :
      Set.InjOn DataFrame.position {frame | frame ∈ arrivals} := by
    intro frame member other otherMember same
    have sameSequence := BitVec.eq_of_toNat_eq same
    obtain ⟨packetSequence, payload⟩ := frame
    obtain ⟨otherSequence, otherPayload⟩ := other
    obtain rfl : packetSequence = otherSequence := sameSequence
    rw [show payload = otherPayload from consistent _ member _ otherMember rfl]
  rw [inOrder.eq_of_blocked injective blocked otherInOrder otherBlocked]

/-- An orderer of other items delivers in order what they carry. -/
theorem DeliversInOrder.of_items
    {Item : Type} {position : Item → Nat}
    (toFrame : Item → DataFrame Payload)
    {arrived passed : List Item}
    (same : ∀ item, (toFrame item).position = position item)
    (inOrder : InOrder position arrived passed)
    (blocked : Blocked position arrived passed) :
    DeliversInOrder (arrived.map toFrame)
      (passed.map fun item => (toFrame item).payload) :=
  ⟨passed.map toFrame, inOrder.map same, blocked.map same,
    (List.map_map).symm⟩

section Runs

variable {arrivals : List (DataFrame Payload)}

/-- The server's orderer delivers in order as long as no more is outstanding than
it can hold. -/
theorem SessionPacketOrderer.delivered_inOrder
    {callback : Payload → PacketSequence → Bool}
    {maxHoldingQueueSize : Byte}
    (bounded : ∀ frame ∈ arrivals, frame.position ≤ 2 ^ 63 - 1)
    (capacity :
      ∀ before, before <+: arrivals →
        outstanding DataFrame.position before ≤ maxHoldingQueueSize.toNat)
    (succeeds : ∀ payload sequence, callback payload sequence = true) :
    DeliversInOrder arrivals
      (delivered callback maxHoldingQueueSize arrivals) := by
  have start :
      Orderer.Follows maxHoldingQueueSize ([] : List (DataFrame Payload)) []
          (Orderer.reset ⟨0, [], maxHoldingQueueSize⟩ 1) ∧
        Blocked DataFrame.position ([] : List (DataFrame Payload)) [] :=
    ⟨⟨.empty, rfl, rfl⟩, fun _ member => nomatch member⟩
  have run :=
    deliveries_invariant
      (fun orderer frame => (Orderer.onReceive callback orderer frame).2)
      (Orderer.reset ⟨0, [], maxHoldingQueueSize⟩ 1)
      (fun arrived passed orderer =>
        Orderer.Follows maxHoldingQueueSize arrived passed orderer ∧
          Blocked DataFrame.position arrived passed)
      (fun arrived =>
        (∀ frame ∈ arrived, frame.position ≤ 2 ^ 63 - 1) ∧
          outstanding DataFrame.position arrived ≤ maxHoldingQueueSize.toNat)
      start
      (fun frame holds allowed =>
        holds.1.onReceive holds.2 succeeds allowed.1 allowed.2)
      (fun before isPrefix =>
        ⟨fun frame member => bounded frame (isPrefix.subset member),
          capacity before isPrefix⟩)
  exact ⟨_, run.1.holding.inOrder, run.2, rfl⟩

/-- The bot tester's orderer delivers in order. -/
theorem BotTester.ReceivePacketOrderer.delivered_inOrder
    (packetId : Payload → BitVec 32)
    (bounded : ∀ frame ∈ arrivals, frame.position ≤ 2 ^ 63 - 1) :
    DeliversInOrder arrivals (delivered packetId arrivals) := by
  have start :
      Follows [] [] (create : BotTester.ReceivePacketOrderer Payload) ∧
        Blocked HeldPacket.position [] ([] : List (HeldPacket Payload)) :=
    ⟨⟨.empty, rfl⟩, fun _ member => nomatch member⟩
  have arrivedBounded :
      ∀ packet ∈ arrivals.map (HeldPacket.ofFrame packetId),
        packet.position ≤ 2 ^ 63 - 1 := by
    intro packet member
    obtain ⟨frame, arrived, rfl⟩ := List.mem_map.mp member
    exact bounded frame arrived
  have run :=
    deliveries_invariant collect create
      (fun arrived passed orderer =>
        Follows arrived passed orderer ∧
          Blocked HeldPacket.position arrived passed)
      (fun arrived => ∀ packet ∈ arrived, packet.position ≤ 2 ^ 63 - 1)
      start
      (fun packet holds allowed => holds.1.collect holds.2 allowed)
      (fun before isPrefix packet member =>
        arrivedBounded packet (isPrefix.subset member))
  have delivers :=
    DeliversInOrder.of_items HeldPacket.toFrame (fun _ => rfl)
      run.1.holding.inOrder run.2
  rw [List.map_map, show HeldPacket.toFrame ∘ HeldPacket.ofFrame packetId = id
    from rfl, List.map_id] at delivers
  exact delivers

/-- One arrival at the client. -/
theorem HoldingQueue.Holds.receive
    {arrived passed queue : List (RecvPacketInfo Payload)}
    {nextRecvPacketSequence : PacketSequence}
    (holds : Holds arrived passed queue nextRecvPacketSequence)
    (info : RecvPacketInfo Payload)
    (allowed :
      ∀ other ∈ arrived ++ [info],
        other.isData = true ∧ other.position ≤ 2 ^ 63 - 1) :
    Holds (arrived ++ [info])
        (passed ++
          (HoldingQueue.receive (queue, nextRecvPacketSequence) info).1)
        (HoldingQueue.receive (queue, nextRecvPacketSequence) info).2.1
        (HoldingQueue.receive (queue, nextRecvPacketSequence) info).2.2 ∧
      Blocked RecvPacketInfo.position (arrived ++ [info])
        (passed ++
          (HoldingQueue.receive (queue, nextRecvPacketSequence) info).1) := by
  have queued :=
    (holds.emplace info).perm (List.perm_append_singleton info arrived).symm
  obtain ⟨more, later, returned, blocked⟩ :=
    queued.receiveAll fun other member => by
      have bound := (allowed other member).2
      change other.packetSequence.toNat ≤ _ at bound
      omega
  have allData : more.filter RecvPacketInfo.isData = more := by
    refine List.filter_eq_self.mpr fun other member => ?_
    exact (allowed other
      (later.inOrder.arrived other (List.mem_append_right _ member))).1
  rw [allData] at returned
  rw [returned] at later blocked
  exact ⟨later, blocked⟩

/-- The client's queue delivers in order. -/
theorem HoldingQueue.delivered_inOrder
    (bounded : ∀ frame ∈ arrivals, frame.position ≤ 2 ^ 63 - 1) :
    DeliversInOrder arrivals (delivered arrivals) := by
  have start :
      Holds ([] : List (RecvPacketInfo Payload)) [] [] 1 ∧
        Blocked RecvPacketInfo.position
          ([] : List (RecvPacketInfo Payload)) [] :=
    ⟨.initial, fun _ member => nomatch member⟩
  have arrivedBounded :
      ∀ info ∈ arrivals.map RecvPacketInfo.ofFrame,
        info.isData = true ∧ info.position ≤ 2 ^ 63 - 1 := by
    intro info member
    obtain ⟨frame, arrived, rfl⟩ := List.mem_map.mp member
    exact ⟨rfl, bounded frame arrived⟩
  have run :=
    deliveries_invariant receive ([], 1)
      (fun arrived passed state =>
        Holds arrived passed state.1 state.2 ∧
          Blocked RecvPacketInfo.position arrived passed)
      (fun arrived => ∀ info ∈ arrived,
        info.isData = true ∧ info.position ≤ 2 ^ 63 - 1)
      start
      (fun info holds allowed => holds.1.receive info allowed)
      (fun before isPrefix info member =>
        arrivedBounded info (isPrefix.subset member))
  have delivers :=
    DeliversInOrder.of_items RecvPacketInfo.toFrame (fun _ => rfl)
      run.1.inOrder run.2
  rw [List.map_map, show RecvPacketInfo.toFrame ∘ RecvPacketInfo.ofFrame = id
    from rfl, List.map_id] at delivers
  exact delivers

/-- The three orderers have delivered the same payloads after every arrival. -/
theorem orderers_agree
    (callback : Payload → PacketSequence → Bool)
    (packetId : Payload → BitVec 32)
    (maxHoldingQueueSize : Byte)
    (bounded :
      ∀ frame ∈ arrivals,
        1 ≤ frame.packetSequence.toNat ∧
          frame.packetSequence.toNat ≤ 2 ^ 63 - 1)
    (consistent :
      ∀ frame ∈ arrivals, ∀ other ∈ arrivals,
        frame.packetSequence = other.packetSequence →
          frame.payload = other.payload)
    (capacity :
      ∀ before, before <+: arrivals →
        outstanding DataFrame.position before ≤ maxHoldingQueueSize.toNat)
    (succeeds : ∀ payload sequence, callback payload sequence = true) :
    ∀ before, before <+: arrivals →
      SessionPacketOrderer.delivered callback maxHoldingQueueSize before =
          BotTester.ReceivePacketOrderer.delivered packetId before ∧
        BotTester.ReceivePacketOrderer.delivered packetId before =
          HoldingQueue.delivered before := by
  intro before isPrefix
  have small : ∀ frame ∈ before, frame.position ≤ 2 ^ 63 - 1 :=
    fun frame member => (bounded frame (isPrefix.subset member)).2
  have same :
      ∀ frame ∈ before, ∀ other ∈ before,
        frame.packetSequence = other.packetSequence →
          frame.payload = other.payload :=
    fun frame member other otherMember =>
      consistent frame (isPrefix.subset member) other
        (isPrefix.subset otherMember)
  have server :=
    SessionPacketOrderer.delivered_inOrder small
      (fun earlier isEarlier => capacity earlier (isEarlier.trans isPrefix))
      succeeds
  have tester :=
    BotTester.ReceivePacketOrderer.delivered_inOrder packetId small
  have client := HoldingQueue.delivered_inOrder small
  exact ⟨server.unique same tester, tester.unique same client⟩

end Runs

/-- Packets that arrive out of order and more than once. -/
def shuffledArrivals : List (DataFrame Nat) :=
  [⟨2, 20⟩, ⟨2, 20⟩, ⟨1, 10⟩, ⟨1, 10⟩, ⟨4, 40⟩, ⟨3, 30⟩]

theorem orderers_agree_shuffled :
    SessionPacketOrderer.delivered (fun _ _ => true) 1 shuffledArrivals =
        BotTester.ReceivePacketOrderer.delivered (fun _ => 7)
          shuffledArrivals ∧
      BotTester.ReceivePacketOrderer.delivered (fun _ => 7) shuffledArrivals =
        HoldingQueue.delivered shuffledArrivals :=
  orderers_agree (fun _ _ => true) (fun _ => 7) 1 (by decide) (by decide)
    (fun before isPrefix =>
      (by decide :
        ∀ listed ∈ shuffledArrivals.inits,
          outstanding DataFrame.position listed ≤ (1 : Byte).toNat)
        before ((List.mem_inits before shuffledArrivals).mpr isPrefix))
    (fun _ _ => rfl) shuffledArrivals List.prefix_rfl

end MultiSocketRudp
