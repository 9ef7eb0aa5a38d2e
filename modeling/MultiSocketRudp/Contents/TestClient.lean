import MultiSocketRudp.RequestResponse

/-!
# The test client

`TestClient` sends packets to the contents server and checks the responses
against what it has sent: orders by a list, echo strings by a multiset.  It
crashes on purpose when a response does not fit.

The test thread is composed with both directions of the connection and with the
handlers of `Player`.  Of the steps of `SendPacket` the test thread makes the
one that takes the sequence; the others may follow at any time.
-/

namespace MultiSocketRudp
namespace Contents

open RequestResponse TransitionSystems

/-- `TestClient`, as far as its checks read it. -/
structure TestClient where
  order : BitVec 32
  orderList : List (BitVec 32)
  /-- The multiset, in no particular order. -/
  echoStringSet : List (List Byte)
  deriving DecidableEq, Repr

/-- What becomes of a response. -/
inductive HandleResult
  /-- `g_Dump.Crash`, or the front of an empty list. -/
  | crashed
  /-- `ProcessPacketHandle` returns false. -/
  | invalid
  | handled (client : TestClient)
  deriving DecidableEq, Repr

namespace TestClient

/-- `SendAnyPacket` for the picked item, up to `SendPacket`. -/
def sendAnyPacket
    (client : TestClient) (pickedItem : Nat) (echoString : List Byte) :
    Option (TestClient × Packet) :=
  match pickedItem with
  | 0 => some (client, .ping)
  | 1 =>
      let order := client.order + 1
      some
        ({ client with order, orderList := client.orderList ++ [order] },
          .testPacketReq order)
  | 2 =>
      some
        ({ client with echoStringSet := echoString :: client.echoStringSet },
          .testStringPacketReq echoString)
  | _ => none

/-- The switch of `ProcessPacketHandle`, up to `SendAnyPacket`. -/
def processPacketHandle
    {Buffer : Type} (stream : NetBufferStream Buffer)
    (client : TestClient) (message : Message Buffer) : HandleResult :=
  if message.packetId = PacketIdType.pong.toPacketId then .handled client
  else if message.packetId = PacketIdType.testPacketRes.toPacketId then
    match client.orderList with
    | [] => .crashed
    | frontOrder :: orderList =>
        if frontOrder = stream.readInt message.parameters then
          .handled { client with orderList }
        else .crashed
  else if message.packetId = PacketIdType.testStringPacketRes.toPacketId then
    let recvString := stream.readString message.parameters
    if recvString ∈ client.echoStringSet then
      -- `erase` removes every copy of the string.
      .handled
        { client with
          echoStringSet :=
            client.echoStringSet.filter fun other => other ≠ recvString }
    else .crashed
  else .invalid

end TestClient

/-- Where the test thread stands. -/
inductive TestThread (Buffer : Type)
  /-- `WaitingConnectToServer`. -/
  | waiting
  /-- It is about to call `SendAnyPacket` so many times. -/
  | sending (sendCount : Nat)
  /-- `GetReceivedPacket` has returned this packet. -/
  | received (message : Message Buffer)
  | crashed
  deriving DecidableEq, Repr

/-- The test client with its connection to a player. -/
structure TestState (Buffer : Type) where
  connection : RequestResponse.State (Message Buffer) (Message Buffer)
  client : TestClient
  thread : TestThread Buffer

/-- The atomic steps. -/
inductive TestLabel (Buffer : Type)
  /-- Anything but the calls of the test thread. -/
  | connection
      (label : RequestResponse.Label (Message Buffer) (Message Buffer))
  | connected
  /-- `SendAnyPacket`; `SendPacket` takes a sequence unless it gets no buffer. -/
  | sendAnyPacket
      (pickedItem : Nat) (echoString : List Byte) (call : Nat) (sent : Bool)
  | getReceivedPacket
  | processPacketHandle

/-- The test thread makes these calls. -/
def isTestThreadStep {Buffer : Type} :
    RequestResponse.Label (Message Buffer) (Message Buffer) → Bool
  | .requests (.client (.allocate _ _)) => true
  | .responses .getReceivedPacket => true
  | _ => false

/-- Number of packets that the test thread sends at first. -/
def firstSendCount : Nat := 5

variable {Buffer : Type} [DecidableEq Buffer]

/-- One atomic step. -/
def testStep
    (config : Connection.Config)
    (stream : NetBufferStream Buffer)
    (pickAblePacketSize : Nat)
    (state : TestState Buffer) :
    TestLabel Buffer → Option (TestState Buffer)
  | .connection label =>
      if isTestThreadStep label then none
      else
        (RequestResponse.step config (Player.processPacket stream)
          state.connection label).map fun connection =>
            { state with connection }
  | .connected =>
      if state.thread = .waiting ∧
          state.connection.requests.client.isConnected then
        some { state with thread := .sending firstSendCount }
      else none
  | .sendAnyPacket pickedItem echoString call sent =>
      match state.thread with
      | .sending (sendCount + 1) =>
          if pickedItem < pickAblePacketSize then
            match state.client.sendAnyPacket pickedItem echoString with
            | none => some { state with thread := .sending sendCount }
            | some (client, packet) =>
                if sent then
                  (RequestResponse.step config (Player.processPacket stream)
                    state.connection
                    (.requests
                      (.client (.allocate call (packet.message stream))))).map
                    fun connection =>
                      { connection, client, thread := .sending sendCount }
                else some { state with client, thread := .sending sendCount }
          else none
      | _ => none
  | .getReceivedPacket =>
      if state.thread = .sending 0 then
        (RequestResponse.step config (Player.processPacket stream)
          state.connection (.responses .getReceivedPacket)).map
          fun connection =>
            { state with
              connection
              thread :=
                match (HoldingQueue.getReceivedPacket
                  state.connection.responses.recvPacketHoldingQueue
                  state.connection.responses.nextRecvPacketSequence).1 with
                | none => .sending 0
                | some info => .received info.buffer }
      else none
  | .processPacketHandle =>
      match state.thread with
      | .received message =>
          some
            (if state.connection.requests.client.isConnected then
              match state.client.processPacketHandle stream message with
              | .crashed => { state with thread := .crashed }
              | .invalid => { state with thread := .sending 0 }
              | .handled client => { state with client, thread := .sending 1 }
            else { state with thread := .sending 0 })
      | _ => none

/-- The client starts to connect. -/
def testInitial (config : Connection.Config) : TestState Buffer where
  connection := RequestResponse.initial config
  client := ⟨0, [], []⟩
  thread := .waiting

/-- The runs of a test client; `pickAblePacketSize` is 1 in the source. -/
def testSystem
    (config : Connection.Config)
    (stream : NetBufferStream Buffer)
    (pickAblePacketSize : Nat) :
    TransitionSystem (TestState Buffer) (TestLabel Buffer) where
  Initial state := state = testInitial config
  step := testStep config stream pickAblePacketSize

/-- `SendPacket` gets its buffer unless it sends a ping, no echo string is sent
while it is outstanding, and responses are processed on a connected client. -/
def Orderly (state : TestState Buffer) (label : TestLabel Buffer) : Prop :=
  match label with
  | .connection label => SequencesBounded state.connection label
  | .sendAnyPacket pickedItem echoString _ sent =>
      state.connection.requests.client.sent.length < 2 ^ 63 ∧
        (sent = true ∨ pickedItem = 0) ∧
        (pickedItem = 2 → echoString ∉ state.client.echoStringSet)
  | .processPacketHandle =>
      state.connection.requests.client.isConnected = true
  | .connected | .getReceivedPacket => True

instance (state : TestState Buffer) (label : TestLabel Buffer) :
    Decidable (Orderly state label) :=
  match label with
  | .connection label =>
      inferInstanceAs (Decidable (SequencesBounded state.connection label))
  | .sendAnyPacket _ _ _ _ => inferInstanceAs (Decidable (_ ∧ _ ∧ _))
  | .processPacketHandle =>
      inferInstanceAs
        (Decidable (state.connection.requests.client.isConnected = true))
  | .connected | .getReceivedPacket => .isTrue trivial

/-! ## What the test thread leaves to others -/

section frame

open SendPath

variable {Request Response : Type}

/-- Only `allocate` adds to what the client has sent. -/
theorem sent_clientStep
    [DecidableEq Request]
    {maxPacketRetransmissionCount : Nat}
    {client next : Client Request} {label : ClientLabel Request}
    {enqueued : List (ReceivePath.ClientFrame Request)}
    (other : ∀ call payload, label ≠ .allocate call payload)
    (moves :
      clientStep maxPacketRetransmissionCount client label =
        some (next, enqueued)) :
    next.sent = client.sent := by
  cases label with
  | allocate call payload => exact absurd rfl (other call payload)
  | onSendReply reply =>
      simp only [clientStep, Option.ite_none_right_eq_some] at moves
      obtain ⟨-, moves⟩ := moves
      split at moves <;> cases moves <;> rfl
  | retransmitCount info =>
      simp only [clientStep, Option.ite_none_right_eq_some] at moves
      obtain ⟨-, moves⟩ := moves
      split at moves <;> cases moves <;> rfl
  | _ =>
      simp only [clientStep, Option.ite_none_right_eq_some] at moves
      obtain ⟨-, moves⟩ := moves
      cases moves
      rfl

/-- So does no other step of the requests. -/
theorem sent_connectionStep
    [DecidableEq Request]
    {config : Connection.Config}
    {state next : Connection.State Request} {label : Connection.Label Request}
    (other : ∀ call payload, label ≠ .client (.allocate call payload))
    (moves : Connection.step config state label = some next) :
    next.client.sent = state.client.sent := by
  cases label with
  | client label =>
      simp only [Connection.step, Option.ite_none_right_eq_some,
        Option.map_eq_some_iff] at moves
      obtain ⟨-, ⟨client, enqueued⟩, moved, rfl⟩ := moves
      refine sent_clientStep ?_ moved
      rintro call payload rfl
      exact other call payload rfl
  | deliverReply reply =>
      simp only [Connection.step, Option.ite_none_right_eq_some,
        Option.map_eq_some_iff] at moves
      obtain ⟨-, ⟨client, enqueued⟩, moved, rfl⟩ := moves
      exact sent_clientStep (by rintro call payload ⟨⟩) moved
  | sendReply packetSequence thenDrain sent =>
      cases sent <;>
        simp only [Connection.step, Option.ite_none_right_eq_some,
          Option.some.injEq] at moves <;>
        obtain ⟨-, rfl⟩ := moves <;> rfl
  | _ =>
      simp only [Connection.step, Option.ite_none_right_eq_some,
        Option.some.injEq] at moves
      obtain ⟨-, rfl⟩ := moves
      rfl

/-- Only `GetReceivedPacket` returns packets. -/
theorem returned_transportStep
    [DecidableEq Response]
    {maxPacketRetransmissionCount : Nat}
    {state next : ServerToClient.State Response}
    {label : ServerToClient.Label Response}
    (other : label ≠ .getReceivedPacket)
    (moves :
      ServerToClient.step maxPacketRetransmissionCount state label =
        some next) :
    next.returned = state.returned := by
  cases label with
  | takeSequence useSize packetType buffer =>
      simp only [ServerToClient.step, Option.ite_none_right_eq_some,
        Option.map_eq_some_iff] at moves
      obtain ⟨-, server, -, rfl⟩ := moves
      rfl
  | server label =>
      simp only [ServerToClient.step, Option.ite_none_right_eq_some,
        Option.map_eq_some_iff] at moves
      obtain ⟨-, server, -, rfl⟩ := moves
      unfold ServerToClient.State.afterServer
      split <;> rfl
  | processRecvPacket =>
      simp only [ServerToClient.step] at moves
      split at moves
      · obtain rfl := Option.some.inj moves
        rfl
      · cases moves
  | sendReply shouldSendReply =>
      obtain ⟨packetSequence, -, rfl⟩ := Option.map_eq_some_iff.mp moves
      rfl
  | getReceivedPacket => exact absurd rfl other
  | onSendReply packetSequence =>
      obtain ⟨-, moves⟩ := Option.ite_none_right_eq_some.mp moves
      unfold ServerToClient.State.onSendReply at moves
      split at moves
      · obtain rfl := Option.some.inj moves
        rfl
      split at moves
      · obtain rfl := Option.some.inj moves
        rfl
      · obtain ⟨server, -, rfl⟩ := Option.map_eq_some_iff.mp moves
        rfl
  | _ =>
      simp only [ServerToClient.step, Option.ite_none_right_eq_some,
        Option.some.injEq] at moves
      obtain ⟨-, rfl⟩ := moves
      rfl

end frame

/-- The other threads neither send requests nor take responses. -/
theorem quiet_step
    {config : Connection.Config} {stream : NetBufferStream Buffer}
    {state next :
      RequestResponse.State (Message Buffer) (Message Buffer)}
    {label : RequestResponse.Label (Message Buffer) (Message Buffer)}
    (other : isTestThreadStep label = false)
    (moves :
      RequestResponse.step config (Player.processPacket stream) state label =
        some next) :
    next.requests.client.sent = state.requests.client.sent ∧
      next.responses.returned = state.responses.returned := by
  cases label with
  | requests label =>
      simp only [RequestResponse.step, Option.ite_none_right_eq_some,
        Option.map_eq_some_iff] at moves
      obtain ⟨-, requests, moved, rfl⟩ := moves
      refine ⟨sent_connectionStep ?_ moved, rfl⟩
      rintro call payload rfl
      cases other
  | responses label =>
      simp only [RequestResponse.step, Option.ite_none_right_eq_some,
        Option.map_eq_some_iff] at moves
      obtain ⟨-, responses, moved, rfl⟩ := moves
      refine ⟨rfl, returned_transportStep ?_ moved⟩
      rintro rfl
      cases other
  | processPacket frame =>
      simp only [RequestResponse.step] at moves
      split at moves
      · obtain ⟨requests, moved, rfl⟩ := Option.map_eq_some_iff.mp moves
        exact ⟨sent_connectionStep (by rintro _ _ ⟨⟩) moved, rfl⟩
      · obtain ⟨-, moves⟩ := Option.ite_none_right_eq_some.mp moves
        obtain rfl := Option.some.inj moves
        exact ⟨rfl, rfl⟩
      · cases moves
  | isConnected =>
      simp only [RequestResponse.step] at moves
      split at moves
      · obtain rfl := Option.some.inj moves
        exact ⟨rfl, rfl⟩
      · cases moves
  | allocFails =>
      simp only [RequestResponse.step] at moves
      split at moves
      · obtain ⟨responses, moved, rfl⟩ := Option.map_eq_some_iff.mp moves
        exact ⟨rfl, returned_transportStep (by simp) moved⟩
      · cases moves
  | takeSequence useSize =>
      simp only [RequestResponse.step] at moves
      split at moves
      · obtain ⟨responses, moved, rfl⟩ := Option.map_eq_some_iff.mp moves
        exact ⟨rfl, returned_transportStep (by simp) moved⟩
      · cases moves
  | returns frame =>
      simp only [RequestResponse.step] at moves
      split at moves
      · obtain ⟨requests, moved, rfl⟩ := Option.map_eq_some_iff.mp moves
        exact ⟨sent_connectionStep (by rintro _ _ ⟨⟩) moved, rfl⟩
      · cases moves

/-! ## Requests and their responses -/

/-- What a player answers to a request. -/
def responseOf : Packet → Packet
  | .ping => .pong
  | .testStringPacketReq testString => .testStringPacketRes testString
  | .testPacketReq order => .testPacketRes order
  | other => other

/-- The order of a request. -/
def Packet.order? : Packet → Option (BitVec 32)
  | .testPacketReq order => some order
  | _ => none

/-- The string of a request. -/
def Packet.testString? : Packet → Option (List Byte)
  | .testStringPacketReq testString => some testString
  | _ => none

omit [DecidableEq Buffer] in
/-- Every request has one response. -/
theorem answers_map_message
    (stream : NetBufferStream Buffer) {packets : List Packet}
    (registered : ∀ packet ∈ packets,
      Player.isRegistered packet.getPacketId = true) :
    answers (Player.processPacket stream)
        (packets.map (Packet.message stream)) =
      packets.map fun packet => (responseOf packet).message stream := by
  induction packets with
  | nil => rfl
  | cons packet packets inductionHypothesis =>
      have first := registered packet List.mem_cons_self
      have rest := inductionHypothesis fun other member =>
        registered other (List.mem_cons_of_mem _ member)
      simp only [answers, List.map_cons, List.flatMap_cons,
        Player.processPacket_message, first, if_true,
        Option.getD_some] at rest ⊢
      rw [rest]
      cases packet with
      | ping | testStringPacketReq _ | testPacketReq _ => rfl
      | pong | testStringPacketRes _ | testPacketRes _ => cases first

/-- What the client remembers belongs to the requests without a response. -/
structure Remembers
    (client : TestClient) (outstanding : List Packet) : Prop where
  orders : client.orderList = outstanding.filterMap Packet.order?
  echoes :
    client.echoStringSet.Perm (outstanding.filterMap Packet.testString?)
  distinct : client.echoStringSet.Nodup

namespace Remembers

variable {client next : TestClient} {outstanding : List Packet}

/-- A request is remembered. -/
theorem sendAnyPacket
    {pickedItem : Nat} {echoString : List Byte} {packet : Packet}
    (holds : Remembers client outstanding)
    (new : pickedItem = 2 → echoString ∉ client.echoStringSet)
    (picks :
      client.sendAnyPacket pickedItem echoString = some (next, packet)) :
    Remembers next (outstanding ++ [packet]) ∧
      Player.isRegistered packet.getPacketId = true := by
  unfold TestClient.sendAnyPacket at picks
  split at picks
  · cases picks
    exact
      ⟨{ orders := by simp [holds.orders, Packet.order?]
         echoes := by
           rw [List.filterMap_append, List.filterMap_cons_none rfl,
             List.filterMap_nil, List.append_nil]
           exact holds.echoes
         distinct := holds.distinct }, rfl⟩
  · cases picks
    exact
      ⟨{ orders := by simp [holds.orders, Packet.order?]
         echoes := by
           rw [List.filterMap_append, List.filterMap_cons_none rfl,
             List.filterMap_nil, List.append_nil]
           exact holds.echoes
         distinct := holds.distinct }, rfl⟩
  · cases picks
    refine
      ⟨{ orders := by simp [holds.orders, Packet.order?]
         echoes := ?_
         distinct := List.nodup_cons.mpr ⟨new rfl, holds.distinct⟩ }, rfl⟩
    rw [List.filterMap_append]
    exact (holds.echoes.cons echoString).trans
      (List.perm_append_singleton _ _).symm
  · cases picks

/-- The response to the first outstanding request is what the client waits
for. -/
theorem processPacketHandle
    {Buffer : Type} (stream : NetBufferStream Buffer) {packet : Packet}
    (holds : Remembers client (packet :: outstanding))
    (registered : Player.isRegistered packet.getPacketId = true) :
    ∃ next,
      client.processPacketHandle stream
          ((responseOf packet).message stream) = .handled next ∧
        Remembers next outstanding := by
  obtain ⟨orders, echoes, distinct⟩ := holds
  cases packet with
  | ping => exact ⟨client, rfl, ⟨orders, echoes, distinct⟩⟩
  | testPacketReq order =>
      rw [List.filterMap_cons_some (f := Packet.order?) rfl] at orders
      refine
        ⟨{ client with orderList := outstanding.filterMap Packet.order? }, ?_,
          ⟨rfl, echoes, distinct⟩⟩
      simp [TestClient.processPacketHandle, responseOf, Packet.message,
        Packet.getPacketId, Packet.idType, PacketIdType.toPacketId, orders,
        Packet.packetToBuffer, stream.readInt_writeInt]
  | testStringPacketReq testString =>
      rw [List.filterMap_cons_some (f := Packet.testString?) rfl] at echoes
      have member : testString ∈ client.echoStringSet :=
        echoes.mem_iff.mpr List.mem_cons_self
      have apart : testString ∉ outstanding.filterMap Packet.testString? :=
        (List.nodup_cons.mp (echoes.nodup distinct)).1
      refine
        ⟨{ client with
            echoStringSet :=
              client.echoStringSet.filter fun other =>
                other ≠ testString }, ?_,
          ⟨orders, ?_, distinct.filter _⟩⟩
      · simp [TestClient.processPacketHandle, responseOf, Packet.message,
          Packet.getPacketId, Packet.idType, PacketIdType.toPacketId, member,
          Packet.packetToBuffer, stream.readString_writeString]
      · refine (echoes.filter _).trans ?_
        rw [List.filter_cons_of_neg (by simp), List.filter_eq_self.mpr]
        intro other inside
        simpa using ne_of_mem_of_not_mem inside apart
  | pong | testStringPacketRes _ | testPacketRes _ => cases registered

end Remembers

/-! ## The invariant -/

/-- The packet that the test thread is about to process. -/
def TestThread.pending {Buffer : Type} :
    TestThread Buffer → List (Message Buffer)
  | .received message => [message]
  | _ => []

/-- The processed responses answer the first requests, and the others are
remembered. -/
structure Expecting
    {Buffer : Type} (stream : NetBufferStream Buffer)
    (state : TestState Buffer) : Prop where
  connection :
    RequestResponse.Invariant (Player.processPacket stream) state.connection
  notCrashed : state.thread ≠ .crashed
  remembered : ∃ processed outstanding : List Packet,
    (∀ packet ∈ processed ++ outstanding,
      Player.isRegistered packet.getPacketId = true) ∧
    state.connection.requests.client.sent =
      (processed ++ outstanding).map (Packet.message stream) ∧
    state.connection.received =
      (processed.map fun packet => (responseOf packet).message stream) ++
        state.thread.pending ∧
    Remembers state.client outstanding

namespace Expecting

variable {config : Connection.Config} {stream : NetBufferStream Buffer}
variable {pickAblePacketSize : Nat} {state next : TestState Buffer}

omit [DecidableEq Buffer] in
theorem initial :
    Expecting stream (testInitial config : TestState Buffer) where
  connection := Invariant.initial
  notCrashed := by simp [testInitial]
  remembered :=
    ⟨[], [], by simp, rfl, rfl, ⟨rfl, .nil, List.nodup_nil⟩⟩

omit [DecidableEq Buffer] in
/-- The packet in the hands of the test thread is the response to the first
outstanding request. -/
theorem pending_eq
    {message : Message Buffer} {processed outstanding : List Packet}
    (holds : Expecting stream state)
    (registered : ∀ packet ∈ processed ++ outstanding,
      Player.isRegistered packet.getPacketId = true)
    (sent :
      state.connection.requests.client.sent =
        (processed ++ outstanding).map (Packet.message stream))
    (received :
      state.connection.received =
        (processed.map fun packet => (responseOf packet).message stream) ++
          [message]) :
    ∃ packet rest, outstanding = packet :: rest ∧
      message = (responseOf packet).message stream := by
  have begins := holds.connection.answered_of.in_order
  rw [sent, received, answers_map_message stream registered, List.map_append,
    List.prefix_append_right_inj] at begins
  cases outstanding with
  | nil => simp at begins
  | cons packet rest =>
      obtain ⟨later, same⟩ := begins
      exact ⟨packet, rest, rfl, (List.cons.inj same).1⟩

/-- Every orderly step keeps the invariant. -/
theorem step
    {label : TestLabel Buffer}
    (holds : Expecting stream state)
    (orderly : Orderly state label)
    (moves : testStep config stream pickAblePacketSize state label =
      some next) :
    Expecting stream next := by
  obtain ⟨processed, outstanding, registered, sent, received, remembers⟩ :=
    holds.remembered
  cases label with
  | connection label =>
      simp only [testStep, Option.ite_none_left_eq_some, Bool.not_eq_true,
        Option.map_eq_some_iff] at moves
      obtain ⟨other, connection, moved, rfl⟩ := moves
      obtain ⟨sent_eq, returned_eq⟩ := quiet_step other moved
      have received_eq : connection.received = state.connection.received :=
        congrArg (List.map HoldingQueue.RecvPacketInfo.buffer) returned_eq
      exact
        { connection := holds.connection.step orderly moved
          notCrashed := holds.notCrashed
          remembered := ⟨processed, outstanding, registered,
            sent_eq.trans sent, received_eq.trans received, remembers⟩ }
  | connected =>
      simp only [testStep, Option.ite_none_right_eq_some,
        Option.some.injEq] at moves
      obtain ⟨⟨waits, -⟩, rfl⟩ := moves
      rw [waits] at received
      exact
        { connection := holds.connection
          notCrashed := by simp
          remembered :=
            ⟨processed, outstanding, registered, sent, received, remembers⟩ }
  | sendAnyPacket pickedItem echoString call allocated =>
      obtain ⟨below, buffered, new⟩ := orderly
      simp only [testStep] at moves
      split at moves
      next sendCount stands =>
        rw [stands] at received
        obtain ⟨-, moves⟩ := Option.ite_none_right_eq_some.mp moves
        split at moves
        next =>
          obtain rfl := Option.some.inj moves
          exact
            { connection := holds.connection
              notCrashed := by simp
              remembered := ⟨processed, outstanding, registered, sent,
                received, remembers⟩ }
        next client packet picks =>
          obtain ⟨later, request⟩ := remembers.sendAnyPacket new picks
          split at moves
          next =>
            obtain ⟨connection, moved, rfl⟩ :=
              Option.map_eq_some_iff.mp moves
            have bounded : SequencesBounded state.connection
                (.requests
                  (.client (.allocate call (packet.message stream)))) :=
              fun _ => below
            have kept := holds.connection.step bounded moved
            simp only [RequestResponse.step, isNetworkStep, if_true,
              Connection.step, SendPath.isOwnStep, SendPath.clientStep,
              Option.map_eq_some_iff, Option.ite_none_right_eq_some,
              Option.some.injEq] at moved
            obtain ⟨requests, ⟨_, ⟨-, rfl⟩, rfl⟩, rfl⟩ := moved
            refine
              { connection := kept
                notCrashed := by simp
                remembered :=
                  ⟨processed, outstanding ++ [packet], ?_, ?_, received,
                    later⟩ }
            · intro other member
              rw [← List.append_assoc] at member
              rcases List.mem_append.mp member with old | last
              · exact registered other old
              · obtain rfl := List.mem_singleton.mp last
                exact request
            · simp [sent]
          next notSent =>
            obtain rfl := Option.some.inj moves
            obtain rfl := buffered.resolve_left notSent
            cases picks
            exact
              { connection := holds.connection
                notCrashed := by simp
                remembered := ⟨processed, outstanding, registered, sent,
                  received, remembers⟩ }
      next => cases moves
  | getReceivedPacket =>
      simp only [testStep, Option.ite_none_right_eq_some,
        Option.map_eq_some_iff] at moves
      obtain ⟨stands, connection, moved, rfl⟩ := moves
      rw [stands] at received
      have below : SequencesBounded state.connection
          (.responses .getReceivedPacket) := trivial
      have kept := holds.connection.step below moved
      simp only [RequestResponse.step, isTransportStep, if_true,
        ServerToClient.step, Option.map_some, Option.some.injEq] at moved
      obtain rfl := moved
      refine
        { connection := kept
          notCrashed := by
            dsimp only
            split <;> simp
          remembered :=
            ⟨processed, outstanding, registered, sent, ?_, remembers⟩ }
      simp only [State.received, List.map_append, TestThread.pending,
        List.append_nil] at received ⊢
      rw [received]
      cases (HoldingQueue.getReceivedPacket
        state.connection.responses.recvPacketHoldingQueue
        state.connection.responses.nextRecvPacketSequence).1 with
      | none => rfl
      | some info => rfl
  | processPacketHandle =>
      simp only [testStep] at moves
      split at moves
      next message stands =>
        obtain rfl := Option.some.inj moves
        rw [stands] at received
        obtain ⟨packet, rest, rfl, rfl⟩ :=
          holds.pending_eq registered sent received
        obtain ⟨client, handled, later⟩ :=
          remembers.processPacketHandle stream
            (registered packet (by simp))
        have connected :
            state.connection.requests.client.isConnected = true := orderly
        rw [if_pos connected, handled]
        refine
          { connection := holds.connection
            notCrashed := by simp
            remembered :=
              ⟨processed ++ [packet], rest, ?_, ?_, ?_, later⟩ }
        · simpa using registered
        · simpa using sent
        · simpa [TestThread.pending] using received
      next => cases moves

end Expecting

/-- In every orderly run the test client accepts every response: it never
crashes. -/
theorem accepts_every_response
    {config : Connection.Config} {stream : NetBufferStream Buffer}
    {pickAblePacketSize : Nat} {state : TestState Buffer}
    (reached :
      (testSystem config stream pickAblePacketSize).GuardedReachable
        Orderly state) :
    state.thread ≠ .crashed ∧
      ∀ message, state.thread = .received message →
        ∃ next,
          state.client.processPacketHandle stream message =
            .handled next := by
  have holds : Expecting stream state := by
    refine reached.invariant ?_ ?_
    · rintro _ rfl
      exact Expecting.initial
    · intro before label after _ holds orderly moves
      exact holds.step orderly moves
  refine ⟨holds.notCrashed, fun message stands => ?_⟩
  obtain ⟨processed, outstanding, registered, sent, received, remembers⟩ :=
    holds.remembered
  rw [stands] at received
  obtain ⟨packet, rest, rfl, rfl⟩ :=
    holds.pending_eq registered sent received
  obtain ⟨next, handled, -⟩ :=
    remembers.processPacketHandle stream (registered packet (by simp))
  exact ⟨next, handled⟩

/-! ## An order and its response -/

/-- The client sends an order, a string and three pings; its first packet is
handled, and the response arrives. -/
def orderAnswered : List (TestLabel (BitVec 32 × List Byte)) :=
  let frame : ReceivePath.DataFrame (Message (BitVec 32 × List Byte)) :=
    ⟨1, (Packet.testPacketReq 1).message parameterStream⟩
  [.connection (.requests (.deliver (.connect 0 0))),
    .connection (.requests (.sendReply 0 false true)),
    .connection (.requests (.deliverReply ⟨0, 1⟩)),
    .connection (.requests (.client (.eraseAcked 0))), .connected,
    .sendAnyPacket 1 [] 1 true, .sendAnyPacket 2 [65, 66] 2 true,
    .sendAnyPacket 0 [] 3 true, .sendAnyPacket 0 [] 4 true,
    .sendAnyPacket 0 [] 5 true,
    .connection (.requests (.client (.loadWindow 1 frame))),
    .connection (.requests (.client (.compareOutstanding 1 frame 1))),
    .connection (.requests (.client (.register 1 frame))),
    .connection (.requests (.client (.enqueue 1 frame))),
    .connection (.requests (.deliver (.send frame))),
    .connection (.processPacket frame), .connection .isConnected,
    .connection (.takeSequence 40), .connection (.returns frame)] ++
  pongTransmission.map
    (fun label => .connection (.responses (.server label))) ++
  [.connection
      (.responses
        (.deliver
          [⟨(Packet.testPacketRes 1).message parameterStream, 1, .sendType⟩])),
    .connection (.responses .processRecvPacket),
    .connection (.responses (.sendReply true)), .getReceivedPacket]

/-- The state after it. -/
def orderReceived : TestState (BitVec 32 × List Byte) :=
  ((testSystem Connection.narrowConfig parameterStream 3).run
    (testInitial Connection.narrowConfig) orderAnswered).getD
    (testInitial Connection.narrowConfig)

theorem guardedRun_orderAnswered :
    (testSystem Connection.narrowConfig parameterStream 3).guardedRun Orderly
      (testInitial Connection.narrowConfig) orderAnswered =
        some orderReceived := rfl

theorem accepts_every_response_orderReceived :
    orderReceived.thread ≠ .crashed ∧
      ∀ message, orderReceived.thread = .received message →
        ∃ next,
          orderReceived.client.processPacketHandle parameterStream message =
            .handled next :=
  accepts_every_response
    (TransitionSystem.GuardedReachable.guardedRun (.initial rfl)
      guardedRun_orderAnswered)

example :
    orderReceived.thread =
      .received ((Packet.testPacketRes 1).message parameterStream) := rfl

end Contents
end MultiSocketRudp
