import MultiSocketRudp.Server.ReceivePath

/-!
# The send path of the client

Any number of threads are inside `RUDPClientCore::SendPacket`, while the receive
thread processes acknowledgements and the retransmission thread sends again what
is still registered.  Each call advances by its loads, its counter increment and
its lock sections.  A step yields the packets that it enqueues for sending.
-/

namespace MultiSocketRudp
namespace SendPath

open ReceivePath

/-- `SendPacketInfo` of the client. -/
structure SendPacketInfo (Payload : Type) where
  frame : ClientFrame Payload
  retransmissionCount : Nat := 0
  deriving DecidableEq, Repr

/-- Where one call of `SendPacket(IPacket&)` stands. -/
inductive ClientCall (Payload : Type)
  | idle
  /-- The sequence is allocated and the packet encoded. -/
  | allocated (frame : DataFrame Payload)
  /-- A window other than zero has been loaded. -/
  | windowLoaded (frame : DataFrame Payload) (window : Byte)
  /-- The packet has to wait. -/
  | toPending (frame : DataFrame Payload)
  /-- The packet is about to be registered. -/
  | registering (frame : DataFrame Payload)
  /-- The packet is registered and about to be enqueued. -/
  | registered (frame : DataFrame Payload)
  deriving DecidableEq, Repr

/-- Where the receive thread stands in `OnSendReply`. -/
inductive Receiver (Payload : Type)
  | idle
  /-- The window is stored. -/
  | windowStored (packetSequence : PacketSequence)
  /-- The sequence is erased from the map. -/
  | erased
  /-- `TryFlushPendingQueue` holds the pending lock. -/
  | flushing (window : Byte)
  /-- It is about to register a popped packet. -/
  | flushRegistering (frame : DataFrame Payload) (window : Byte)
  /-- It is about to enqueue a registered packet. -/
  | flushRegistered (frame : DataFrame Payload) (window : Byte)
  deriving DecidableEq, Repr

/-- The receive thread holds the pending lock. -/
def Receiver.holdsPendingLock {Payload : Type} : Receiver Payload → Bool
  | .flushing _ => true
  | .flushRegistering _ _ => true
  | .flushRegistered _ _ => true
  | _ => false

/-- `RUDPClientCore`, as far as the send path reads it. -/
structure Client (Payload : Type) where
  lastSendPacketSequence : PacketSequence
  sendPacketInfoMap : List (SendPacketInfo Payload)
  /-- The priority queue of pending packets, in no particular order. -/
  pendingPacketQueue : List (DataFrame Payload)
  remoteAdvertisedWindow : Byte
  isConnected : Bool
  threadStopFlag : Bool
  /-- The calls of `SendPacket` in progress, by thread. -/
  calls : Nat → ClientCall Payload
  receiver : Receiver Payload
  /-- The packet that the retransmission thread is about to enqueue. -/
  retransmission : Option (ClientFrame Payload)
  /-- Payloads passed to `SendPacket`, in the order of their sequences. -/
  sent : List Payload
  /-- Sequences that an acknowledgement has erased from the map. -/
  dropped : List PacketSequence

/-- The atomic steps of the client. -/
inductive ClientLabel (Payload : Type)
  /-- `SendPacket(IPacket&)` takes the next sequence and encodes the packet. -/
  | allocate (call : Nat) (payload : Payload)
  /-- It loads the advertised window. -/
  | loadWindow (call : Nat) (frame : DataFrame Payload)
  /-- It compares the window with the size of the map. -/
  | compareOutstanding
      (call : Nat) (frame : DataFrame Payload) (window : Byte)
  /-- It pushes the packet under the pending lock. -/
  | pushPending (call : Nat) (frame : DataFrame Payload)
  /-- `RegisterSendPacketInfo` inserts the packet in the map. -/
  | register (call : Nat) (frame : DataFrame Payload)
  /-- The pool has no `SendPacketInfo` left. -/
  | registerFails (call : Nat) (frame : DataFrame Payload)
  /-- The registered packet is enqueued for sending. -/
  | enqueue (call : Nat) (frame : DataFrame Payload)
  /-- `OnSendReply` takes a reply that the receive thread has decoded. -/
  | onSendReply (reply : SendReply)
  /-- It erases the sequence from the map. -/
  | eraseAcked (packetSequence : PacketSequence)
  /-- `TryFlushPendingQueue` loads the window and takes the pending lock. -/
  | flushBegin
  /-- It pops the packet with the smallest sequence. -/
  | flushPop (frame : DataFrame Payload) (window : Byte)
  /-- It registers the popped packet. -/
  | flushRegister (frame : DataFrame Payload) (window : Byte)
  /-- The pool has no `SendPacketInfo` left. -/
  | flushRegisterFails (frame : DataFrame Payload) (window : Byte)
  /-- It enqueues the registered packet. -/
  | flushEnqueue (frame : DataFrame Payload) (window : Byte)
  /-- It releases the pending lock. -/
  | flushEnd (window : Byte)
  /-- The retransmission thread counts a registered packet. -/
  | retransmitCount (info : SendPacketInfo Payload)
  /-- It enqueues that packet. -/
  | retransmitEnqueue (frame : ClientFrame Payload)

/-- The client's own steps; a reply is delivered by the network. -/
def isOwnStep {Payload : Type} : ClientLabel Payload → Bool
  | .onSendReply _ => false
  | _ => true

variable {Payload : Type}

/-- `sendPacketInfoMap.insert`, which leaves a present key alone. -/
def insertSendPacketInfo
    (map : List (SendPacketInfo Payload)) (frame : ClientFrame Payload) :
    List (SendPacketInfo Payload) :=
  if map.any fun info => info.frame.packetSequence = frame.packetSequence then
    map
  else { frame } :: map

/-- `static_cast<BYTE>(sendPacketInfoMap.size())`. -/
def Client.outstanding (client : Client Payload) : Byte :=
  BitVec.ofNat 8 client.sendPacketInfoMap.length

/-- A client that has registered its CONNECT packet. -/
def Client.connecting (sessionId : SessionIdType) : Client Payload where
  lastSendPacketSequence := 0
  sendPacketInfoMap := [{ frame := .connect loginPacketSequence sessionId }]
  pendingPacketQueue := []
  remoteAdvertisedWindow := 1
  isConnected := false
  threadStopFlag := false
  calls _ := .idle
  receiver := .idle
  retransmission := none
  sent := []
  dropped := []

section Step

variable [DecidableEq Payload]

/-- One atomic step of the client, with the packets that it enqueues. -/
def clientStep
    (maxPacketRetransmissionCount : Nat) (client : Client Payload) :
    ClientLabel Payload → Option (Client Payload × List (ClientFrame Payload))
  | .allocate call payload =>
      if client.calls call = .idle then
        let packetSequence := client.lastSendPacketSequence + 1
        some
          ({ client with
              lastSendPacketSequence := packetSequence
              sent := client.sent ++ [payload]
              calls :=
                Function.update client.calls call
                  (.allocated ⟨packetSequence, payload⟩) }, [])
      else none
  | .loadWindow call frame =>
      if client.calls call = .allocated frame then
        let window := client.remoteAdvertisedWindow
        some
          ({ client with
              calls :=
                Function.update client.calls call
                  (if window = 0 then .toPending frame
                    else .windowLoaded frame window) }, [])
      else none
  | .compareOutstanding call frame window =>
      if client.calls call = .windowLoaded frame window then
        some
          ({ client with
              calls :=
                Function.update client.calls call
                  (if window ≤ client.outstanding then .toPending frame
                    else .registering frame) }, [])
      else none
  | .pushPending call frame =>
      if client.calls call = .toPending frame ∧
          client.receiver.holdsPendingLock = false then
        some
          ({ client with
              pendingPacketQueue := frame :: client.pendingPacketQueue
              calls := Function.update client.calls call .idle }, [])
      else none
  | .register call frame =>
      if client.calls call = .registering frame then
        some
          ({ client with
              sendPacketInfoMap :=
                insertSendPacketInfo client.sendPacketInfoMap (.send frame)
              calls :=
                Function.update client.calls call (.registered frame) }, [])
      else none
  | .registerFails call frame =>
      if client.calls call = .registering frame then
        some
          ({ client with
              calls := Function.update client.calls call .idle }, [])
      else none
  | .enqueue call frame =>
      if client.calls call = .registered frame then
        some
          ({ client with
              calls := Function.update client.calls call .idle },
            [.send frame])
      else none
  | .onSendReply reply =>
      if client.receiver = .idle then
        if client.lastSendPacketSequence < reply.packetSequence then
          some (client, [])
        else
          some
            ({ client with
                remoteAdvertisedWindow := reply.advertiseWindow
                isConnected :=
                  client.isConnected || reply.packetSequence == 0
                receiver := .windowStored reply.packetSequence }, [])
      else none
  | .eraseAcked packetSequence =>
      if client.receiver = .windowStored packetSequence then
        let acked := fun info : SendPacketInfo Payload =>
          info.frame.packetSequence == packetSequence
        some
          ({ client with
              sendPacketInfoMap :=
                client.sendPacketInfoMap.filter fun info => !acked info
              dropped :=
                if client.sendPacketInfoMap.any acked then
                  packetSequence :: client.dropped
                else client.dropped
              receiver := .erased }, [])
      else none
  | .flushBegin =>
      if client.receiver = .erased then
        let window := client.remoteAdvertisedWindow
        some
          ({ client with
              receiver := if window = 0 then .idle else .flushing window }, [])
      else none
  | .flushPop frame window =>
      if client.receiver = .flushing window ∧
          ¬ window ≤ client.outstanding ∧
          frame ∈ client.pendingPacketQueue ∧
          ∀ other ∈ client.pendingPacketQueue,
            frame.packetSequence ≤ other.packetSequence then
        some
          ({ client with
              pendingPacketQueue := client.pendingPacketQueue.erase frame
              receiver := .flushRegistering frame window }, [])
      else none
  | .flushRegister frame window =>
      if client.receiver = .flushRegistering frame window then
        some
          ({ client with
              sendPacketInfoMap :=
                insertSendPacketInfo client.sendPacketInfoMap (.send frame)
              receiver := .flushRegistered frame window }, [])
      else none
  | .flushRegisterFails frame window =>
      if client.receiver = .flushRegistering frame window then
        some ({ client with receiver := .flushing window }, [])
      else none
  | .flushEnqueue frame window =>
      if client.receiver = .flushRegistered frame window then
        some ({ client with receiver := .flushing window }, [.send frame])
      else none
  | .flushEnd window =>
      if client.receiver = .flushing window ∧
          (client.pendingPacketQueue = [] ∨ window ≤ client.outstanding) then
        some ({ client with receiver := .idle }, [])
      else none
  | .retransmitCount info =>
      if client.retransmission = none ∧ client.threadStopFlag = false ∧
          info ∈ client.sendPacketInfoMap then
        let counted :=
          { info with retransmissionCount := info.retransmissionCount + 1 }
        let map := counted :: client.sendPacketInfoMap.erase info
        if maxPacketRetransmissionCount ≤ counted.retransmissionCount then
          some
            ({ client with
                sendPacketInfoMap := map
                isConnected := false
                threadStopFlag := true }, [])
        else
          some
            ({ client with
                sendPacketInfoMap := map
                retransmission := some info.frame }, [])
      else none
  | .retransmitEnqueue frame =>
      if client.retransmission = some frame then
        some ({ client with retransmission := none }, [frame])
      else none

end Step

end SendPath
end MultiSocketRudp
