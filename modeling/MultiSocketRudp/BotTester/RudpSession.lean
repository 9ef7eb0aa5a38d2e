import MultiSocketRudp.Server.ReceivePath

/-!
# The send side of a bot session

Any number of tasks are inside `SendPacket`, while the receive task processes
replies and the retransmission task wakes up every 16 milliseconds.  A packet is
put into `BufferStore` before it is sent for the first time and stays there until
a reply names its sequence.

A `SendPacketInfo` outlives its place in the store as long as a task has a
reference to it.  Objects are named by their sequence, of which there is one for
each call until the sequences wrap around.
-/

namespace MultiSocketRudp
namespace BotTester
namespace RudpSession

open ReceivePath

/-- Milliseconds, as an unsigned 64-bit word. -/
abbrev Timestamp := BitVec 64

/-- `RetransmissionTimeoutMs`. -/
def retransmissionTimeoutMs : Timestamp := 20

/-- `RetransmissionMaxCount`. -/
def retransmissionMaxCount : Nat := 16

/-- `SendPacketInfo`.  What a packet carries is none for the DISCONNECT packet
only, which is never stored. -/
structure SendPacketInfo (Payload : Type) where
  sentBuffer : ClientFrame (Option Payload)
  sendTimeStampMs : Timestamp
  ackReceivedTimestampMs : Timestamp := 0
  retransmissionCount : Nat := 0
  deriving DecidableEq, Repr

namespace SendPacketInfo

variable {Payload : Type} (info : SendPacketInfo Payload) (now : Timestamp)

/-- `RefreshSendPacketInfo`. -/
def refreshSendPacketInfo : SendPacketInfo Payload :=
  { info with
    sendTimeStampMs := now
    retransmissionCount := info.retransmissionCount + 1 }

/-- `IsRetransmissionTime`, whose difference wraps around. -/
def isRetransmissionTime : Bool :=
  retransmissionTimeoutMs ≤ now - info.sendTimeStampMs

/-- `MarkAckReceived`. -/
def markAckReceived : SendPacketInfo Payload :=
  if info.ackReceivedTimestampMs = 0 then
    { info with ackReceivedTimestampMs := now }
  else info

/-- `HasAckReceived`. -/
def hasAckReceived : Bool :=
  info.ackReceivedTimestampMs ≠ 0

/-- `IsExceedMaxRetransmissionCount`. -/
def isExceedMaxRetransmissionCount : Bool :=
  retransmissionMaxCount ≤ info.retransmissionCount

/-- A packet is due when it was sent long enough ago, and also when its stamp is
later than the clock reading of the tick. -/
theorem isRetransmissionTime_iff :
    info.isRetransmissionTime now = true ↔
      (info.sendTimeStampMs ≤ now ∧
        20 ≤ now.toNat - info.sendTimeStampMs.toNat) ∨
      (now < info.sendTimeStampMs ∧
        info.sendTimeStampMs.toNat ≤ now.toNat + (2 ^ 64 - 20)) := by
  have bound := now.isLt
  have stampBound := info.sendTimeStampMs.isLt
  have timeout : retransmissionTimeoutMs.toNat = 20 := rfl
  rw [isRetransmissionTime, decide_eq_true_eq, BitVec.le_def, BitVec.le_def,
    BitVec.lt_def, timeout, BitVec.toNat_sub]
  omega

end SendPacketInfo

/-- Where a call of `SendPacket` stands; the task that sends the CONNECT packet
is one of them. -/
inductive Call (Payload : Type)
  | idle
  /-- The packet has its sequence and is encoded. -/
  | encoded (frame : ClientFrame (Option Payload))
  /-- It is in the store and about to be sent. -/
  | stored (frame : ClientFrame (Option Payload))
  deriving DecidableEq, Repr

/-- Where the receive task stands in `OnSendReply`. -/
inductive Receiver
  | idle
  /-- About to mark the packet as acknowledged. -/
  | acking (packetSequence : PacketSequence)
  /-- About to remove it from the store. -/
  | marked (packetSequence : PacketSequence)
  deriving DecidableEq, Repr

/-- Where `RetransmissionAsync` stands; `remaining` is what is left of the
listed packets. -/
inductive Retransmission
  | waiting
  /-- It has read the clock and is about to list the store. -/
  | clockRead (now : Timestamp)
  | scanning (now : Timestamp) (remaining : List PacketSequence)
  /-- The packet is due. -/
  | due
      (now : Timestamp) (packetSequence : PacketSequence)
      (remaining : List PacketSequence)
  /-- The packet has been sent too often. -/
  | exceeded
      (now : Timestamp) (packetSequence : PacketSequence)
      (remaining : List PacketSequence)
  /-- The packet is about to be sent again. -/
  | refreshed
      (now : Timestamp) (packetSequence : PacketSequence)
      (remaining : List PacketSequence)
  /-- It is about to call `DisconnectAsync`. -/
  | givingUp (packetSequence : PacketSequence)
  | ended
  deriving DecidableEq, Repr

/-- What `SendDatagramAsync` does. -/
inductive SendOutcome
  | sent
  /-- The loss simulator drops the datagram. -/
  | dropped
  /-- The socket throws. -/
  | failed
  deriving DecidableEq, Repr

/-- `RudpSession`, as far as the send side reads it. -/
structure Session (Payload : Type) where
  lastSendSequence : PacketSequence
  /-- The objects, by their sequence. -/
  infos : PacketSequence → Option (SendPacketInfo Payload)
  /-- The keys of `sendBufferStore`, in their order. -/
  bufferStore : List PacketSequence
  isDisposed : Bool
  calls : Nat → Call Payload
  receiver : Receiver
  retransmission : Retransmission
  /-- The DISCONNECT packet has been sent. -/
  disconnectSent : Bool
  /-- What has been numbered, in the order of the sequences. -/
  sent : List (Option Payload)
  /-- Sequences that `OnSendReply` has removed from the store. -/
  dropped : List PacketSequence
  /-- Sequences passed to `SendDatagramAsync`, latest first. -/
  transmissions : List PacketSequence

/-- The atomic steps. -/
inductive SessionLabel (Payload : Type)
  /-- `SendPacket` takes the next sequence and encodes the packet. -/
  | allocate (call : Nat) (payload : Payload)
  /-- `SendPacketInternal` stamps the packet and stores it. -/
  | enqueueSendBuffer (call : Nat) (now : Timestamp)
  /-- It sends the packet. -/
  | sendDatagram (call : Nat) (outcome : SendOutcome)
  /-- `OnSendReply` is called. -/
  | onSendReply (packetSequence : PacketSequence)
  /-- It marks the packet, if there is one. -/
  | markAckReceived (now : Timestamp)
  | removeAndGetSendBuffer
  /-- The timer ticks while the store is not empty. -/
  | tick (now : Timestamp)
  /-- The store is listed. -/
  | getAllSendPacketInfos
  /-- The next listed packet is due or not. -/
  | isRetransmissionTime
  /-- A due packet is skipped, given up or refreshed. -/
  | examine
  /-- A packet to give up is looked for in the store. -/
  | containsPacket
  /-- A refreshed packet is sent again; an exception ends the task. -/
  | resend (outcome : SendOutcome)
  /-- Nothing is left of the list. -/
  | finish
  /-- `DisconnectAsync`, called by this task or by the server-alive check, up to
  `Cleanup`. -/
  | disconnectAsync (byRetransmission : Bool)
  | cleanup

/-- The session makes the step on its own; a reply comes from the network. -/
def isOwnStep {Payload : Type} : SessionLabel Payload → Bool
  | .onSendReply _ => false
  | _ => true

variable {Payload : Type}

/-- `EnqueueSendBuffer`. -/
def enqueueSendBuffer
    (bufferStore : List PacketSequence) (packetSequence : PacketSequence) :
    List PacketSequence :=
  if packetSequence ∈ bufferStore then bufferStore
  else bufferStore.orderedInsert (· ≤ ·) packetSequence

/-- What `SendDatagramAsync` hands to the network. -/
def transmit
    (frame : ClientFrame (Option Payload)) (outcome : SendOutcome) :
    List (ClientFrame (Option Payload)) :=
  if outcome = .sent then [frame] else []

/-- One step, with the packets that are sent.  Nothing is sent after `Cleanup`,
which disposes the key and closes the socket. -/
def sessionStep
    (session : Session Payload) (label : SessionLabel Payload) :
    Option (Session Payload × List (ClientFrame (Option Payload))) :=
  if session.isDisposed then none
  else
    match label with
    | .allocate call payload =>
        match session.calls call with
        | .idle =>
            let packetSequence := session.lastSendSequence + 1
            some
              ({ session with
                  lastSendSequence := packetSequence
                  sent := session.sent ++ [some payload]
                  calls :=
                    Function.update session.calls call
                      (.encoded (.send ⟨packetSequence, some payload⟩)) }, [])
        | _ => none
    | .enqueueSendBuffer call now =>
        match session.calls call with
        | .encoded frame =>
            some
              ({ session with
                  infos :=
                    Function.update session.infos frame.packetSequence
                      (some { sentBuffer := frame, sendTimeStampMs := now })
                  bufferStore :=
                    enqueueSendBuffer session.bufferStore
                      frame.packetSequence
                  calls :=
                    Function.update session.calls call (.stored frame) }, [])
        | _ => none
    | .sendDatagram call outcome =>
        match session.calls call with
        | .stored frame =>
            some
              ({ session with
                  calls := Function.update session.calls call .idle
                  transmissions :=
                    frame.packetSequence :: session.transmissions },
                transmit frame outcome)
        | _ => none
    | .onSendReply packetSequence =>
        if session.receiver = .idle then
          some
            (if session.lastSendSequence < packetSequence then session
              else { session with receiver := .acking packetSequence }, [])
        else none
    | .markAckReceived now =>
        match session.receiver with
        | .acking packetSequence =>
            some
              ({ session with
                  infos :=
                    if packetSequence ∈ session.bufferStore then
                      Function.update session.infos packetSequence
                        ((session.infos packetSequence).map
                          fun info => info.markAckReceived now)
                    else session.infos
                  receiver := .marked packetSequence }, [])
        | _ => none
    | .removeAndGetSendBuffer =>
        match session.receiver with
        | .marked packetSequence =>
            some
              ({ session with
                  bufferStore := session.bufferStore.erase packetSequence
                  dropped :=
                    if packetSequence ∈ session.bufferStore then
                      packetSequence :: session.dropped
                    else session.dropped
                  receiver := .idle }, [])
        | _ => none
    | .tick now =>
        if session.retransmission = .waiting ∧ session.bufferStore ≠ [] then
          some ({ session with retransmission := .clockRead now }, [])
        else none
    | .getAllSendPacketInfos =>
        match session.retransmission with
        | .clockRead now =>
            some
              ({ session with
                  retransmission := .scanning now session.bufferStore }, [])
        | _ => none
    | .isRetransmissionTime =>
        match session.retransmission with
        | .scanning now (packetSequence :: remaining) =>
            (session.infos packetSequence).map fun info =>
              ({ session with
                  retransmission :=
                    if info.isRetransmissionTime now then
                      .due now packetSequence remaining
                    else .scanning now remaining }, [])
        | _ => none
    | .examine =>
        match session.retransmission with
        | .due now packetSequence remaining =>
            (session.infos packetSequence).map fun info =>
              if info.hasAckReceived then
                ({ session with
                    retransmission := .scanning now remaining }, [])
              else if info.isExceedMaxRetransmissionCount then
                ({ session with
                    retransmission :=
                      .exceeded now packetSequence remaining }, [])
              else
                ({ session with
                    infos :=
                      Function.update session.infos packetSequence
                        (some (info.refreshSendPacketInfo now))
                    retransmission :=
                      .refreshed now packetSequence remaining }, [])
        | _ => none
    | .containsPacket =>
        match session.retransmission with
        | .exceeded now packetSequence remaining =>
            some
              ({ session with
                  retransmission :=
                    if packetSequence ∈ session.bufferStore then
                      .givingUp packetSequence
                    else .scanning now remaining }, [])
        | _ => none
    | .resend outcome =>
        match session.retransmission with
        | .refreshed now packetSequence remaining =>
            (session.infos packetSequence).map fun info =>
              ({ session with
                  retransmission :=
                    if outcome = .failed then .ended
                    else .scanning now remaining
                  transmissions := packetSequence :: session.transmissions },
                transmit info.sentBuffer outcome)
        | _ => none
    | .finish =>
        match session.retransmission with
        | .scanning _ [] =>
            some ({ session with retransmission := .waiting }, [])
        | _ => none
    | .disconnectAsync byRetransmission =>
        let disconnected :=
          { session with
            lastSendSequence := session.lastSendSequence + 1
            sent := session.sent ++ [none]
            disconnectSent := true }
        match byRetransmission, session.retransmission with
        | false, _ => some (disconnected, [])
        | true, .givingUp _ =>
            some ({ disconnected with retransmission := .ended }, [])
        | true, _ => none
    | .cleanup =>
        some
          ({ session with
              isDisposed := true
              lastSendSequence := 0
              bufferStore := [] }, [])

/-- A session whose task is about to send the CONNECT packet. -/
def Session.created (sessionId : SessionIdType) : Session Payload where
  lastSendSequence := 0
  infos _ := none
  bufferStore := []
  isDisposed := false
  calls :=
    Function.update (fun _ => .idle) 0
      (.encoded (.connect loginPacketSequence sessionId))
  receiver := .idle
  retransmission := .waiting
  disconnectSent := false
  sent := []
  dropped := []
  transmissions := []

end RudpSession
end BotTester
end MultiSocketRudp
