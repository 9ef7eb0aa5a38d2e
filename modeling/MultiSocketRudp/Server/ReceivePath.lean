import MultiSocketRudp.Common.ReceiveWindow

/-!
# The receive path of a server session

`ProcessByPacketType` hands a CONNECT packet to `TryConnect` and a SEND packet
to `OnRecvPacket`.  One receive-logic thread works for a session, so what it does
between two accesses that others can see is one step: the acceptance of a
packet, one call of a packet handler, one reply, and one round of the drain of
the holding queue.
-/

namespace MultiSocketRudp
namespace ReceivePath

open SerialNumber

/-- The compared fields of `sockaddr_in`. -/
structure SockaddrIn where
  sinAddr : BitVec 32
  sinPort : BitVec 16
  deriving DecidableEq, Repr

/-- `sockaddr_in{}`, the client address of an initialized session. -/
def SockaddrIn.zero : SockaddrIn := ⟨0, 0⟩

/-- A SEND packet of the client. -/
structure DataFrame (Payload : Type) where
  packetSequence : PacketSequence
  payload : Payload
  deriving DecidableEq, Repr

/-- Packets of the client that the receive path accepts. -/
inductive ClientFrame (Payload : Type)
  | connect (packetSequence : PacketSequence) (sessionId : SessionIdType)
  | send (frame : DataFrame Payload)
  deriving DecidableEq, Repr

/-- The sequence that every packet carries. -/
def ClientFrame.packetSequence {Payload : Type} :
    ClientFrame Payload → PacketSequence
  | .connect packetSequence _ => packetSequence
  | .send frame => frame.packetSequence

/-- A SEND_REPLY packet. -/
structure SendReply where
  packetSequence : PacketSequence
  advertiseWindow : Byte
  deriving DecidableEq, Repr

/-- `packetFactoryMap` has no entry, or the handler returns false or true. -/
inductive HandlerResult
  | unknownPacket
  | failed
  | succeeded
  deriving DecidableEq, Repr

/-- Where the receive-logic thread stands. -/
inductive Processing (Payload : Type)
  /-- It waits for the next packet. -/
  | idle
  /-- `ProcessAndAdvance` has moved the expected sequence over this packet and is
  about to call back. -/
  | handling (frame : DataFrame Payload)
  /-- It is about to reply, and to go on with the drain if it comes from the
  orderer. -/
  | replying (packetSequence : PacketSequence) (thenDrain : Bool)
  /-- `ProcessHoldingPacket` is about to look for the expected sequence. -/
  | draining
  /-- `OnRecvPacket` has returned false. -/
  | failing
  deriving DecidableEq, Repr

/-- A server session, as far as the receive path reads it. -/
structure ServerSession (Payload : Type) where
  sessionId : SessionIdType
  state : SessionState
  nowInReleaseThread : Bool
  clientAddr : SockaddrIn
  nextRecvPacketSequence : PacketSequence
  recvHoldingPackets : List (DataFrame Payload)
  maxHoldingQueueSize : Byte
  receiveWindow : RudpReceiveWindow
  processing : Processing Payload
  /-- Payloads that packet handlers were called with, in order. -/
  handlerLog : List Payload
  /-- Sequences whose handler has returned success. -/
  succeeded : List PacketSequence
  deriving DecidableEq, Repr

variable {Payload : Type}

namespace ServerSession

/-- A session handed out by `AcquireSession`. -/
def reserved
    (sessionId : SessionIdType) (maximumHoldingPacketQueueSize : Byte) :
    ServerSession Payload where
  sessionId := sessionId
  state := .reserved
  nowInReleaseThread := false
  clientAddr := .zero
  nextRecvPacketSequence := 0
  recvHoldingPackets := []
  maxHoldingQueueSize := maximumHoldingPacketQueueSize
  receiveWindow := .ofSize maximumHoldingPacketQueueSize 0
  processing := .idle
  handlerLog := []
  succeeded := []

/-- `DoDisconnect` on the receive-logic thread. -/
def doDisconnect (session : ServerSession Payload) : ServerSession Payload :=
  match session.state.tryTransitionToReleasing with
  | (true, state) => { session with state, nowInReleaseThread := true }
  | (false, state) => { session with state }

/-- `CanProcessPacket`. -/
def canProcessPacket
    (session : ServerSession Payload) (clientAddr : SockaddrIn) : Bool :=
  session.clientAddr = clientAddr ∧ session.nowInReleaseThread = false

/-- `TryConnect`, up to the reply. -/
def tryConnect
    (session : ServerSession Payload)
    (packetSequence : PacketSequence)
    (recvSessionId : SessionIdType)
    (inClientAddr : SockaddrIn) : ServerSession Payload :=
  if packetSequence ≠ loginPacketSequence ∨
      session.sessionId ≠ recvSessionId then session
  else
    match session.state.tryTransitionToConnected with
    | (false, _) => session
    | (true, state) =>
        let startSequence := loginPacketSequence + 1
        { session with
          state
          clientAddr := inClientAddr
          nextRecvPacketSequence := startSequence
          recvHoldingPackets := []
          receiveWindow := session.receiveWindow.reset startSequence
          processing := .replying packetSequence false }

/-- `SessionPacketOrderer::OnReceive`, up to the first call back. -/
def onReceive
    (session : ServerSession Payload) (frame : DataFrame Payload) :
    ServerSession Payload :=
  let sequenceDiff :=
    signedDiff frame.packetSequence session.nextRecvPacketSequence
  if sequenceDiff < 0 then
    { session with processing := .replying frame.packetSequence false }
  else if sequenceDiff = 0 then
    { session with
      nextRecvPacketSequence := session.nextRecvPacketSequence + 1
      processing := .handling frame }
  else if session.recvHoldingPackets.any
      fun held => held.packetSequence = frame.packetSequence then session
  else if session.maxHoldingQueueSize.toNat ≤
      session.recvHoldingPackets.length then
    { session with processing := .failing }
  else
    { session with
      recvHoldingPackets := frame :: session.recvHoldingPackets }

/-- `RUDPSession::OnRecvPacket`: an older sequence is acknowledged again. -/
def onRecvPacket
    (session : ServerSession Payload) (frame : DataFrame Payload) :
    ServerSession Payload :=
  if signedDiff frame.packetSequence session.nextRecvPacketSequence < 0 then
    { session with processing := .replying frame.packetSequence false }
  else if session.receiveWindow.canReceive frame.packetSequence then
    session.onReceive frame
  else session

/-- `TryDispatchRecvPacket` with `ProcessByPacketType`. -/
def processByPacketType
    (session : ServerSession Payload)
    (clientAddr : SockaddrIn) :
    ClientFrame Payload → ServerSession Payload
  | .connect packetSequence recvSessionId =>
      if session.nowInReleaseThread then session
      else session.tryConnect packetSequence recvSessionId clientAddr
  | .send frame =>
      if session.nowInReleaseThread then session
      else if session.canProcessPacket clientAddr then
        session.onRecvPacket frame
      else session

/-- `ProcessPacket`, up to the reply. -/
def processPacket
    (session : ServerSession Payload) (frame : DataFrame Payload) :
    HandlerResult → ServerSession Payload
  | .unknownPacket => { session with processing := .failing }
  | .failed =>
      { session with
        handlerLog := session.handlerLog ++ [frame.payload]
        processing := .failing }
  | .succeeded =>
      { session with
        handlerLog := session.handlerLog ++ [frame.payload]
        succeeded := frame.packetSequence :: session.succeeded
        receiveWindow :=
          session.receiveWindow.markReceived frame.packetSequence
        processing := .replying frame.packetSequence true }

/-- The reply of `SendReplyToClient`. -/
def reply
    (session : ServerSession Payload) (packetSequence : PacketSequence) :
    SendReply :=
  ⟨packetSequence, session.receiveWindow.getAdvertiseWindow⟩

/-- What follows a reply: the return from `ProcessAndAdvance`, which erases the
sequence from the holding queue, or the end of the packet. -/
def afterReply
    (session : ServerSession Payload)
    (packetSequence : PacketSequence) (thenDrain : Bool) :
    ServerSession Payload :=
  if thenDrain then
    { session with
      recvHoldingPackets :=
        session.recvHoldingPackets.filter
          fun held => held.packetSequence ≠ packetSequence
      processing := .draining }
  else { session with processing := .idle }

/-- One round of `ProcessHoldingPacket`. -/
def drain (session : ServerSession Payload) : ServerSession Payload :=
  let expected := session.nextRecvPacketSequence
  match session.recvHoldingPackets.find?
      fun held => held.packetSequence = expected with
  | none => { session with processing := .idle }
  | some frame =>
      { session with
        recvHoldingPackets :=
          session.recvHoldingPackets.filter
            fun held => held.packetSequence ≠ expected
        nextRecvPacketSequence := expected + 1
        processing := .handling frame }

/-- The disconnect with an error after `OnRecvPacket` has returned false. -/
def disconnectByError (session : ServerSession Payload) :
    ServerSession Payload :=
  { session with processing := .idle }.doDisconnect

end ServerSession

end ReceivePath
end MultiSocketRudp
