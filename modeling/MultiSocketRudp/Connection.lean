import MultiSocketRudp.Client.SendPath
import MultiSocketRudp.Lib.TransitionSystem

/-!
# One client, one session and the network between them

The network holds the datagrams in flight in both directions.  It may lose and
duplicate them and deliver them in any order, but it neither forges them nor
changes where they come from.
-/

namespace MultiSocketRudp
namespace Connection

open TransitionSystems ReceivePath SendPath

/-- The parameters of a connection. -/
structure Config where
  sessionId : SessionIdType
  /-- The address that the client sends from. -/
  clientAddress : SockaddrIn
  /-- No client sends from the address of an initialized session. -/
  clientAddress_ne : clientAddress ≠ .zero
  maximumHoldingPacketQueueSize : Byte
  /-- The receive window is not empty. -/
  holding_pos : 0 < maximumHoldingPacketQueueSize.toNat
  maxPacketRetransmissionCount : Nat

/-- Both ends and the datagrams in flight. -/
structure State (Payload : Type) where
  client : Client Payload
  server : ServerSession Payload
  toServer : List (ClientFrame Payload)
  toClient : List SendReply

/-- The atomic steps of the connection. -/
inductive Label (Payload : Type)
  /-- The client makes a step on its own. -/
  | client (label : ClientLabel Payload)
  /-- A reply reaches the client. -/
  | deliverReply (reply : SendReply)
  /-- A packet reaches the session. -/
  | deliver (frame : ClientFrame Payload)
  /-- The session's callback returns. -/
  | handle (frame : DataFrame Payload) (result : HandlerResult)
  /-- The session replies, or fails to. -/
  | sendReply
      (packetSequence : PacketSequence) (thenDrain : Bool) (sent : Bool)
  /-- The session looks for the next held packet. -/
  | drain
  /-- The session disconnects with an error. -/
  | disconnectByError
  /-- The network loses or duplicates a packet of the client. -/
  | loseFrame (frame : ClientFrame Payload)
  | duplicateFrame (frame : ClientFrame Payload)
  /-- The network loses or duplicates a reply. -/
  | loseReply (reply : SendReply)
  | duplicateReply (reply : SendReply)

variable {Payload : Type} [DecidableEq Payload]

/-- One atomic step. -/
def step (config : Config) (state : State Payload) :
    Label Payload → Option (State Payload)
  | .client label =>
      if isOwnStep label then
        (clientStep config.maxPacketRetransmissionCount state.client label).map
          fun (client, enqueued) =>
            { state with client, toServer := enqueued ++ state.toServer }
      else none
  | .deliverReply reply =>
      if reply ∈ state.toClient then
        (clientStep config.maxPacketRetransmissionCount state.client
          (.onSendReply reply)).map
          fun (client, _) =>
            { state with client, toClient := state.toClient.erase reply }
      else none
  | .deliver frame =>
      if state.server.processing = .idle ∧ frame ∈ state.toServer then
        some
          { state with
            server :=
              state.server.processByPacketType config.clientAddress frame
            toServer := state.toServer.erase frame }
      else none
  | .handle frame result =>
      if state.server.processing = .handling frame then
        some { state with server := state.server.processPacket frame result }
      else none
  | .sendReply packetSequence thenDrain true =>
      if state.server.processing = .replying packetSequence thenDrain ∧
          state.server.nowInReleaseThread = false then
        some
          { state with
            server := state.server.afterReply packetSequence thenDrain
            toClient := state.server.reply packetSequence :: state.toClient }
      else none
  | .sendReply packetSequence thenDrain false =>
      if state.server.processing = .replying packetSequence thenDrain then
        some
          { state with
            server :=
              state.server.doDisconnect.afterReply packetSequence thenDrain }
      else none
  | .drain =>
      if state.server.processing = .draining then
        some { state with server := state.server.drain }
      else none
  | .disconnectByError =>
      if state.server.processing = .failing then
        some { state with server := state.server.disconnectByError }
      else none
  | .loseFrame frame =>
      if frame ∈ state.toServer then
        some { state with toServer := state.toServer.erase frame }
      else none
  | .duplicateFrame frame =>
      if frame ∈ state.toServer then
        some { state with toServer := frame :: state.toServer }
      else none
  | .loseReply reply =>
      if reply ∈ state.toClient then
        some { state with toClient := state.toClient.erase reply }
      else none
  | .duplicateReply reply =>
      if reply ∈ state.toClient then
        some { state with toClient := reply :: state.toClient }
      else none

/-- The session is reserved for the client, whose CONNECT packet is on its way. -/
def initial (config : Config) : State Payload where
  client := .connecting config.sessionId
  server := .reserved config.sessionId config.maximumHoldingPacketQueueSize
  toServer := [.connect loginPacketSequence config.sessionId]
  toClient := []

/-- The connection from the client's first packet on. -/
def system (config : Config) :
    TransitionSystem (State Payload) (Label Payload) where
  Initial state := state = initial config
  step := step config

end Connection
end MultiSocketRudp
