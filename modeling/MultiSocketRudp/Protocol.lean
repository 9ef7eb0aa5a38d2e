import Mathlib.Data.BitVec

/-!
# Types and constants of the protocol

Enumerations, machine words and constants shared by the server and the client.
Bytes are `BitVec 8` and packet sequences are `BitVec 64`.
-/

namespace MultiSocketRudp

/-- One byte of a buffer. -/
abbrev Byte := BitVec 8

/-- `PacketSequence`, an unsigned 64-bit word that wraps around. -/
abbrev PacketSequence := BitVec 64

/-- Searches among packet sequences compare them as words. -/
instance : LawfulBEq PacketSequence := inferInstance

/-- Searches among session generations compare them as words. -/
instance instLawfulBEqGeneration : LawfulBEq (BitVec 32) := inferInstance

/-- `SessionIdType`, the index of a session in the server's pool. -/
abbrev SessionIdType := BitVec 16

/-- Capacity of the send buffer that one datagram is built in. -/
def maxSendBufferSize : Nat := 32768

/-- Size that both receivers read a datagram with. -/
def recvBufferSize : Nat := 16384

/-- Sequence of the CONNECT packet. -/
def loginPacketSequence : PacketSequence := 0

/-- Size of the frame header: code, payload length and two reserved bytes. -/
def headerSize : Nat := 5

/-- Size of `PACKET_TYPE` on the wire. -/
def packetTypeSize : Nat := 1

/-- Size of `PacketSequence` on the wire. -/
def packetSequenceSize : Nat := 8

/-- Size of `PacketId` on the wire. -/
def packetIdSize : Nat := 4

/-- Size of the AES-GCM authentication tag. -/
def authTagSize : Nat := 16

/-- Size of the AES-GCM nonce. -/
def nonceSize : Nat := 12

/-- Size of the session salt. -/
def sessionSaltSize : Nat := 16

/-- `PACKET_TYPE`, the first byte after the frame header. -/
inductive PacketType
  | invalidType
  | connectType
  | disconnectType
  | sendType
  | sendReplyType
  | heartbeatType
  | heartbeatReplyType
  deriving DecidableEq, Repr

/-- Wire value of a packet type. -/
def PacketType.toByte : PacketType → Byte
  | .invalidType => 0
  | .connectType => 1
  | .disconnectType => 2
  | .sendType => 3
  | .sendReplyType => 4
  | .heartbeatType => 5
  | .heartbeatReplyType => 6

/-- `PACKET_DIRECTION`, mixed into the nonce. -/
inductive PacketDirection
  | clientToServer
  | clientToServerReply
  | serverToClient
  | serverToClientReply
  | invalid
  deriving DecidableEq, Repr

/-- Numeric value of a direction. -/
def PacketDirection.toByte : PacketDirection → Byte
  | .clientToServer => 0
  | .clientToServerReply => 1
  | .serverToClient => 2
  | .serverToClientReply => 3
  | .invalid => 255

/-- `SESSION_STATE`, the value of a session's state machine. -/
inductive SessionState
  | disconnected
  | reserved
  | connected
  | releasing
  deriving DecidableEq, Repr

/-- `DISCONNECT_REASON`, why a session is being released. -/
inductive DisconnectReason
  | normal
  | byAbortReserved
  | byRetransmission
  | byError
  | notDisconnected
  deriving DecidableEq, Repr

/-- `IO_MODE`, the ownership flag of a session's send path. -/
inductive IoMode
  | ioNoneSending
  | ioSending
  deriving DecidableEq, Repr

namespace SessionState

/-- `SessionStateMachine::TryTransitionToConnected`: the compare-and-swap from
RESERVED to CONNECTED, with its result. -/
def tryTransitionToConnected (state : SessionState) : Bool × SessionState :=
  match state with
  | .reserved => (true, .connected)
  | other => (false, other)

/-- `SessionStateMachine::TryTransitionToReleasing`: a compare-and-swap from
RESERVED and, if that fails, one from CONNECTED. -/
def tryTransitionToReleasing (state : SessionState) : Bool × SessionState :=
  match state with
  | .reserved => (true, .releasing)
  | .connected => (true, .releasing)
  | other => (false, other)

/-- `SessionStateMachine::TryAbortReserved`: the compare-and-swap from RESERVED
to RELEASING. -/
def tryAbortReserved (state : SessionState) : Bool × SessionState :=
  match state with
  | .reserved => (true, .releasing)
  | other => (false, other)

end SessionState

end MultiSocketRudp
