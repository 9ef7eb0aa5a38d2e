import MultiSocketRudp.Common.PacketAuthenticity
import MultiSocketRudp.Common.PacketFrame
import MultiSocketRudp.Lib.TransitionSystem
import MultiSocketRudp.Server.AdvertisedWindow

/-!
# Nonces of one session

All packets of a session are encrypted under one key, with a nonce made of the
salt, the direction and the sequence.  Data, heartbeat, CONNECT and DISCONNECT
packets take fresh sequences and are encrypted once.  A reply repeats the
sequence that it answers, and is built and encrypted anew for every duplicate.

So a nonce is used for one message only as long as the reply to a sequence never
changes.  Its window byte comes from the receive window of the session.
-/

namespace MultiSocketRudp
namespace NonceDiscipline

open PacketCrypto ReceivePath TransitionSystems

/-! ## Packets and buffers -/

/-- What follows the sequence in a packet, by the function that builds it. -/
inductive Content
  | connect (sessionId : SessionIdType)
  | disconnect
  | data (packetId : BitVec 32) (body : List Byte)
  | heartbeat
  /-- The client's reply to a data packet. -/
  | sendReply
  | heartbeatReply
  /-- The reply of the session, with its window. -/
  | advertisingReply (advertiseWindow : Byte)
  deriving DecidableEq, Repr

namespace Content

/-- The type of the packet. -/
def packetType : Content → PacketType
  | .connect _ => .connectType
  | .disconnect => .disconnectType
  | .data _ _ => .sendType
  | .heartbeat => .heartbeatType
  | .sendReply | .advertisingReply _ => .sendReplyType
  | .heartbeatReply => .heartbeatReplyType

/-- Its bytes behind the sequence. -/
def bytes : Content → List Byte
  | .connect sessionId => wordBytes 2 sessionId
  | .data packetId body => wordBytes packetIdSize packetId ++ body
  | .advertisingReply advertiseWindow => [advertiseWindow]
  | .disconnect | .heartbeat | .sendReply | .heartbeatReply => []

end Content

/-- A packet with the arguments that `EncodePacket` is called with. -/
structure Packet where
  packetSequence : PacketSequence
  direction : PacketDirection
  isCorePacket : Bool
  content : Content
  deriving DecidableEq, Repr

/-- `NetBuffer`, with the packet that was written and `m_bIsEncoded`. -/
structure Buffer where
  packet : Packet
  isEncoded : Bool := false
  deriving DecidableEq, Repr

/-- What is fixed for a session. -/
structure Config (Key : Type) where
  keys : SessionKeys Key
  reserved : ReservedBytes
  sessionId : SessionIdType
  clientAddress : SockaddrIn
  maximumHoldingPacketQueueSize : Byte

namespace Packet

variable {Key : Type}

/-- The bytes in front of the encryption, with the header set. -/
def headed (config : Config Key) (packet : Packet) : List Byte :=
  setHeader config.keys.headerCode authTagSize
    (writePacket config.reserved packet.content.packetType.toByte
      packet.packetSequence packet.content.bytes)

/-- The call of `EncryptAESGCM` that `EncodePacket` makes.  A body that would
begin behind the write position is empty here. -/
def encryption (config : Config Key) (packet : Packet) :
    Option (Aead.Encryption Key Byte) :=
  (fillNonce config.keys.sessionSalt packet.packetSequence
    packet.direction).bind fun nonce =>
      config.keys.keyHandle.map fun key =>
        { key
          nonce
          associated := (packet.headed config).take aadSize
          plaintext :=
            (packet.headed config).drop (bodyOffset packet.isCorePacket) }

/-- `SendReplyToServer`: the type of the reply is that of the packet. -/
def replyTo (packet : Packet) : Packet where
  packetSequence := packet.packetSequence
  direction := .clientToServerReply
  isCorePacket := true
  content :=
    if packet.content = .heartbeat then .heartbeatReply else .sendReply

/-- `SendReplyToClient`. -/
def ofSendReply (reply : SendReply) : Packet where
  packetSequence := reply.packetSequence
  direction := .serverToClientReply
  isCorePacket := true
  content := .advertisingReply reply.advertiseWindow

end Packet

/-! ## Both ends -/

/-- What the session takes from a data packet. -/
abbrev Payload := BitVec 32 × List Byte

/-- Both ends, as far as they decide what is encrypted. -/
structure State (Key : Type) where
  session : ServerSession Payload
  serverLastSendPacketSequence : PacketSequence
  clientLastSendPacketSequence : PacketSequence
  /-- Every buffer that was written.  An encoded one may reach the other end at
  any time and any number of times. -/
  buffers : List Buffer
  /-- The calls of `EncryptAESGCM`, latest first. -/
  encryptions : List (Aead.Encryption Key Byte)

/-- The atomic steps. -/
inductive Label
  /-- The client sends a data packet. -/
  | clientSend (packetId : BitVec 32) (body : List Byte)
  /-- `RUDPClientCore::Disconnect`. -/
  | clientDisconnect
  /-- The client replies to a data or heartbeat packet. -/
  | sendReplyToServer (packet : Packet)
  /-- The session sends a data packet. -/
  | serverSend (packetId : BitVec 32) (body : List Byte)
  /-- It sends a heartbeat, which gets the layout of a data packet when it comes
  from the pending queue. -/
  | sendHeartbeat (isCorePacket : Bool)
  /-- `EncodePacket` is called for a buffer. -/
  | encode (index : Nat) (succeeds : Bool)
  /-- A packet of the client reaches the session. -/
  | deliver (packet : Packet)
  /-- The packet handler returns. -/
  | handle (frame : DataFrame Payload) (result : HandlerResult)
  /-- `SendReplyToClient` may find no buffer, and sending may fail. -/
  | sendReplyToClient
      (packetSequence : PacketSequence) (thenDrain allocated sent : Bool)
  /-- The session looks for the next held packet. -/
  | drain
  /-- The receive thread disconnects after `OnRecvPacket` has failed. -/
  | disconnectByError
  /-- `DoDisconnect` on another thread. -/
  | tryTransitionToReleasing
  /-- It stores the release flag. -/
  | raiseReleaseFlag
  deriving DecidableEq, Repr

namespace State

variable {Key : Type}

/-- A buffer is written. -/
def write (state : State Key) (packet : Packet) : State Key :=
  { state with buffers := state.buffers ++ [{ packet }] }

/-- `ProcessByPacketType`, for the packets of the client that change the
session. -/
def dispatch (config : Config Key) (state : State Key) (packet : Packet) :
    ServerSession Payload :=
  match packet.content with
  | .connect sessionId =>
      state.session.processByPacketType config.clientAddress
        (.connect packet.packetSequence sessionId)
  | .data packetId body =>
      state.session.processByPacketType config.clientAddress
        (.send ⟨packet.packetSequence, packetId, body⟩)
  | .disconnect =>
      if state.session.nowInReleaseThread = false ∧
          state.session.canProcessPacket config.clientAddress then
        state.session.doDisconnect
      else state.session
  | _ => state.session

/-- `EncodePacket`, which leaves an encoded buffer alone. -/
def encode
    (config : Config Key) (state : State Key)
    (index : Nat) (buffer : Buffer) (succeeds : Bool) : State Key :=
  if buffer.isEncoded then state
  else
    { state with
      buffers := state.buffers.set index { buffer with isEncoded := succeeds }
      encryptions :=
        (buffer.packet.encryption config).toList ++ state.encryptions }

/-- `SendReplyToClient` with the rest of `ProcessPacket`. -/
def sendReplyToClient
    (state : State Key)
    (packetSequence : PacketSequence) (thenDrain allocated sent : Bool) :
    State Key :=
  let reply := Packet.ofSendReply (state.session.reply packetSequence)
  let session :=
    if allocated && sent then state.session else state.session.doDisconnect
  let written := if allocated then state.write reply else state
  { written with session := session.afterReply packetSequence thenDrain }

end State

section Step

variable {Key : Type}

/-- One atomic step. -/
def step (config : Config Key) (state : State Key) :
    Label → Option (State Key)
  | .clientSend packetId body =>
      let packetSequence := state.clientLastSendPacketSequence + 1
      some
        { state.write
            ⟨packetSequence, .clientToServer, false, .data packetId body⟩ with
          clientLastSendPacketSequence := packetSequence }
  | .clientDisconnect =>
      let packetSequence := state.clientLastSendPacketSequence + 1
      some
        { state.write
            ⟨packetSequence, .clientToServer, true, .disconnect⟩ with
          clientLastSendPacketSequence := packetSequence }
  | .sendReplyToServer packet =>
      if ⟨packet, true⟩ ∈ state.buffers ∧ packet.direction = .serverToClient then
        some (state.write packet.replyTo)
      else none
  | .serverSend packetId body =>
      let packetSequence := state.serverLastSendPacketSequence + 1
      some
        { state.write
            ⟨packetSequence, .serverToClient, false, .data packetId body⟩ with
          serverLastSendPacketSequence := packetSequence }
  | .sendHeartbeat isCorePacket =>
      let packetSequence := state.serverLastSendPacketSequence + 1
      some
        { state.write
            ⟨packetSequence, .serverToClient, isCorePacket, .heartbeat⟩ with
          serverLastSendPacketSequence := packetSequence }
  | .encode index succeeds =>
      state.buffers[index]?.map fun buffer =>
        state.encode config index buffer succeeds
  | .deliver packet =>
      if ⟨packet, true⟩ ∈ state.buffers ∧
          packet.direction = .clientToServer ∧
          state.session.processing = .idle then
        some { state with session := state.dispatch config packet }
      else none
  | .handle frame result =>
      if state.session.processing = .handling frame then
        some { state with session := state.session.processPacket frame result }
      else none
  | .sendReplyToClient packetSequence thenDrain allocated sent =>
      if state.session.processing = .replying packetSequence thenDrain ∧
          (sent = true → state.session.nowInReleaseThread = false) then
        some
          (state.sendReplyToClient packetSequence thenDrain allocated sent)
      else none
  | .drain =>
      if state.session.processing = .draining then
        some { state with session := state.session.drain }
      else none
  | .disconnectByError =>
      if state.session.processing = .failing then
        some { state with session := state.session.disconnectByError }
      else none
  | .tryTransitionToReleasing =>
      some
        { state with
          session :=
            { state.session with
              state := state.session.state.tryTransitionToReleasing.2 } }
  | .raiseReleaseFlag =>
      if state.session.state = .releasing then
        some
          { state with
            session := { state.session with nowInReleaseThread := true } }
      else none

/-- The session is reserved, and the client has written its CONNECT packet. -/
def initial (config : Config Key) : State Key where
  session :=
    .reserved config.sessionId config.maximumHoldingPacketQueueSize
  serverLastSendPacketSequence := 0
  clientLastSendPacketSequence := 0
  buffers :=
    [{ packet :=
        ⟨loginPacketSequence, .clientToServer, true,
          .connect config.sessionId⟩ }]
  encryptions := []

/-- The runs of one session. -/
def system (config : Config Key) : TransitionSystem (State Key) Label where
  Initial state := state = initial config
  step := step config

end Step

/-! ## What is promised and when -/

section Promise

variable {Key : Type}

/-- One nonce stands for one message. -/
def NonceDisciplined (state : State Key) : Prop :=
  ∀ first ∈ state.encryptions, ∀ second ∈ state.encryptions,
    first.key = second.key → first.nonce = second.nonce →
      first.associated = second.associated ∧
        first.plaintext = second.plaintext

/-- No sequence wraps around. -/
def sequencesFresh (state : State Key) : Label → Bool
  | .clientSend _ _ | .clientDisconnect =>
      state.clientLastSendPacketSequence.toNat + 1 < 2 ^ 64
  | .serverSend _ _ | .sendHeartbeat _ =>
      state.serverLastSendPacketSequence.toNat + 1 < 2 ^ 64
  | _ => true

/-- When the receive thread disconnects the session, no other thread is between
its state transition and its store of the release flag. -/
def releaseSettled (state : State Key) : Label → Bool
  | .disconnectByError =>
      state.session.state = .connected || state.session.nowInReleaseThread
  | _ => true

/-- Sequences are fresh. -/
def SequencesFresh (state : State Key) (label : Label) : Prop :=
  sequencesFresh state label = true

/-- Sequences are fresh, and nothing is processed after a failure. -/
def StopsAfterFailure (state : State Key) (label : Label) : Prop :=
  sequencesFresh state label = true ∧ releaseSettled state label = true

instance (state : State Key) (label : Label) :
    Decidable (SequencesFresh state label) :=
  inferInstanceAs (Decidable (_ = _))

instance (state : State Key) (label : Label) :
    Decidable (StopsAfterFailure state label) :=
  inferInstanceAs (Decidable (_ ∧ _))

end Promise

/-! ## The invariant -/

namespace State

variable {Key : Type}

/-- Every packet that was written. -/
def packets (state : State Key) : List Packet :=
  state.buffers.map Buffer.packet

@[simp] theorem packets_write (state : State Key) (packet : Packet) :
    (state.write packet).packets = state.packets ++ [packet] := by
  simp [packets, write]

/-- Encoding a buffer leaves its packet alone. -/
theorem packets_encode
    (config : Config Key) {state : State Key}
    {index : Nat} {buffer : Buffer}
    (stands : state.buffers[index]? = some buffer)
    (succeeds : Bool) :
    (state.encode config index buffer succeeds).packets = state.packets := by
  unfold State.encode
  split
  · rfl
  · obtain ⟨bound, same⟩ := List.getElem?_eq_some_iff.mp stands
    have unchanged :
        (state.buffers.map Buffer.packet).set index buffer.packet =
          state.buffers.map Buffer.packet := by
      rw [← same, ← List.getElem_map Buffer.packet]
      · exact List.set_getElem_self _
      · simpa using bound
    simp only [packets, List.map_set, unchanged]

end State

section Invariant

variable {Key : Type}

/-- A direction and a sequence determine the packet, and every encryption is that
of a packet. -/
structure Invariant (config : Config Key) (state : State Key) : Prop where
  inStep : InStep config.maximumHoldingPacketQueueSize state.session
  determined : ∀ first ∈ state.packets, ∀ second ∈ state.packets,
    first.direction = second.direction →
      first.packetSequence = second.packetSequence → first = second
  valid : ∀ packet ∈ state.packets, packet.direction ≠ .invalid
  fromClient : ∀ packet ∈ state.packets,
    packet.direction = .clientToServer →
      packet.packetSequence ≤ state.clientLastSendPacketSequence
  fromServer : ∀ packet ∈ state.packets,
    packet.direction = .serverToClient →
      packet.packetSequence ≤ state.serverLastSendPacketSequence
  /-- A reply of the client answers a packet of the session. -/
  clientReply : ∀ packet ∈ state.packets,
    packet.direction = .clientToServerReply →
      ∃ origin ∈ state.packets, origin.direction = .serverToClient ∧
        packet = origin.replyTo
  /-- A reply of the session advertises the whole window. -/
  serverReply : ∀ packet ∈ state.packets,
    packet.direction = .serverToClientReply →
      packet =
        .ofSendReply
          ⟨packet.packetSequence, config.maximumHoldingPacketQueueSize⟩
  encrypted : ∀ encryption ∈ state.encryptions,
    ∃ packet ∈ state.packets, packet.encryption config = some encryption

/-- The next sequence is above the last one. -/
theorem lt_add_one
    {packetSequence : PacketSequence}
    (fresh : packetSequence.toNat + 1 < 2 ^ 64) :
    packetSequence < packetSequence + 1 := by
  rw [BitVec.lt_def, BitVec.toNat_add,
    show (1 : PacketSequence).toNat = 1 from rfl]
  omega

namespace Invariant

variable {config : Config Key} {state next : State Key}

theorem initial : Invariant config (NonceDiscipline.initial config) where
  inStep := .reserved config.sessionId
  determined first firstMember second secondMember _ _ := by
    rw [List.mem_singleton.mp firstMember, List.mem_singleton.mp secondMember]
  valid packet member := by
    rw [List.mem_singleton.mp member]
    nofun
  fromClient packet member _ := by
    rw [List.mem_singleton.mp member]
    exact BitVec.le_refl _
  fromServer packet member direction := by
    rw [List.mem_singleton.mp member] at direction
    cases direction
  clientReply packet member direction := by
    rw [List.mem_singleton.mp member] at direction
    cases direction
  serverReply packet member direction := by
    rw [List.mem_singleton.mp member] at direction
    cases direction
  encrypted _ member := nomatch member

/-- Only the session changes. -/
theorem setSession
    (holds : Invariant config state)
    {session : ServerSession Payload}
    (inStep : InStep config.maximumHoldingPacketQueueSize session) :
    Invariant config { state with session } :=
  { holds with inStep }

/-- A packet is written that its direction and sequence determine. -/
theorem write
    (holds : Invariant config state)
    {packet : Packet}
    (fresh : ∀ other ∈ state.packets,
      other.direction = packet.direction →
        other.packetSequence = packet.packetSequence → other = packet)
    (valid : packet.direction ≠ .invalid)
    (packets : next.packets = state.packets ++ [packet])
    (inStep : InStep config.maximumHoldingPacketQueueSize next.session)
    (encryptions : next.encryptions = state.encryptions)
    (clientGrows : state.clientLastSendPacketSequence ≤
      next.clientLastSendPacketSequence)
    (serverGrows : state.serverLastSendPacketSequence ≤
      next.serverLastSendPacketSequence)
    (fromClient : packet.direction = .clientToServer →
      packet.packetSequence ≤ next.clientLastSendPacketSequence)
    (fromServer : packet.direction = .serverToClient →
      packet.packetSequence ≤ next.serverLastSendPacketSequence)
    (clientReply : packet.direction = .clientToServerReply →
      ∃ origin ∈ state.packets, origin.direction = .serverToClient ∧
        packet = origin.replyTo)
    (serverReply : packet.direction = .serverToClientReply →
      packet =
        .ofSendReply
          ⟨packet.packetSequence, config.maximumHoldingPacketQueueSize⟩) :
    Invariant config next := by
  have cases : ∀ {other : Packet}, other ∈ next.packets →
      other ∈ state.packets ∨ other = packet := by
    intro other member
    rw [packets] at member
    exact (List.mem_append.mp member).imp_right List.mem_singleton.mp
  have grows : ∀ {other : Packet}, other ∈ state.packets →
      other ∈ next.packets := by
    intro other member
    rw [packets]
    exact List.mem_append_left _ member
  refine
    { inStep
      determined := fun first firstMember second secondMember => ?_
      valid := fun other member => ?_
      fromClient := fun other member direction => ?_
      fromServer := fun other member direction => ?_
      clientReply := fun other member direction => ?_
      serverReply := fun other member direction => ?_
      encrypted := fun encryption member => ?_ }
  · intro direction sequence
    rcases cases firstMember with old | rfl
    · rcases cases secondMember with other | rfl
      · exact holds.determined first old second other direction sequence
      · exact fresh first old direction sequence
    · rcases cases secondMember with other | rfl
      · exact (fresh second other direction.symm sequence.symm).symm
      · rfl
  · rcases cases member with old | rfl
    · exact holds.valid other old
    · exact valid
  · rcases cases member with old | rfl
    · exact BitVec.le_trans (holds.fromClient other old direction) clientGrows
    · exact fromClient direction
  · rcases cases member with old | rfl
    · exact BitVec.le_trans (holds.fromServer other old direction) serverGrows
    · exact fromServer direction
  · rcases cases member with old | rfl
    · obtain ⟨origin, inside, answers⟩ := holds.clientReply other old direction
      exact ⟨origin, grows inside, answers⟩
    · obtain ⟨origin, inside, answers⟩ := clientReply direction
      exact ⟨origin, grows inside, answers⟩
  · rcases cases member with old | rfl
    · exact holds.serverReply other old direction
    · exact serverReply direction
  · rw [encryptions] at member
    obtain ⟨other, inside, same⟩ := holds.encrypted encryption member
    exact ⟨other, grows inside, same⟩

/-- The client writes a packet with the next sequence. -/
theorem writeFromClient
    (holds : Invariant config state)
    (fresh : state.clientLastSendPacketSequence.toNat + 1 < 2 ^ 64)
    (isCorePacket : Bool) (content : Content) :
    Invariant config
      { state.write
          ⟨state.clientLastSendPacketSequence + 1, .clientToServer,
            isCorePacket, content⟩ with
        clientLastSendPacketSequence :=
          state.clientLastSendPacketSequence + 1 } := by
  have above := lt_add_one fresh
  refine holds.write ?_ (by simp) (state.packets_write _) holds.inStep rfl
    (BitVec.le_of_lt above) (BitVec.le_refl _) (fun _ => BitVec.le_refl _)
    (fun same => by cases same) (fun same => by cases same)
    fun same => by cases same
  intro other member direction sequence
  have bound := holds.fromClient other member direction
  rw [sequence] at bound
  exact absurd above (BitVec.not_lt.mpr bound)

/-- The session writes a packet with the next sequence. -/
theorem writeFromServer
    (holds : Invariant config state)
    (fresh : state.serverLastSendPacketSequence.toNat + 1 < 2 ^ 64)
    (isCorePacket : Bool) (content : Content) :
    Invariant config
      { state.write
          ⟨state.serverLastSendPacketSequence + 1, .serverToClient,
            isCorePacket, content⟩ with
        serverLastSendPacketSequence :=
          state.serverLastSendPacketSequence + 1 } := by
  have above := lt_add_one fresh
  refine holds.write ?_ (by simp) (state.packets_write _) holds.inStep rfl
    (BitVec.le_refl _) (BitVec.le_of_lt above) (fun same => by cases same)
    (fun _ => BitVec.le_refl _) (fun same => by cases same)
    fun same => by cases same
  intro other member direction sequence
  have bound := holds.fromServer other member direction
  rw [sequence] at bound
  exact absurd above (BitVec.not_lt.mpr bound)

/-- The client replies to a packet of the session. -/
theorem writeReplyTo
    (holds : Invariant config state)
    {packet : Packet}
    (member : packet ∈ state.packets)
    (direction : packet.direction = .serverToClient) :
    Invariant config (state.write packet.replyTo) := by
  refine holds.write ?_ (by simp [Packet.replyTo]) (state.packets_write _)
    holds.inStep rfl (BitVec.le_refl _) (BitVec.le_refl _)
    (fun same => by cases same) (fun same => by cases same)
    (fun _ => ⟨packet, member, direction, rfl⟩) fun same => by cases same
  intro other inside replies sequence
  obtain ⟨origin, originMember, originDirection, rfl⟩ :=
    holds.clientReply other inside replies
  rw [holds.determined origin originMember packet member
    (originDirection.trans direction.symm) sequence]

/-- The session writes a reply. -/
theorem writeSendReply
    (holds : Invariant config state)
    (packetSequence : PacketSequence) :
    Invariant config
      (state.write
        (.ofSendReply (state.session.reply packetSequence))) := by
  rw [holds.inStep.reply]
  refine holds.write ?_ (by simp [Packet.ofSendReply]) (state.packets_write _)
    holds.inStep rfl (BitVec.le_refl _) (BitVec.le_refl _)
    (fun same => by cases same) (fun same => by cases same)
    (fun same => by cases same) fun _ => rfl
  intro other member direction sequence
  rw [holds.serverReply other member direction, sequence]
  rfl

/-- A buffer is encoded. -/
theorem encode
    (holds : Invariant config state)
    {index : Nat} {buffer : Buffer}
    (stands : state.buffers[index]? = some buffer)
    (succeeds : Bool) :
    Invariant config (state.encode config index buffer succeeds) := by
  have packets := state.packets_encode config stands succeeds
  have member : buffer.packet ∈ state.packets :=
    List.mem_map_of_mem (List.mem_of_getElem? stands)
  unfold State.encode at packets ⊢
  split
  · exact holds
  · next unencoded =>
      rw [if_neg unencoded] at packets
      refine
        { inStep := holds.inStep
          determined := packets ▸ holds.determined
          valid := packets ▸ holds.valid
          fromClient := packets ▸ holds.fromClient
          fromServer := packets ▸ holds.fromServer
          clientReply := packets ▸ holds.clientReply
          serverReply := packets ▸ holds.serverReply
          encrypted := ?_ }
      intro encryption inside
      rw [packets]
      rcases List.mem_append.mp inside with new | old
      · exact ⟨buffer.packet, member, Option.mem_toList.mp new⟩
      · exact holds.encrypted encryption old

/-- A packet of the client is dispatched. -/
theorem dispatch
    (holds : Invariant config state)
    (idle : state.session.processing = .idle)
    (packet : Packet) :
    InStep config.maximumHoldingPacketQueueSize
      (state.dispatch config packet) := by
  unfold State.dispatch
  cases packet.content with
  | connect sessionId =>
      exact holds.inStep.processByPacketType idle config.clientAddress
        (.connect packet.packetSequence sessionId)
  | data packetId body =>
      exact holds.inStep.processByPacketType idle config.clientAddress
        (.send ⟨packet.packetSequence, packetId, body⟩)
  | disconnect =>
      dsimp only
      split
      · exact holds.inStep.doDisconnect
      · exact holds.inStep
  | heartbeat | sendReply | heartbeatReply | advertisingReply advertiseWindow =>
      exact holds.inStep

/-- The session replies, or fails to. -/
theorem sendReplyToClient
    (holds : Invariant config state)
    {packetSequence : PacketSequence} {thenDrain : Bool}
    (stands : state.session.processing = .replying packetSequence thenDrain)
    (allocated sent : Bool) :
    Invariant config
      (state.sendReplyToClient packetSequence thenDrain allocated sent) := by
  have written : Invariant config
      (if allocated then
        state.write (.ofSendReply (state.session.reply packetSequence))
      else state) := by
    split
    · exact holds.writeSendReply packetSequence
    · exact holds
  have inStep : InStep config.maximumHoldingPacketQueueSize
      ((if allocated && sent then state.session
        else state.session.doDisconnect).afterReply packetSequence
          thenDrain) := by
    split
    · exact holds.inStep.afterReply stands
    · refine holds.inStep.doDisconnect.afterReply ?_
      unfold ServerSession.doDisconnect
      split <;> exact stands
  exact written.setSession inStep

/-- Every step keeps the invariant while sequences are fresh and nothing is
processed after a failure. -/
theorem step
    {label : Label}
    (holds : Invariant config state)
    (guarded : StopsAfterFailure state label)
    (moves : NonceDiscipline.step config state label = some next) :
    Invariant config next := by
  obtain ⟨fresh, settled⟩ := guarded
  cases label with
  | clientSend packetId body =>
      obtain rfl := Option.some.inj moves
      exact holds.writeFromClient (of_decide_eq_true fresh) _ _
  | clientDisconnect =>
      obtain rfl := Option.some.inj moves
      exact holds.writeFromClient (of_decide_eq_true fresh) _ _
  | serverSend packetId body =>
      obtain rfl := Option.some.inj moves
      exact holds.writeFromServer (of_decide_eq_true fresh) _ _
  | sendHeartbeat isCorePacket =>
      obtain rfl := Option.some.inj moves
      exact holds.writeFromServer (of_decide_eq_true fresh) _ _
  | sendReplyToServer packet =>
      obtain ⟨⟨member, direction⟩, moves⟩ :=
        Option.ite_none_right_eq_some.mp moves
      obtain rfl := Option.some.inj moves
      exact holds.writeReplyTo (List.mem_map_of_mem member) direction
  | encode index succeeds =>
      obtain ⟨buffer, stands, rfl⟩ := Option.map_eq_some_iff.mp moves
      exact holds.encode stands succeeds
  | deliver packet =>
      obtain ⟨⟨-, -, idle⟩, moves⟩ := Option.ite_none_right_eq_some.mp moves
      obtain rfl := Option.some.inj moves
      exact holds.setSession (holds.dispatch idle packet)
  | handle frame result =>
      obtain ⟨stands, moves⟩ := Option.ite_none_right_eq_some.mp moves
      obtain rfl := Option.some.inj moves
      exact holds.setSession (holds.inStep.processPacket stands result)
  | sendReplyToClient packetSequence thenDrain allocated sent =>
      obtain ⟨⟨stands, -⟩, moves⟩ := Option.ite_none_right_eq_some.mp moves
      obtain rfl := Option.some.inj moves
      exact holds.sendReplyToClient stands allocated sent
  | drain =>
      obtain ⟨stands, moves⟩ := Option.ite_none_right_eq_some.mp moves
      obtain rfl := Option.some.inj moves
      exact holds.setSession (holds.inStep.drain stands)
  | disconnectByError =>
      obtain ⟨-, moves⟩ := Option.ite_none_right_eq_some.mp moves
      obtain rfl := Option.some.inj moves
      refine holds.setSession (holds.inStep.disconnectByError ?_)
      simpa [releaseSettled] using settled
  | tryTransitionToReleasing =>
      obtain rfl := Option.some.inj moves
      exact holds.setSession (holds.inStep.congr rfl rfl rfl id)
  | raiseReleaseFlag =>
      obtain ⟨-, moves⟩ := Option.ite_none_right_eq_some.mp moves
      obtain rfl := Option.some.inj moves
      exact holds.setSession (holds.inStep.congr rfl rfl rfl nofun)

/-- The invariant gives the discipline. -/
theorem nonceDisciplined
    (holds : Invariant config state) :
    NonceDisciplined state := by
  intro first firstMember second secondMember sameKey sameNonce
  obtain ⟨packet, member, encryption⟩ := holds.encrypted first firstMember
  obtain ⟨other, otherMember, otherEncryption⟩ :=
    holds.encrypted second secondMember
  obtain ⟨nonce, filled, rest⟩ := Option.bind_eq_some_iff.mp encryption
  obtain ⟨key, -, rfl⟩ := Option.map_eq_some_iff.mp rest
  obtain ⟨otherNonce, otherFilled, otherRest⟩ :=
    Option.bind_eq_some_iff.mp otherEncryption
  obtain ⟨otherKey, -, rfl⟩ := Option.map_eq_some_iff.mp otherRest
  obtain rfl : nonce = otherNonce := sameNonce
  obtain ⟨sequence, direction⟩ :=
    fillNonce_injective (holds.valid packet member)
      (holds.valid other otherMember) filled otherFilled
  obtain rfl :=
    holds.determined packet member other otherMember direction sequence
  exact ⟨rfl, rfl⟩

end Invariant

/-- In every run with fresh sequences in which nothing is processed after a
failure, a nonce stands for one message. -/
theorem nonceDisciplined_of_stopsAfterFailure
    {config : Config Key} {state : State Key}
    (reached :
      (system config).GuardedReachable StopsAfterFailure state) :
    NonceDisciplined state := by
  have holds : Invariant config state := by
    refine reached.invariant ?_ ?_
    · rintro _ rfl
      exact .initial
    · intro before label after _ holds guarded moves
      exact holds.step guarded moves
  exact holds.nonceDisciplined

end Invariant

/-! ## A reply that changes -/

/-- A session with a window of four packets. -/
def sampleConfig : Config Unit where
  keys := sampleKeys
  reserved := ⟨0, 0⟩
  sessionId := 1
  clientAddress := ⟨1, 1⟩
  maximumHoldingPacketQueueSize := 4

/-- A data packet of the client. -/
def dataFrame (packetSequence : PacketSequence) : DataFrame Payload :=
  ⟨packetSequence, 7, []⟩

/-- It reaches the session. -/
def deliverData (packetSequence : PacketSequence) : Label :=
  .deliver ⟨packetSequence, .clientToServer, false, .data 7 []⟩

/-- The session handles it and replies. -/
def processData (packetSequence : PacketSequence) : List Label :=
  [deliverData packetSequence, .handle (dataFrame packetSequence) .succeeded,
    .sendReplyToClient packetSequence true true true, .drain]

/-- The client connects, and its first data packet is handled and
acknowledged. -/
def firstDataSchedule : List Label :=
  [.encode 0 true,
    .deliver ⟨0, .clientToServer, true, .connect 1⟩,
    .sendReplyToClient 0 false true true, .encode 1 true,
    .clientSend 7 [], .encode 2 true] ++
  processData 1 ++ [.encode 3 true]

/-- It arrives once more and is acknowledged again. -/
def duplicateSchedule : List Label :=
  firstDataSchedule ++
  [deliverData 1, .sendReplyToClient 1 false true true, .encode 4 true]

/-- Another thread begins to release the session.  The handler of the second
packet fails, the third one is handled, and the first one arrives once more
before the release flag is stored. -/
def changingSchedule : List Label :=
  firstDataSchedule ++
  [.clientSend 7 [], .encode 4 true, .clientSend 7 [], .encode 5 true,
    .tryTransitionToReleasing, deliverData 2, .handle (dataFrame 2) .failed,
    .disconnectByError] ++
  processData 3 ++
  [deliverData 1, .sendReplyToClient 1 false true true, .encode 7 true]

/-- The state after it. -/
def changed : State Unit :=
  ((system sampleConfig).run (initial sampleConfig) changingSchedule).getD
    (initial sampleConfig)

/-- A reply to the first packet, as it is encrypted. -/
def replyEncryption (advertiseWindow : Byte) :
    Option (Aead.Encryption Unit Byte) :=
  (Packet.ofSendReply ⟨1, advertiseWindow⟩).encryption sampleConfig

set_option maxRecDepth 2000 in
theorem guardedRun_changingSchedule :
    (system sampleConfig).guardedRun SequencesFresh (initial sampleConfig)
      changingSchedule = some changed := rfl

/-- Although sequences are fresh, the first packet is acknowledged with two
windows under one nonce. -/
theorem changed_reachable :
    (system sampleConfig).GuardedReachable SequencesFresh changed ∧
      ¬ NonceDisciplined changed := by
  refine ⟨TransitionSystem.GuardedReachable.guardedRun (.initial rfl)
    guardedRun_changingSchedule, fun disciplined => ?_⟩
  have later : changed.encryptions[0]? = replyEncryption 3 := rfl
  have earlier : changed.encryptions[3]? = replyEncryption 4 := rfl
  have same := disciplined _ (List.mem_of_getElem? later) _
    (List.mem_of_getElem? earlier) rfl rfl
  exact absurd same.2 (by decide)

theorem nonceDisciplined_after_duplicate :
    NonceDisciplined
      (((system sampleConfig).run (initial sampleConfig)
        duplicateSchedule).getD (initial sampleConfig)) :=
  nonceDisciplined_of_stopsAfterFailure
    (TransitionSystem.GuardedReachable.guardedRun (.initial rfl)
      (show (system sampleConfig).guardedRun StopsAfterFailure
          (initial sampleConfig) duplicateSchedule =
        some (((system sampleConfig).run (initial sampleConfig)
          duplicateSchedule).getD (initial sampleConfig)) from rfl))

end NonceDiscipline
end MultiSocketRudp
