import MultiSocketRudp.Common.PacketFrame
import MultiSocketRudp.Lib.TransitionSystem

/-!
# When a packet cannot be encoded

`EncodePacket` has no result.  When the nonce cannot be filled or the encryption
fails, it leaves `m_bIsEncoded` unset and returns, and its callers go on with
the buffer: the session inserts it in the map before and pushes it to the send
queue afterwards, and the client enqueues it or lets it wait.

Both programs are modelled with their queues.  Calls are atomic here, and what
they read of other threads, of the pools and of the cipher comes with the label.
Calls that end before they have written a packet are left out.  Every call that
handles a packet leaves a record of what it did with it.
-/

namespace MultiSocketRudp
namespace EncodingFailures

open PacketCrypto TransitionSystems

/-! ## Packets and the encoder -/

/-- A packet with the arguments that it is sent with. -/
structure Packet where
  buffer : NetBuffer
  packetSequence : PacketSequence
  isReplyType : Bool
  isCorePacket : Bool
  deriving DecidableEq, Repr

/-- What one call of `EncodePacket` depends on besides the packet: the cipher,
which may fail in one call and succeed in the next, the key handle and the
salt. -/
structure Encoder (Key : Type) where
  scheme : Aead.Scheme Key Byte
  headerCode : Byte
  sessionSalt : List Byte
  keyHandle : Option Key

namespace Encoder

variable {Key : Type}

/-- `EncodePacket`. -/
def encode
    (encoder : Encoder Key)
    (direction : PacketDirection)
    (packet : Packet) : NetBuffer :=
  encodePacket encoder.scheme encoder.headerCode packet.buffer
    packet.packetSequence direction encoder.sessionSalt encoder.keyHandle
    packet.isCorePacket

/-- The packet is encoded already, or else `FillNonce` succeeds and so does
`EncryptAESGCM` on a body that begins inside the packet. -/
def succeeds
    (encoder : Encoder Key)
    (direction : PacketDirection)
    (packet : Packet) : Bool :=
  packet.buffer.isEncoded ||
    (fillNonce encoder.sessionSalt packet.packetSequence direction).any
      fun nonce =>
        let offset := bodyOffset packet.isCorePacket
        let bytes :=
          setHeader encoder.headerCode authTagSize packet.buffer.bytes
        decide (offset ≤ packet.buffer.bytes.length) &&
          (encryptAesGcm encoder.scheme encoder.keyHandle nonce
            (bytes.take aadSize) (bytes.drop offset)).isSome

/-- `EncodePacket` sets `m_bIsEncoded` if and only if both of its calls
succeed. -/
theorem isEncoded_encode
    (encoder : Encoder Key)
    (direction : PacketDirection)
    (packet : Packet) :
    (encoder.encode direction packet).isEncoded =
      encoder.succeeds direction packet := by
  unfold encode encodePacket succeeds
  cases encoded : packet.buffer.isEncoded with
  | true => simp [encoded]
  | false =>
      cases filled :
          fillNonce encoder.sessionSalt packet.packetSequence direction with
      | none => simp [encoded]
      | some nonce =>
          by_cases short :
              packet.buffer.bytes.length < bodyOffset packet.isCorePacket
          · simp [short]
          · simp only [short, Nat.not_lt.mp short, Bool.false_eq_true,
              if_false, decide_true, Option.any_some, Bool.true_and,
              Bool.false_or]
            split
            · next fails => rw [fails]; rfl
            · next sealing => rw [sealing]; rfl

end Encoder

/-- What a call does with one packet. -/
structure Handling where
  /-- The buffer as the call leaves it. -/
  buffer : NetBuffer
  /-- `EncodePacket` was called and has left `m_bIsEncoded` unset. -/
  encodingFailed : Bool := false
  /-- The packet was put where packets wait for retransmission. -/
  registered : Bool := false
  /-- The packet was put in a send queue. -/
  enqueued : Bool := false
  /-- The function that sends the packet returns false. -/
  failureSeen : Bool := false
  deriving DecidableEq, Repr

namespace Handling

/-- A packet is enqueued or registered only when it is encoded, and a packet
that cannot be encoded is not enqueued and makes the call fail. -/
def FailsClosed (handling : Handling) : Prop :=
  (handling.enqueued ∨ handling.registered → handling.buffer.isEncoded) ∧
    (handling.encodingFailed →
      handling.enqueued = false ∧ handling.failureSeen)

instance (handling : Handling) : Decidable handling.FailsClosed :=
  inferInstanceAs (Decidable (_ ∧ _))

/-- An encoded packet is never at fault. -/
theorem failsClosed_of_isEncoded
    {handling : Handling}
    (isEncoded : handling.buffer.isEncoded)
    (succeeded : handling.encodingFailed = false) :
    handling.FailsClosed :=
  ⟨fun _ => isEncoded, fun failed => by simp [succeeded] at failed⟩

end Handling

/-- What is fixed for a session. -/
structure Config where
  reserved : ReservedBytes
  pendingQueueCapacity : Nat

namespace Config

/-- A packet that has been written and not yet encoded. -/
def write
    (config : Config)
    (packetType : PacketType)
    (packetSequence : PacketSequence)
    (content : List Byte) : NetBuffer :=
  { bytes :=
      writePacket config.reserved packetType.toByte packetSequence content }

end Config

/-! ## The server -/

/-- What `SendPacketImmediate` meets. -/
structure Circumstances (Key : Type) where
  encoder : Encoder Key
  /-- The pool has a `SendPacketInfo`. -/
  infoAllocated : Bool
  /-- In `MultiSocketRUDPCore::SendPacket` the owner is valid and not being
  released. -/
  ownerSends : Bool
  /-- The result of `DoSend`. -/
  doSend : Bool

/-- `SendPacketInfo`, as far as sending depends on it. -/
structure SendPacketInfo where
  buffer : NetBuffer
  isReplyType : Bool
  deriving DecidableEq, Repr

/-- The queues of a session. -/
structure Server where
  lastSendPacketSequence : PacketSequence := 0
  /-- The pending queue, front first. -/
  pendingPacketQueue : List (PacketSequence × NetBuffer) := []
  sendPacketInfoMap : List (PacketSequence × NetBuffer) := []
  /-- The send queue, front first. -/
  sendPacketInfoQueue : List SendPacketInfo := []
  /-- What the retransmission thread may send again. -/
  retransmissionSchedule : List NetBuffer := []
  /-- What each thread in `TryFlushPendingQueue` has popped and not yet sent. -/
  sendBuffers : Nat → List (PacketSequence × NetBuffer) := fun _ => []

namespace Server

/-- The sequence is a key of `sendPacketInfoMap`. -/
def isRegistered (server : Server) (packetSequence : PacketSequence) : Bool :=
  server.sendPacketInfoMap.any (·.1 == packetSequence)

section Calls

variable {Key : Type}

/-- The direction that the session encodes a packet with. -/
def direction (isReplyType : Bool) : PacketDirection :=
  if isReplyType then .serverToClientReply else .serverToClient

/-- `SendPacketImmediate`.  The info is inserted in the map before the buffer is
encoded, and `MultiSocketRUDPCore::SendPacket` pushes it whether the buffer is
encoded or not. -/
def sendPacketImmediate
    (server : Server)
    (circumstances : Circumstances Key)
    (packet : Packet) : Server × Handling :=
  if circumstances.infoAllocated = false then
    (server, { buffer := packet.buffer, failureSeen := true })
  else
    let inserted :=
      !packet.isReplyType && !server.isRegistered packet.packetSequence
    let buffer :=
      circumstances.encoder.encode (direction packet.isReplyType) packet
    let map :=
      if inserted then
        (packet.packetSequence, buffer) :: server.sendPacketInfoMap
      else server.sendPacketInfoMap
    let sent := circumstances.ownerSends && circumstances.doSend
    ({ server with
        sendPacketInfoMap :=
          if sent || packet.isReplyType then map
          else map.filter (·.1 != packet.packetSequence)
        sendPacketInfoQueue :=
          if circumstances.ownerSends then
            server.sendPacketInfoQueue ++ [⟨buffer, packet.isReplyType⟩]
          else server.sendPacketInfoQueue },
      { buffer
        encodingFailed := !buffer.isEncoded
        registered := inserted
        enqueued := circumstances.ownerSends
        failureSeen := !sent })

/-- A packet that has to wait. -/
def waits (server : Server) (canSend : Bool) (packet : Packet) : Bool :=
  !packet.isReplyType && (!server.pendingPacketQueue.isEmpty || !canSend)

/-- `SendPacket(NetBuffer&)`, with what the window says about the sequence. -/
def sendPacket
    (capacity : Nat)
    (server : Server)
    (circumstances : Circumstances Key)
    (canSend : Bool)
    (packet : Packet) : Server × Handling :=
  if server.waits canSend packet then
    if server.pendingPacketQueue.length = capacity then
      (server, { buffer := packet.buffer, failureSeen := true })
    else
      ({ server with
          pendingPacketQueue :=
            server.pendingPacketQueue ++
              [(packet.packetSequence, packet.buffer)] },
        { buffer := packet.buffer })
  else server.sendPacketImmediate circumstances packet

end Calls

end Server

/-- The calls on the server that handle packets. -/
inductive ServerLabel (Key : Type)
  /-- `SendPacket(IPacket&)`. -/
  | sendPacket
      (packetId : BitVec 32) (content : List Byte) (canSend : Bool)
      (circumstances : Circumstances Key)
  /-- `SendHeartbeatPacket`. -/
  | sendHeartbeatPacket (canSend : Bool) (circumstances : Circumstances Key)
  /-- `SendReplyToClient`. -/
  | sendReplyToClient
      (packetSequence : PacketSequence) (advertiseWindow : Byte)
      (circumstances : Circumstances Key)
  /-- `TryFlushPendingQueue` pops what the window admits. -/
  | tryFlushPendingQueue (thread : Nat) (canSend : PacketSequence → Bool)
  /-- It sends the next of these packets. -/
  | sendNextBuffer (thread : Nat) (circumstances : Circumstances Key)
  /-- `MakeSendStream` pops an info, skips it when it is erased, and schedules
  it for retransmission unless it is a reply. -/
  | makeSendStream (isErased : Bool)
  /-- The retransmission thread sends a scheduled packet again. -/
  | retransmit (buffer : NetBuffer) (ownerSends doSend : Bool)
  /-- `OnSendReply` erases a sequence. -/
  | onSendReply (packetSequence : PacketSequence)

namespace Server

variable {Key : Type}

/-- The next data packet. -/
def dataPacket
    (config : Config) (server : Server)
    (packetId : BitVec 32) (content : List Byte) : Packet where
  buffer :=
    config.write .sendType (server.lastSendPacketSequence + 1)
      (wordBytes packetIdSize packetId ++ content)
  packetSequence := server.lastSendPacketSequence + 1
  isReplyType := false
  isCorePacket := false

/-- The next heartbeat. -/
def heartbeatPacket (config : Config) (server : Server) : Packet where
  buffer := config.write .heartbeatType (server.lastSendPacketSequence + 1) []
  packetSequence := server.lastSendPacketSequence + 1
  isReplyType := false
  isCorePacket := true

/-- A reply. -/
def replyPacket
    (config : Config) (packetSequence : PacketSequence)
    (advertiseWindow : Byte) : Packet where
  buffer := config.write .sendReplyType packetSequence [advertiseWindow]
  packetSequence
  isReplyType := true
  isCorePacket := true

/-- A packet that comes from the pending queue. -/
def flushedPacket (item : PacketSequence × NetBuffer) : Packet where
  buffer := item.2
  packetSequence := item.1
  isReplyType := false
  isCorePacket := false

/-- `IncrementLastSendPacketSequence`. -/
def incrementLastSendPacketSequence (server : Server) : Server :=
  { server with
    lastSendPacketSequence := server.lastSendPacketSequence + 1 }

/-- One call on the server, with the handling of the packet if there is one. -/
def step (config : Config) (server : Server) :
    ServerLabel Key → Option (Server × List Handling)
  | .sendPacket packetId content canSend circumstances =>
      let (next, handling) :=
        server.incrementLastSendPacketSequence.sendPacket
          config.pendingQueueCapacity circumstances canSend
          (server.dataPacket config packetId content)
      some (next, [handling])
  | .sendHeartbeatPacket canSend circumstances =>
      let (next, handling) :=
        server.incrementLastSendPacketSequence.sendPacket
          config.pendingQueueCapacity circumstances canSend
          (server.heartbeatPacket config)
      some (next, [handling])
  | .sendReplyToClient packetSequence advertiseWindow circumstances =>
      let (next, handling) :=
        server.sendPacket config.pendingQueueCapacity circumstances true
          (replyPacket config packetSequence advertiseWindow)
      some (next, [handling])
  | .tryFlushPendingQueue thread canSend =>
      if server.sendBuffers thread = [] then
        some
          ({ server with
              pendingPacketQueue :=
                server.pendingPacketQueue.dropWhile (canSend ·.1)
              sendBuffers :=
                Function.update server.sendBuffers thread
                  (server.pendingPacketQueue.takeWhile (canSend ·.1)) }, [])
      else none
  | .sendNextBuffer thread circumstances =>
      match server.sendBuffers thread with
      | [] => none
      | item :: rest =>
          let (next, handling) :=
            server.sendPacketImmediate circumstances (flushedPacket item)
          let rest := if handling.failureSeen then [] else rest
          some
            ({ next with
                sendBuffers :=
                  Function.update server.sendBuffers thread rest },
              [handling])
  | .makeSendStream isErased =>
      match server.sendPacketInfoQueue with
      | [] => none
      | info :: rest =>
          let popped := { server with sendPacketInfoQueue := rest }
          if isErased || info.isReplyType then some (popped, [])
          else
            some
              ({ popped with
                  retransmissionSchedule :=
                    info.buffer :: server.retransmissionSchedule },
                [{ buffer := info.buffer, registered := true }])
  | .retransmit buffer ownerSends doSend =>
      if buffer ∈ server.retransmissionSchedule then
        some
          ({ server with
              sendPacketInfoQueue :=
                if ownerSends then
                  server.sendPacketInfoQueue ++ [⟨buffer, false⟩]
                else server.sendPacketInfoQueue },
            [{ buffer
               enqueued := ownerSends
               failureSeen := !(ownerSends && doSend) }])
      else none
  | .onSendReply packetSequence =>
      some
        ({ server with
            sendPacketInfoMap :=
              server.sendPacketInfoMap.filter (·.1 != packetSequence) }, [])

end Server

namespace Server

variable {Key : Type}

/-! ### The condition on the server -/

/-- `SendPacketImmediate` finds no `SendPacketInfo`, or it can encode the packet,
or it neither inserts the packet nor pushes it. -/
def immediateMeets
    (server : Server)
    (circumstances : Circumstances Key)
    (packet : Packet) : Bool :=
  !circumstances.infoAllocated ||
    circumstances.encoder.succeeds (direction packet.isReplyType) packet ||
    (packet.isReplyType || server.isRegistered packet.packetSequence) &&
      !circumstances.ownerSends

/-- The packet has to wait or meets the condition of `SendPacketImmediate`. -/
def sendMeets
    (server : Server)
    (circumstances : Circumstances Key)
    (canSend : Bool)
    (packet : Packet) : Bool :=
  server.waits canSend packet || server.immediateMeets circumstances packet

/-- The condition on the calls of the server. -/
def meets (config : Config) (server : Server) : ServerLabel Key → Bool
  | .sendPacket packetId content canSend circumstances =>
      server.sendMeets circumstances canSend
        (server.dataPacket config packetId content)
  | .sendHeartbeatPacket canSend circumstances =>
      server.sendMeets circumstances canSend (server.heartbeatPacket config)
  | .sendReplyToClient packetSequence advertiseWindow circumstances =>
      server.sendMeets circumstances true
        (replyPacket config packetSequence advertiseWindow)
  | .sendNextBuffer thread circumstances =>
      (server.sendBuffers thread).head?.all fun item =>
        server.immediateMeets circumstances (flushedPacket item)
  | .tryFlushPendingQueue _ _ | .makeSendStream _ | .retransmit _ _ _
  | .onSendReply _ => true

/-- What waits to be sent, now or again, is encoded. -/
structure Kept (server : Server) : Prop where
  queued : ∀ info ∈ server.sendPacketInfoQueue, info.buffer.isEncoded
  scheduled : ∀ buffer ∈ server.retransmissionSchedule, buffer.isEncoded

/-- `SendPacketImmediate` fails closed exactly under its condition. -/
theorem sendPacketImmediate_failsClosed_iff
    (server : Server)
    (circumstances : Circumstances Key)
    (packet : Packet) :
    (server.sendPacketImmediate circumstances packet).2.FailsClosed ↔
      server.immediateMeets circumstances packet := by
  unfold sendPacketImmediate immediateMeets
  cases circumstances.infoAllocated with
  | false => simp [Handling.FailsClosed]
  | true =>
      rw [← Encoder.isEncoded_encode]
      generalize circumstances.encoder.encode (direction packet.isReplyType)
        packet = buffer
      cases encoded : buffer.isEncoded with
      | true => simp [Handling.FailsClosed, encoded]
      | false =>
          cases packet.isReplyType <;> cases circumstances.ownerSends <;>
            simp [Handling.FailsClosed, encoded]

/-- Under its condition it pushes an encoded packet, if any. -/
theorem Kept.sendPacketImmediate
    {server : Server}
    {circumstances : Circumstances Key}
    {packet : Packet}
    (kept : server.Kept)
    (meets : server.immediateMeets circumstances packet) :
    (server.sendPacketImmediate circumstances packet).1.Kept := by
  unfold Server.sendPacketImmediate
  unfold immediateMeets at meets
  split
  · exact kept
  · next allocated =>
    refine { kept with queued := fun info queued => ?_ }
    cases sends : circumstances.ownerSends with
    | false =>
        simp only [sends, Bool.false_eq_true, if_false] at queued
        exact kept.queued info queued
    | true =>
        simp only [sends, if_true, List.mem_append,
          List.mem_singleton] at queued
        rcases queued with before | rfl
        · exact kept.queued info before
        · rw [Encoder.isEncoded_encode]
          simpa [(Bool.not_eq_false _).mp allocated, sends] using meets

/-- `SendPacket(NetBuffer&)`. -/
theorem sendPacket_failsClosed_iff
    (capacity : Nat)
    (server : Server)
    (circumstances : Circumstances Key)
    (canSend : Bool)
    (packet : Packet) :
    (server.sendPacket capacity circumstances canSend packet).2.FailsClosed ↔
      server.sendMeets circumstances canSend packet := by
  unfold sendPacket sendMeets
  cases waits : server.waits canSend packet with
  | true =>
      simp only [if_true, Bool.true_or, iff_true]
      split <;> simp [Handling.FailsClosed]
  | false =>
      simpa using
        server.sendPacketImmediate_failsClosed_iff circumstances packet

theorem Kept.sendPacket
    {server : Server}
    {circumstances : Circumstances Key}
    {canSend : Bool}
    {packet : Packet}
    (kept : server.Kept)
    (capacity : Nat)
    (meets : server.sendMeets circumstances canSend packet) :
    (server.sendPacket capacity circumstances canSend packet).1.Kept := by
  unfold Server.sendPacket
  unfold sendMeets at meets
  split
  · split
    · exact kept
    · exact { kept with }
  · next goes =>
    rw [(Bool.not_eq_true _).mp goes, Bool.false_or] at meets
    exact kept.sendPacketImmediate meets

/-- A call on the server fails closed exactly under its condition. -/
theorem step_failsClosed_iff
    {config : Config}
    {server next : Server}
    {label : ServerLabel Key}
    {handlings : List Handling}
    (kept : server.Kept)
    (moves : server.step config label = some (next, handlings)) :
    (∀ handling ∈ handlings, handling.FailsClosed) ↔
      server.meets config label := by
  cases label with
  | sendPacket packetId content canSend circumstances =>
      obtain ⟨-, rfl⟩ := Prod.mk.inj (Option.some.inj moves)
      rw [List.forall_mem_singleton]
      exact sendPacket_failsClosed_iff config.pendingQueueCapacity _
        circumstances canSend (server.dataPacket config packetId content)
  | sendHeartbeatPacket canSend circumstances =>
      obtain ⟨-, rfl⟩ := Prod.mk.inj (Option.some.inj moves)
      rw [List.forall_mem_singleton]
      exact sendPacket_failsClosed_iff config.pendingQueueCapacity _
        circumstances canSend (server.heartbeatPacket config)
  | sendReplyToClient packetSequence advertiseWindow circumstances =>
      obtain ⟨-, rfl⟩ := Prod.mk.inj (Option.some.inj moves)
      rw [List.forall_mem_singleton]
      exact sendPacket_failsClosed_iff config.pendingQueueCapacity server
        circumstances true (replyPacket config packetSequence advertiseWindow)
  | tryFlushPendingQueue thread canSend =>
      obtain ⟨_, same⟩ := Option.ite_none_right_eq_some.mp moves
      obtain ⟨-, rfl⟩ := Prod.mk.inj (Option.some.inj same)
      simp [meets]
  | sendNextBuffer thread circumstances =>
      simp only [step] at moves
      split at moves
      · nomatch moves
      · next item rest popped =>
        obtain ⟨-, rfl⟩ := Prod.mk.inj (Option.some.inj moves)
        rw [List.forall_mem_singleton, meets, popped]
        exact sendPacketImmediate_failsClosed_iff _ _ _
  | makeSendStream isErased =>
      simp only [step] at moves
      split at moves
      · nomatch moves
      · next info rest queued =>
        refine iff_of_true ?_ rfl
        split at moves
        · obtain ⟨-, rfl⟩ := Prod.mk.inj (Option.some.inj moves)
          nofun
        · obtain ⟨-, rfl⟩ := Prod.mk.inj (Option.some.inj moves)
          rw [List.forall_mem_singleton]
          exact Handling.failsClosed_of_isEncoded
            (kept.queued info (queued ▸ List.mem_cons_self)) rfl
  | retransmit buffer ownerSends doSend =>
      obtain ⟨scheduled, same⟩ := Option.ite_none_right_eq_some.mp moves
      obtain ⟨-, rfl⟩ := Prod.mk.inj (Option.some.inj same)
      rw [List.forall_mem_singleton]
      exact iff_of_true
        (Handling.failsClosed_of_isEncoded (kept.scheduled _ scheduled) rfl) rfl
  | onSendReply packetSequence =>
      obtain ⟨-, rfl⟩ := Prod.mk.inj (Option.some.inj moves)
      simp [meets]

/-- Under its condition it enqueues and schedules encoded packets only. -/
theorem Kept.step
    {config : Config}
    {server next : Server}
    {label : ServerLabel Key}
    {handlings : List Handling}
    (kept : server.Kept)
    (meets : server.meets config label)
    (moves : server.step config label = some (next, handlings)) :
    next.Kept := by
  have incremented : server.incrementLastSendPacketSequence.Kept :=
    { kept with }
  cases label with
  | sendPacket packetId content canSend circumstances =>
      obtain ⟨rfl, -⟩ := Prod.mk.inj (Option.some.inj moves)
      exact incremented.sendPacket config.pendingQueueCapacity meets
  | sendHeartbeatPacket canSend circumstances =>
      obtain ⟨rfl, -⟩ := Prod.mk.inj (Option.some.inj moves)
      exact incremented.sendPacket config.pendingQueueCapacity meets
  | sendReplyToClient packetSequence advertiseWindow circumstances =>
      obtain ⟨rfl, -⟩ := Prod.mk.inj (Option.some.inj moves)
      exact kept.sendPacket config.pendingQueueCapacity meets
  | tryFlushPendingQueue thread canSend =>
      obtain ⟨_, same⟩ := Option.ite_none_right_eq_some.mp moves
      obtain ⟨rfl, -⟩ := Prod.mk.inj (Option.some.inj same)
      exact { kept with }
  | sendNextBuffer thread circumstances =>
      simp only [Server.step] at moves
      split at moves
      · nomatch moves
      · next item rest popped =>
        obtain ⟨rfl, -⟩ := Prod.mk.inj (Option.some.inj moves)
        rw [Server.meets, popped] at meets
        exact { kept.sendPacketImmediate meets with }
  | makeSendStream isErased =>
      simp only [Server.step] at moves
      split at moves
      · nomatch moves
      · next info rest queued =>
        have first : info.buffer.isEncoded :=
          kept.queued info (queued ▸ List.mem_cons_self)
        have left : ∀ info ∈ rest, info.buffer.isEncoded := fun info waits =>
          kept.queued info (queued ▸ List.mem_cons_of_mem _ waits)
        split at moves
        · obtain ⟨rfl, -⟩ := Prod.mk.inj (Option.some.inj moves)
          exact { kept with queued := left }
        · obtain ⟨rfl, -⟩ := Prod.mk.inj (Option.some.inj moves)
          exact
            { queued := left
              scheduled := List.forall_mem_cons.mpr ⟨first, kept.scheduled⟩ }
  | retransmit buffer ownerSends doSend =>
      obtain ⟨scheduled, same⟩ := Option.ite_none_right_eq_some.mp moves
      obtain ⟨rfl, -⟩ := Prod.mk.inj (Option.some.inj same)
      refine { kept with queued := fun info queued => ?_ }
      cases ownerSends with
      | false => exact kept.queued info queued
      | true =>
          rcases List.mem_append.mp queued with before | pushed
          · exact kept.queued info before
          · obtain rfl := List.mem_singleton.mp pushed
            exact kept.scheduled _ scheduled
  | onSendReply packetSequence =>
      obtain ⟨rfl, -⟩ := Prod.mk.inj (Option.some.inj moves)
      exact { kept with }

end Server

/-! ## The client -/

/-- The queues of a client. -/
structure Client where
  lastSendPacketSequence : PacketSequence := 0
  /-- The priority queue of pending packets, in no particular order. -/
  pendingPacketQueue : List (PacketSequence × NetBuffer) := []
  sendPacketInfoMap : List (PacketSequence × NetBuffer) := []
  /-- The send queue, front first. -/
  sendBufferQueue : List NetBuffer := []

/-- The calls on the client that handle packets, with the advertised window as
they load it. -/
inductive ClientLabel (Key : Type)
  /-- `SendPacket(IPacket&)`. -/
  | sendPacket
      (packetId : BitVec 32) (content : List Byte) (window : Byte)
      (infoAllocated : Bool) (encoder : Encoder Key)
  /-- `SendConnectPacket`. -/
  | sendConnectPacket
      (sessionId : SessionIdType) (infoAllocated : Bool) (encoder : Encoder Key)
  /-- `Disconnect`, which finds the send event or not. -/
  | disconnect (sendEvent : Bool) (encoder : Encoder Key)
  /-- `SendReplyToServer`. -/
  | sendReplyToServer
      (packetSequence : PacketSequence) (packetType : PacketType)
      (encoder : Encoder Key)
  /-- `TryFlushPendingQueue` registers the packet with the smallest sequence. -/
  | flushPacket
      (item : PacketSequence × NetBuffer) (window : Byte) (infoAllocated : Bool)
  /-- The retransmission thread enqueues a registered packet. -/
  | retransmit (item : PacketSequence × NetBuffer)
  /-- `OnSendReply` erases a sequence. -/
  | onSendReply (packetSequence : PacketSequence)
  /-- `DoSend` takes a packet from the send queue. -/
  | doSend

namespace Client

variable {Key : Type}

/-- The sequence is a key of `sendPacketInfoMap`. -/
def isRegistered (client : Client) (packetSequence : PacketSequence) : Bool :=
  client.sendPacketInfoMap.any (·.1 == packetSequence)

/-- `static_cast<BYTE>(sendPacketInfoMap.size())`. -/
def outstanding (client : Client) : Byte :=
  BitVec.ofNat 8 client.sendPacketInfoMap.length

/-- The direction that the client encodes a packet with. -/
def direction (isReplyType : Bool) : PacketDirection :=
  if isReplyType then .clientToServerReply else .clientToServer

/-- `RegisterSendPacketInfo`, of a packet whose encoding has succeeded or
failed before. -/
def registerSendPacketInfo
    (client : Client)
    (infoAllocated : Bool)
    (packetSequence : PacketSequence)
    (buffer : NetBuffer)
    (encodingFailed : Bool) : Client × Handling :=
  if infoAllocated = false then (client, { buffer, encodingFailed })
  else
    let inserted := !client.isRegistered packetSequence
    ({ client with
        sendPacketInfoMap :=
          if inserted then (packetSequence, buffer) :: client.sendPacketInfoMap
          else client.sendPacketInfoMap
        sendBufferQueue := client.sendBufferQueue ++ [buffer] },
      { buffer
        encodingFailed
        registered := inserted
        enqueued := true })

/-- `SendPacket(NetBuffer&)`. -/
def sendPacket
    (client : Client)
    (encoder : Encoder Key)
    (window : Byte)
    (infoAllocated : Bool)
    (packet : Packet) : Client × Handling :=
  let buffer := encoder.encode (direction packet.isReplyType) packet
  if packet.isCorePacket = false ∧
      (window = 0 ∨ window ≤ client.outstanding) then
    ({ client with
        pendingPacketQueue :=
          (packet.packetSequence, buffer) :: client.pendingPacketQueue },
      { buffer, encodingFailed := !buffer.isEncoded })
  else
    client.registerSendPacketInfo infoAllocated packet.packetSequence buffer
      (!buffer.isEncoded)

/-- The end of `SendReplyToServer` and of `Disconnect`, which enqueue a packet
that they do not register. -/
def enqueueEncoded
    (client : Client)
    (encoder : Encoder Key)
    (sendEvent : Bool)
    (packet : Packet) : Client × Handling :=
  let buffer := encoder.encode (direction packet.isReplyType) packet
  ({ client with
      sendBufferQueue :=
        if sendEvent then client.sendBufferQueue ++ [buffer]
        else client.sendBufferQueue },
    { buffer, encodingFailed := !buffer.isEncoded, enqueued := sendEvent })

/-- The next data packet. -/
def dataPacket
    (config : Config) (client : Client)
    (packetId : BitVec 32) (content : List Byte) : Packet where
  buffer :=
    config.write .sendType (client.lastSendPacketSequence + 1)
      (wordBytes packetIdSize packetId ++ content)
  packetSequence := client.lastSendPacketSequence + 1
  isReplyType := false
  isCorePacket := false

/-- The CONNECT packet. -/
def connectPacket (config : Config) (sessionId : SessionIdType) : Packet where
  buffer :=
    config.write .connectType loginPacketSequence (wordBytes 2 sessionId)
  packetSequence := loginPacketSequence
  isReplyType := false
  isCorePacket := true

/-- The DISCONNECT packet. -/
def disconnectPacket (config : Config) (client : Client) : Packet where
  buffer := config.write .disconnectType (client.lastSendPacketSequence + 1) []
  packetSequence := client.lastSendPacketSequence + 1
  isReplyType := false
  isCorePacket := true

/-- A reply. -/
def replyPacket
    (config : Config) (packetSequence : PacketSequence)
    (packetType : PacketType) : Packet where
  buffer := config.write packetType packetSequence []
  packetSequence
  isReplyType := true
  isCorePacket := true

/-- `++lastSendPacketSequence`. -/
def incrementLastSendPacketSequence (client : Client) : Client :=
  { client with
    lastSendPacketSequence := client.lastSendPacketSequence + 1 }

/-- One call on the client, with the handling of the packet if there is one. -/
def step (config : Config) (client : Client) :
    ClientLabel Key → Option (Client × List Handling)
  | .sendPacket packetId content window infoAllocated encoder =>
      let (next, handling) :=
        client.incrementLastSendPacketSequence.sendPacket encoder window
          infoAllocated (client.dataPacket config packetId content)
      some (next, [handling])
  | .sendConnectPacket sessionId infoAllocated encoder =>
      let (next, handling) :=
        client.sendPacket encoder 0 infoAllocated
          (connectPacket config sessionId)
      some (next, [handling])
  | .disconnect sendEvent encoder =>
      let (next, handling) :=
        client.incrementLastSendPacketSequence.enqueueEncoded encoder sendEvent
          (client.disconnectPacket config)
      some (next, [handling])
  | .sendReplyToServer packetSequence packetType encoder =>
      let (next, handling) :=
        client.enqueueEncoded encoder true
          (replyPacket config packetSequence packetType)
      some (next, [handling])
  | .flushPacket item window infoAllocated =>
      if (window ≠ 0 ∧ ¬ window ≤ client.outstanding) ∧
          item ∈ client.pendingPacketQueue ∧
          ∀ other ∈ client.pendingPacketQueue, item.1 ≤ other.1 then
        let popped :=
          { client with
            pendingPacketQueue := client.pendingPacketQueue.erase item }
        let (next, handling) :=
          popped.registerSendPacketInfo infoAllocated item.1 item.2 false
        some (next, [handling])
      else none
  | .retransmit item =>
      if item ∈ client.sendPacketInfoMap then
        some
          ({ client with
              sendBufferQueue := client.sendBufferQueue ++ [item.2] },
            [{ buffer := item.2, enqueued := true }])
      else none
  | .onSendReply packetSequence =>
      some
        ({ client with
            sendPacketInfoMap :=
              client.sendPacketInfoMap.filter (·.1 != packetSequence) }, [])
  | .doSend =>
      match client.sendBufferQueue with
      | [] => none
      | _ :: rest => some ({ client with sendBufferQueue := rest }, [])

/-! ### The condition on the client -/

/-- The condition on the calls of the client: the packet can be encoded. -/
def meets (config : Config) (client : Client) : ClientLabel Key → Bool
  | .sendPacket packetId content _ _ encoder =>
      encoder.succeeds (direction false)
        (client.dataPacket config packetId content)
  | .sendConnectPacket sessionId _ encoder =>
      encoder.succeeds (direction false) (connectPacket config sessionId)
  | .disconnect _ encoder =>
      encoder.succeeds (direction false) (client.disconnectPacket config)
  | .sendReplyToServer packetSequence packetType encoder =>
      encoder.succeeds (direction true)
        (replyPacket config packetSequence packetType)
  | .flushPacket _ _ _ | .retransmit _ | .onSendReply _ | .doSend => true

/-- What is registered and what waits for the window is encoded. -/
structure Kept (client : Client) : Prop where
  pending : ∀ item ∈ client.pendingPacketQueue, item.2.isEncoded
  registered : ∀ item ∈ client.sendPacketInfoMap, item.2.isEncoded

/-- `RegisterSendPacketInfo` of an encoded packet. -/
theorem registerSendPacketInfo_failsClosed
    (client : Client)
    (infoAllocated : Bool)
    (packetSequence : PacketSequence)
    {buffer : NetBuffer}
    (encoded : buffer.isEncoded) :
    (client.registerSendPacketInfo infoAllocated packetSequence buffer
      false).2.FailsClosed := by
  unfold registerSendPacketInfo
  split <;> exact Handling.failsClosed_of_isEncoded encoded rfl

theorem Kept.registerSendPacketInfo
    {client : Client}
    (kept : client.Kept)
    (infoAllocated : Bool)
    (packetSequence : PacketSequence)
    {buffer : NetBuffer}
    (encoded : buffer.isEncoded)
    (encodingFailed : Bool) :
    (client.registerSendPacketInfo infoAllocated packetSequence buffer
      encodingFailed).1.Kept := by
  unfold Client.registerSendPacketInfo
  split
  · exact kept
  · refine { kept with registered := fun item among => ?_ }
    dsimp only at among
    split at among
    · rcases List.mem_cons.mp among with rfl | before
      · exact encoded
      · exact kept.registered item before
    · exact kept.registered item among

/-- `SendPacket(NetBuffer&)` has no result, so it fails closed only when the
packet is encoded. -/
theorem sendPacket_failsClosed_iff
    (client : Client)
    (encoder : Encoder Key)
    (window : Byte)
    (infoAllocated : Bool)
    (packet : Packet) :
    (client.sendPacket encoder window infoAllocated packet).2.FailsClosed ↔
      encoder.succeeds (direction packet.isReplyType) packet := by
  unfold sendPacket registerSendPacketInfo
  rw [← Encoder.isEncoded_encode]
  generalize encoder.encode (direction packet.isReplyType) packet = buffer
  cases encoded : buffer.isEncoded <;> split <;> try split
  all_goals simp [Handling.FailsClosed, encoded]

theorem Kept.sendPacket
    {client : Client}
    (kept : client.Kept)
    {encoder : Encoder Key}
    (window : Byte)
    (infoAllocated : Bool)
    {packet : Packet}
    (succeeds : encoder.succeeds (direction packet.isReplyType) packet) :
    (client.sendPacket encoder window infoAllocated packet).1.Kept := by
  rw [← Encoder.isEncoded_encode] at succeeds
  unfold Client.sendPacket
  split
  · exact
      { kept with pending := List.forall_mem_cons.mpr ⟨succeeds, kept.pending⟩ }
  · exact kept.registerSendPacketInfo infoAllocated packet.packetSequence
      succeeds _

/-- `SendReplyToServer` and `Disconnect`. -/
theorem enqueueEncoded_failsClosed_iff
    (client : Client)
    (encoder : Encoder Key)
    (sendEvent : Bool)
    (packet : Packet) :
    (client.enqueueEncoded encoder sendEvent packet).2.FailsClosed ↔
      encoder.succeeds (direction packet.isReplyType) packet := by
  unfold enqueueEncoded
  rw [← Encoder.isEncoded_encode]
  cases encoded :
      (encoder.encode (direction packet.isReplyType) packet).isEncoded <;>
    simp [Handling.FailsClosed, encoded]

/-- A call on the client fails closed exactly under its condition. -/
theorem step_failsClosed_iff
    {config : Config}
    {client next : Client}
    {label : ClientLabel Key}
    {handlings : List Handling}
    (kept : client.Kept)
    (moves : client.step config label = some (next, handlings)) :
    (∀ handling ∈ handlings, handling.FailsClosed) ↔
      client.meets config label := by
  cases label with
  | sendPacket packetId content window infoAllocated encoder =>
      obtain ⟨-, rfl⟩ := Prod.mk.inj (Option.some.inj moves)
      rw [List.forall_mem_singleton]
      exact sendPacket_failsClosed_iff client.incrementLastSendPacketSequence
        encoder window infoAllocated
        (client.dataPacket config packetId content)
  | sendConnectPacket sessionId infoAllocated encoder =>
      obtain ⟨-, rfl⟩ := Prod.mk.inj (Option.some.inj moves)
      rw [List.forall_mem_singleton]
      exact sendPacket_failsClosed_iff client encoder 0 infoAllocated
        (connectPacket config sessionId)
  | disconnect sendEvent encoder =>
      obtain ⟨-, rfl⟩ := Prod.mk.inj (Option.some.inj moves)
      rw [List.forall_mem_singleton]
      exact enqueueEncoded_failsClosed_iff
        client.incrementLastSendPacketSequence encoder sendEvent
        (client.disconnectPacket config)
  | sendReplyToServer packetSequence packetType encoder =>
      obtain ⟨-, rfl⟩ := Prod.mk.inj (Option.some.inj moves)
      rw [List.forall_mem_singleton]
      exact enqueueEncoded_failsClosed_iff client encoder true
        (replyPacket config packetSequence packetType)
  | flushPacket item window infoAllocated =>
      obtain ⟨⟨_, pending, _⟩, same⟩ := Option.ite_none_right_eq_some.mp moves
      obtain ⟨-, rfl⟩ := Prod.mk.inj (Option.some.inj same)
      rw [List.forall_mem_singleton]
      exact iff_of_true
        (registerSendPacketInfo_failsClosed
          { client with
            pendingPacketQueue := client.pendingPacketQueue.erase item }
          infoAllocated item.1 (kept.pending item pending)) rfl
  | retransmit item =>
      obtain ⟨registered, same⟩ := Option.ite_none_right_eq_some.mp moves
      obtain ⟨-, rfl⟩ := Prod.mk.inj (Option.some.inj same)
      rw [List.forall_mem_singleton]
      exact iff_of_true
        (Handling.failsClosed_of_isEncoded (kept.registered item registered)
          rfl) rfl
  | onSendReply packetSequence =>
      obtain ⟨-, rfl⟩ := Prod.mk.inj (Option.some.inj moves)
      simp [meets]
  | doSend =>
      simp only [step] at moves
      split at moves
      · nomatch moves
      · obtain ⟨-, rfl⟩ := Prod.mk.inj (Option.some.inj moves)
        simp [meets]

/-- Under its condition it registers encoded packets only, and so are those that
it lets wait. -/
theorem Kept.step
    {config : Config}
    {client next : Client}
    {label : ClientLabel Key}
    {handlings : List Handling}
    (kept : client.Kept)
    (meets : client.meets config label)
    (moves : client.step config label = some (next, handlings)) :
    next.Kept := by
  have incremented : client.incrementLastSendPacketSequence.Kept :=
    { kept with }
  cases label with
  | sendPacket packetId content window infoAllocated encoder =>
      obtain ⟨rfl, -⟩ := Prod.mk.inj (Option.some.inj moves)
      exact incremented.sendPacket window infoAllocated meets
  | sendConnectPacket sessionId infoAllocated encoder =>
      obtain ⟨rfl, -⟩ := Prod.mk.inj (Option.some.inj moves)
      exact kept.sendPacket 0 infoAllocated meets
  | disconnect sendEvent encoder =>
      obtain ⟨rfl, -⟩ := Prod.mk.inj (Option.some.inj moves)
      exact { incremented with }
  | sendReplyToServer packetSequence packetType encoder =>
      obtain ⟨rfl, -⟩ := Prod.mk.inj (Option.some.inj moves)
      exact { kept with }
  | flushPacket item window infoAllocated =>
      obtain ⟨⟨_, pending, _⟩, same⟩ := Option.ite_none_right_eq_some.mp moves
      obtain ⟨rfl, -⟩ := Prod.mk.inj (Option.some.inj same)
      have popped :
          Kept
            { client with
              pendingPacketQueue := client.pendingPacketQueue.erase item } :=
        { kept with
          pending := fun other left =>
            kept.pending other (List.mem_of_mem_erase left) }
      exact popped.registerSendPacketInfo infoAllocated item.1
        (kept.pending item pending) false
  | retransmit item =>
      obtain ⟨_, same⟩ := Option.ite_none_right_eq_some.mp moves
      obtain ⟨rfl, -⟩ := Prod.mk.inj (Option.some.inj same)
      exact { kept with }
  | onSendReply packetSequence =>
      obtain ⟨rfl, -⟩ := Prod.mk.inj (Option.some.inj moves)
      exact
        { kept with
          registered := fun item left =>
            kept.registered item (List.mem_of_mem_filter left) }
  | doSend =>
      simp only [Client.step] at moves
      split at moves
      · nomatch moves
      · obtain ⟨rfl, -⟩ := Prod.mk.inj (Option.some.inj moves)
        exact { kept with }

end Client

/-! ## Both programs -/

/-- Both programs, with the record of how packets were handled. -/
structure State where
  server : Server := {}
  client : Client := {}
  handled : List Handling := []

/-- A call on one of the two. -/
inductive Label (Key : Type)
  | server (label : ServerLabel Key)
  | client (label : ClientLabel Key)

section System

variable {Key : Type}

/-- One call. -/
def step (config : Config) (state : State) : Label Key → Option State
  | .server label =>
      (state.server.step config label).map fun (server, handlings) =>
        { state with server, handled := handlings ++ state.handled }
  | .client label =>
      (state.client.step config label).map fun (client, handlings) =>
        { state with client, handled := handlings ++ state.handled }

/-- Both programs start with empty queues. -/
def system (config : Config) (Key : Type) :
    TransitionSystem State (Label Key) where
  Initial state := state = {}
  step := step config

/-- Every packet was handled closed. -/
def FailsClosed (state : State) : Prop :=
  ∀ handling ∈ state.handled, handling.FailsClosed

instance (state : State) : Decidable (FailsClosed state) :=
  inferInstanceAs (Decidable (∀ handling ∈ state.handled, _))

/-- The condition on one call: the packet can be encoded.  On the server nothing
is asked of a packet that has to wait, nor when there is no `SendPacketInfo`, nor
of one that is neither inserted in the map nor pushed. -/
def Meets (config : Config) (state : State) : Label Key → Prop
  | .server label => state.server.meets config label
  | .client label => state.client.meets config label

instance (config : Config) (state : State) (label : Label Key) :
    Decidable (Meets config state label) :=
  match label with
  | .server label =>
      inferInstanceAs (Decidable (state.server.meets config label = true))
  | .client label =>
      inferInstanceAs (Decidable (state.client.meets config label = true))

/-- What both programs have queued is encoded. -/
structure Kept (state : State) : Prop where
  server : state.server.Kept
  client : state.client.Kept

/-- A call handles packets closed if and only if it meets the condition. -/
theorem failsClosed_step_iff
    {config : Config}
    {state next : State}
    {label : Label Key}
    (kept : Kept state)
    (closed : FailsClosed state)
    (moves : step config state label = some next) :
    FailsClosed next ↔ Meets config state label := by
  cases label with
  | server label =>
      obtain ⟨⟨server, handlings⟩, moved, rfl⟩ :=
        Option.map_eq_some_iff.mp moves
      rw [Meets, ← Server.step_failsClosed_iff kept.server moved]
      exact List.forall_mem_append.trans (and_iff_left closed)
  | client label =>
      obtain ⟨⟨client, handlings⟩, moved, rfl⟩ :=
        Option.map_eq_some_iff.mp moves
      rw [Meets, ← Client.step_failsClosed_iff kept.client moved]
      exact List.forall_mem_append.trans (and_iff_left closed)

/-- A call that meets the condition queues encoded packets only. -/
theorem Kept.step
    {config : Config}
    {state next : State}
    {label : Label Key}
    (kept : Kept state)
    (meets : Meets config state label)
    (moves : EncodingFailures.step config state label = some next) :
    Kept next := by
  cases label with
  | server label =>
      obtain ⟨⟨server, handlings⟩, moved, rfl⟩ :=
        Option.map_eq_some_iff.mp moves
      exact { kept with server := kept.server.step meets moved }
  | client label =>
      obtain ⟨⟨client, handlings⟩, moved, rfl⟩ :=
        Option.map_eq_some_iff.mp moves
      exact { kept with client := kept.client.step meets moved }

/-- Records are never withdrawn. -/
theorem FailsClosed.before
    {config : Config}
    {state next : State}
    {label : Label Key}
    (moves : step config state label = some next)
    (closed : FailsClosed next) :
    FailsClosed state := by
  cases label with
  | server label =>
      obtain ⟨_, _, rfl⟩ := Option.map_eq_some_iff.mp moves
      exact (List.forall_mem_append.mp closed).2
  | client label =>
      obtain ⟨_, _, rfl⟩ := Option.map_eq_some_iff.mp moves
      exact (List.forall_mem_append.mp closed).2

/-- A run handles every packet closed if and only if every call of it meets the
condition. -/
theorem failsClosed_iff_meets
    (config : Config)
    (labels : List (Label Key))
    {state : State}
    (runs : (system config Key).run {} labels = some state) :
    FailsClosed state ↔
      (system config Key).guardedRun (Meets config) {} labels = some state :=
  TransitionSystem.holds_iff_guardedRun FailsClosed.before failsClosed_step_iff
    Kept.step
    { server := { queued := nofun, scheduled := nofun }
      client := { pending := nofun, registered := nofun } }
    nofun runs

end System

/-! ## Runs in which the encryption fails or succeeds -/

/-- A cipher that seals nothing, or everything by identity. -/
def identityCipher (works : Bool) : Aead.Scheme Unit Byte where
  tagLength := authTagSize
  sealed _ _ _ plaintext :=
    if works then some (plaintext, List.replicate authTagSize 0) else none
  opened _ _ _ ciphertext _ := some ciphertext
  ciphertext_length seals := by
    obtain ⟨_, same⟩ := Option.ite_none_right_eq_some.mp seals
    cases same
    rfl
  tag_length seals := by
    obtain ⟨_, same⟩ := Option.ite_none_right_eq_some.mp seals
    cases same
    rfl
  opened_sealed seals := by
    obtain ⟨_, same⟩ := Option.ite_none_right_eq_some.mp seals
    cases same
    rfl

/-- An encoder with a key, a full salt and this cipher. -/
def sampleEncoder (works : Bool) : Encoder Unit where
  scheme := identityCipher works
  headerCode := 0x89
  sessionSalt := List.replicate sessionSaltSize 7
  keyHandle := some ()

/-- Nothing else is in the way of sending. -/
def sampleCircumstances (works : Bool) : Circumstances Unit where
  encoder := sampleEncoder works
  infoAllocated := true
  ownerSends := true
  doSend := true

/-- A session with room for two pending packets. -/
def sampleConfig : Config where
  reserved := ⟨0, 0⟩
  pendingQueueCapacity := 2

/-- The server sends a data packet, a heartbeat and a reply; the client connects,
sends a data packet, replies and disconnects. -/
def sampleCalls (works : Bool) : List (Label Unit) :=
  [.server (.sendPacket 3 [1, 2] true (sampleCircumstances works)),
    .server (.sendHeartbeatPacket true (sampleCircumstances works)),
    .server (.sendReplyToClient 5 8 (sampleCircumstances works)),
    .client (.sendConnectPacket 4 true (sampleEncoder works)),
    .client (.sendPacket 3 [1, 2] 8 true (sampleEncoder works)),
    .client (.sendReplyToServer 5 .sendReplyType (sampleEncoder works)),
    .client (.disconnect true (sampleEncoder works))]

/-- The state behind these calls. -/
def sampleState (works : Bool) : State :=
  ((system sampleConfig Unit).run {} (sampleCalls works)).getD {}

/-- When the encryption fails, every one of the seven packets is enqueued without
being encoded, and no caller is told. -/
theorem unencoded_packets_are_sent :
    (system sampleConfig Unit).run {} (sampleCalls false) =
        some (sampleState false) ∧
      ¬ FailsClosed (sampleState false) ∧
      (sampleState false).handled.map (fun handling =>
          (handling.buffer.isEncoded, handling.enqueued,
            handling.failureSeen)) =
        List.replicate 7 (false, true, false) :=
  ⟨rfl, by decide +kernel, by decide +kernel⟩

/-- When it succeeds, they are all handled closed. -/
theorem failsClosed_of_sealing :
    FailsClosed (sampleState true) :=
  (failsClosed_iff_meets sampleConfig (sampleCalls true)
    (show _ = some (sampleState true) from rfl)).mpr rfl

end EncodingFailures
end MultiSocketRudp
