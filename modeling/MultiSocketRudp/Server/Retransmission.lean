import MultiSocketRudp.Lib.TransitionSystem
import MultiSocketRudp.Server.SendStream

/-!
# Where the packets of a session travel

A packet moves between the calls of `SendPacketImmediate`, the send queue, the
reserved slot, the datagram under construction, the heap of the retransmission
scheduler and the list of due packets.  Each thread advances by its loads,
stores and lock sections.  The model has one session from the moment when it is
connected and the entries that the heap holds for it; deadlines and readings of
the clock are left open.

Objects of `SendPacketInfo` are named, not stored: the reference counts of the
source keep an object alive as long as a name of it is around.
-/

namespace MultiSocketRudp
namespace Retransmission

open TransitionSystems SendStream

/-! ## Packets -/

/-- A `SendPacketInfo` object.  Those of data and heartbeat packets are numbered
by the increments of the send sequence, which wraps around. -/
inductive PacketRef
  | data (ordinal : Nat)
  | reply (index : Nat) (packetSequence : PacketSequence)
  deriving DecidableEq, Repr

namespace PacketRef

/-- `sendPacketSequence`. -/
def packetSequence : PacketRef → PacketSequence
  | .data ordinal => BitVec.ofNat 64 ordinal
  | .reply _ packetSequence => packetSequence

/-- `isReplyType`. -/
def isReplyType : PacketRef → Bool
  | .data _ => false
  | .reply _ _ => true

/-- Key of the packet in the set of one datagram. -/
def key (packet : PacketRef) : PacketSequenceSetKey :=
  ⟨packet.isReplyType, packet.packetSequence⟩

end PacketRef

/-- The fields of `SendPacketInfo` that change, and the size of its buffer. -/
structure SendPacketInfo where
  useSize : Nat
  retransmissionCount : Nat := 0
  /-- Grows with every schedule, of which a packet gets at most one for each
  retransmission, so that it does not wrap around. -/
  scheduleVersion : Nat := 0
  isErasedPacketInfo : Bool := false
  deriving DecidableEq, Repr

/-- A packet in the send queue, with the version of the heap entry that has put
it there. -/
structure QueueItem where
  packet : PacketRef
  cause : Option Nat
  deriving DecidableEq, Repr

/-- `RetransmissionHeapEntry`, of a data or heartbeat packet. -/
structure HeapEntry where
  deadline : Nat
  version : Nat
  ordinal : Nat
  deriving DecidableEq, Repr

/-- A packet that `RefreshRetransmissionSendPacketInfo` has let into a datagram,
with its fields at that moment. -/
structure Transmission where
  item : QueueItem
  info : SendPacketInfo
  deriving DecidableEq, Repr

/-! ## Threads -/

/-- Where a call of `SendPacketImmediate` stands. -/
inductive CallState
  /-- There is no such call yet. -/
  | idle
  /-- The packet has its sequence and is not registered. -/
  | begun
  /-- It is in the map, unless it is a reply. -/
  | inserted
  /-- `MultiSocketRUDPCore::SendPacket` has found the session not releasing. -/
  | tested
  /-- It has pushed the packet and is inside `DoSend`. -/
  | sending
  /-- It has returned false. -/
  | failed
  /-- The packet has been marked as erased. -/
  | marked
  /-- The caller is about to disconnect the session. -/
  | failing
  | done
  deriving DecidableEq, Repr

/-- Where the retransmission thread stands. -/
inductive RetransmissionPhase
  | waiting
  /-- It holds the scheduler lock and collects what is due. -/
  | collecting (now : Nat)
  /-- It is about to take the next due packet. -/
  | processing
  /-- `ProcessRetransmission` has begun. -/
  | checking (entry : HeapEntry)
  /-- The packet has been retransmitted too often. -/
  | exceeded (entry : HeapEntry)
  /-- The packet is about to be sent again. -/
  | retrying (entry : HeapEntry)
  /-- `MultiSocketRUDPCore::SendPacket` has found the session not releasing. -/
  | tested (entry : HeapEntry)
  /-- It has pushed the packet and is inside `DoSend`. -/
  | sending
  /-- It has returned false. -/
  | failing
  deriving DecidableEq, Repr

/-- The callers of `DoSend`. -/
inductive Caller
  | call (packet : PacketRef)
  | retransmission
  /-- The worker that runs `SendIOCompleted`. -/
  | completion
  deriving DecidableEq, Repr

/-- Where a caller stands inside `DoSend`. -/
inductive SendPc
  | outside
  /-- About to test `IsReleasing`. -/
  | entering
  /-- About to compare and swap the IO mode. -/
  | contending
  /-- The send path is this caller's. -/
  | owning
  /-- The send path has been given back because nothing was left to send. -/
  | rechecking
  | returned (result : Bool)
  deriving DecidableEq, Repr

/-- What a caller does once it has given the send path back. -/
inductive AfterRelease
  | return (result : Bool)
  | recheck
  | retry
  deriving DecidableEq, Repr

/-- What `MakeSendStream` carries from packet to packet. -/
structure StreamLocals where
  /-- Packets still to be taken from the queue. -/
  remaining : Nat
  packetSequenceSet : List PacketSequenceSetKey := []
  totalSendSize : Nat := 0
  deriving DecidableEq, Repr

/-- What the owner of the send path is doing. -/
inductive OwnerPhase
  /-- About to test `IsReleasing` again. -/
  | testing
  /-- About to look for something to send. -/
  | looking
  /-- `MakeSendContext` has begun. -/
  | starting
  /-- `MakeSendStream` has measured the queue. -/
  | measured (bufferCount : Nat)
  /-- A packet has been taken from the reserved slot or from the queue. -/
  | taken (item : QueueItem) (reserved : Bool) (locals : StreamLocals)
  /-- `RefreshRetransmissionSendPacketInfo` is about to take the lock. -/
  | refreshing (item : QueueItem) (reserved : Bool) (locals : StreamLocals)
  /-- About to take the next packet from the queue. -/
  | loop (locals : StreamLocals)
  /-- The size of the packet is invalid. -/
  | oversize (item : QueueItem)
  /-- `MakeSendStream` has returned success. -/
  | built (length : Nat)
  /-- About to give the send path back. -/
  | releasing (after : AfterRelease)
  deriving DecidableEq, Repr

/-- The caller that owns the send path, and what it is doing. -/
structure Owner where
  caller : Caller
  phase : OwnerPhase
  deriving DecidableEq, Repr

/-! ## The session and its scheduler -/

/-- The send side of a session, the heap entries for it and all threads. -/
structure State where
  state : SessionState
  nowInReleaseThread : Bool
  /-- How often the send sequence has been incremented. -/
  sequencesTaken : Nat
  infos : PacketRef → SendPacketInfo
  /-- The ordinal of the registered packet, by sequence. -/
  sendPacketInfoMap : PacketSequence → Option Nat
  /-- The send queue, front first. -/
  sendPacketInfoQueue : List QueueItem
  reservedSendPacketInfo : Option QueueItem
  ioMode : IoMode
  owner : Option Owner
  /-- A datagram has been handed to the network and is not yet completed. -/
  sendInFlight : Bool
  calls : PacketRef → CallState
  doSends : Caller → SendPc
  heap : List HeapEntry
  /-- Popped entries whose packets are due. -/
  dueList : List HeapEntry
  retransmission : RetransmissionPhase
  /-- The packet that `OnSendReply` has taken from the map. -/
  acking : Option Nat
  /-- Everything that was let into a datagram, latest first. -/
  transmissions : List Transmission

namespace State

/-- Value of the send sequence. -/
def lastSendPacketSequence (state : State) : PacketSequence :=
  BitVec.ofNat 64 state.sequencesTaken

/-- The entry is the packet's current one. -/
def isLive (state : State) (entry : HeapEntry) : Bool :=
  entry.version = (state.infos (.data entry.ordinal)).scheduleVersion

/-- The packet of the entry has been erased. -/
def isErased (state : State) (entry : HeapEntry) : Bool :=
  (state.infos (.data entry.ordinal)).isErasedPacketInfo

/-- The entry is on top of the heap. -/
def isTop (state : State) (entry : HeapEntry) : Prop :=
  entry ∈ state.heap ∧
    ∀ other ∈ state.heap, entry.deadline ≤ other.deadline

instance (state : State) (entry : HeapEntry) :
    Decidable (state.isTop entry) :=
  inferInstanceAs (Decidable (_ ∧ _))

/-- No thread is inside its section under the scheduler lock. -/
def schedulerLockFree (state : State) : Bool :=
  match state.retransmission with
  | .collecting _ => false
  | _ => true

/-- `IsNothingToSend`. -/
def isNothingToSend (state : State) : Bool :=
  state.sendPacketInfoQueue.isEmpty && state.reservedSendPacketInfo.isNone

/-- `DoDisconnect`, up to the store of the release flag. -/
def doDisconnect (state : State) : State :=
  { state with state := state.state.tryTransitionToReleasing.2 }

/-- A call of `SendPacketImmediate` moves on. -/
def setCall (state : State) (packet : PacketRef) (call : CallState) : State :=
  { state with calls := Function.update state.calls packet call }

/-- A caller moves on inside `DoSend`. -/
def setSend (state : State) (caller : Caller) (pc : SendPc) : State :=
  { state with doSends := Function.update state.doSends caller pc }

/-- The owner of the send path moves on. -/
def setPhase (state : State) (caller : Caller) (phase : OwnerPhase) : State :=
  { state with owner := some ⟨caller, phase⟩ }

/-- Fields of one packet change. -/
def setInfo (state : State) (packet : PacketRef) (info : SendPacketInfo) :
    State :=
  { state with infos := Function.update state.infos packet info }

/-- `MarkSendPacketInfoErased`, under the scheduler lock. -/
def markErased (state : State) (packet : PacketRef) : State :=
  state.setInfo packet
    { state.infos packet with isErasedPacketInfo := true }

/-- `InsertSendPacketInfo`: `try_emplace` leaves a present key alone, and
replies are not registered. -/
def insertSendPacketInfo (state : State) : PacketRef → State
  | .reply _ _ => state
  | .data ordinal =>
      let packetSequence := (PacketRef.data ordinal).packetSequence
      { state with
        sendPacketInfoMap :=
          if state.sendPacketInfoMap packetSequence = none then
            Function.update state.sendPacketInfoMap packetSequence
              (some ordinal)
          else state.sendPacketInfoMap }

/-- `EraseSendPacketInfo`, in the failure path of `SendPacketImmediate`. -/
def eraseSendPacketInfo (state : State) : PacketRef → State
  | .reply _ _ => state
  | .data ordinal =>
      { state with
        sendPacketInfoMap :=
          Function.update state.sendPacketInfoMap
            (PacketRef.data ordinal).packetSequence none }

/-- `PushSendPacketInfo`, followed by the call of `DoSend`. -/
def pushSendPacketInfo
    (state : State) (caller : Caller) (item : QueueItem) : State :=
  { state with
    sendPacketInfoQueue := state.sendPacketInfoQueue ++ [item]
    doSends := Function.update state.doSends caller .entering }

/-- The locals behind an erased packet: a queued one has been counted. -/
def erasedLocals
    (state : State) (item : QueueItem) (reserved : Bool)
    (locals : StreamLocals) : StreamLocals :=
  if reserved then locals
  else
    { locals with
      totalSendSize :=
        locals.totalSendSize + (state.infos item.packet).useSize }

/-- The packet is written into the datagram. -/
def writePacket
    (state : State) (caller : Caller) (item : QueueItem)
    (locals : StreamLocals) : State :=
  { state with
    owner := some
      ⟨caller, .loop
        { locals with
          packetSequenceSet := item.packet.key :: locals.packetSequenceSet
          totalSendSize :=
            locals.totalSendSize + (state.infos item.packet).useSize }⟩
    transmissions := ⟨item, state.infos item.packet⟩ :: state.transmissions }

/-- `PushRetransmissionSchedule`. -/
def pushRetransmissionSchedule
    (state : State) (ordinal : Nat) (deadline : Nat) : State :=
  let info := state.infos (.data ordinal)
  let version := info.scheduleVersion + 1
  { state with
    infos :=
      Function.update state.infos (.data ordinal)
        { info with scheduleVersion := version }
    heap := ⟨deadline, version, ordinal⟩ :: state.heap }

/-- The first load of the erased flag in `RefreshRetransmissionSendPacketInfo`;
a reply needs no schedule. -/
def beginRefresh
    (state : State) (caller : Caller) (item : QueueItem) (reserved : Bool)
    (locals : StreamLocals) : State :=
  if (state.infos item.packet).isErasedPacketInfo then
    state.setPhase caller (.loop (state.erasedLocals item reserved locals))
  else if item.packet.isReplyType then
    state.writePacket caller item locals
  else state.setPhase caller (.refreshing item reserved locals)

/-- The section of `RefreshRetransmissionSendPacketInfo` under the lock, after
which the packet is written. -/
def finishRefresh
    (state : State) (caller : Caller) (item : QueueItem) (reserved : Bool)
    (locals : StreamLocals) (deadline : Nat) : State :=
  if (state.infos item.packet).isErasedPacketInfo then
    state.setPhase caller (.loop (state.erasedLocals item reserved locals))
  else
    let written := state.writePacket caller item locals
    match item.packet with
    | .data ordinal => written.pushRetransmissionSchedule ordinal deadline
    | .reply _ _ => written

/-- `ReservedSendPacketInfoToStream` and `StoredSendPacketInfoToStream`, from
the packet taken to the first load of its erased flag. -/
def checkTaken
    (state : State) (caller : Caller) (item : QueueItem) (reserved : Bool)
    (locals : StreamLocals) : State :=
  let useSize := (state.infos item.packet).useSize
  if reserved then
    if maxSendBufferSize ≤ useSize then
      state.setPhase caller (.oversize item)
    else state.beginRefresh caller item reserved locals
  else if item.packet.key ∈ locals.packetSequenceSet then
    state.setPhase caller (.loop locals)
  else if maxSendBufferSize < useSize ∨ useSize = 0 then
    state.setPhase caller (.oversize item)
  else if maxSendBufferSize < locals.totalSendSize + useSize then
    { state with
      reservedSendPacketInfo := some item
      owner := some ⟨caller, .built locals.totalSendSize⟩ }
  else state.beginRefresh caller item reserved locals

/-- `TakeReservedSendPacketInfo`. -/
def takeReserved (state : State) (caller : Caller) (bufferCount : Nat) :
    State :=
  let locals : StreamLocals := { remaining := bufferCount }
  match state.reservedSendPacketInfo with
  | none => state.setPhase caller (.loop locals)
  | some item =>
      { state with
        reservedSendPacketInfo := none
        owner := some ⟨caller, .taken item true locals⟩ }

/-- One round of the loop of `MakeSendStream`, up to `TryGetFrontAndPop`. -/
def popQueue (state : State) (caller : Caller) (locals : StreamLocals) :
    State :=
  match locals.remaining, state.sendPacketInfoQueue with
  | 0, _ => state.setPhase caller (.built locals.totalSendSize)
  | remaining + 1, [] =>
      state.setPhase caller (.loop { locals with remaining })
  | remaining + 1, item :: rest =>
      { state with
        sendPacketInfoQueue := rest
        owner := some ⟨caller, .taken item false { locals with remaining }⟩ }

/-- The send path is given back. -/
def releaseIoSending
    (state : State) (caller : Caller) (after : AfterRelease) : State :=
  { state with
    ioMode := .ioNoneSending
    owner := none
    doSends :=
      Function.update state.doSends caller
        (match after with
        | .return result => .returned result
        | .recheck => .rechecking
        | .retry => .contending) }

/-- The section of `ProcessRetransmission` under the scheduler lock. -/
def checkDue
    (maxPacketRetransmissionCount : Nat) (state : State) (entry : HeapEntry) :
    State :=
  let info := state.infos (.data entry.ordinal)
  if info.isErasedPacketInfo then { state with retransmission := .processing }
  else
    let count := info.retransmissionCount + 1
    { state with
      infos :=
        Function.update state.infos (.data entry.ordinal)
          { info with retransmissionCount := count }
      retransmission :=
        if maxPacketRetransmissionCount ≤ count then .exceeded entry
        else .retrying entry }

/-- `ProcessRetransmission` pushes its packet. -/
def pushAgain (state : State) (entry : HeapEntry) : State :=
  { state.pushSendPacketInfo .retransmission
      ⟨.data entry.ordinal, some entry.version⟩ with
    retransmission := .sending }

end State

/-! ## Steps -/

/-- The atomic steps, by the thread that makes them. -/
inductive Label
  /-- A packet gets the next send sequence. -/
  | takeSequence (useSize : Nat)
  /-- `SendReplyToClient` fills its buffer. -/
  | beginReply (index : Nat) (packetSequence : PacketSequence) (useSize : Nat)
  /-- The pool has no `SendPacketInfo` left. -/
  | allocFails (packet : PacketRef)
  | insert (packet : PacketRef)
  /-- `MultiSocketRUDPCore::SendPacket` loads the release flag. -/
  | testRelease (packet : PacketRef)
  | push (packet : PacketRef)
  | sendReturns (packet : PacketRef) (result : Bool)
  | markErased (packet : PacketRef)
  | eraseFromMap (packet : PacketRef)
  | failDisconnect (packet : PacketRef)
  /-- `DoSend` tests `IsReleasing`. -/
  | enterDoSend (caller : Caller)
  /-- It compares and swaps the IO mode. -/
  | acquire (caller : Caller)
  /-- It looks again after it has found nothing to send. -/
  | recheck (caller : Caller)
  | ownerTest (caller : Caller)
  | ownerLook (caller : Caller)
  /-- The context pool is empty. -/
  | contextFails (caller : Caller)
  | measureQueue (caller : Caller)
  | takeReserved (caller : Caller) (bufferCount : Nat)
  | checkTaken
      (caller : Caller) (item : QueueItem) (reserved : Bool)
      (locals : StreamLocals)
  | finishRefresh
      (caller : Caller) (item : QueueItem) (reserved : Bool)
      (locals : StreamLocals) (deadline : Nat)
  | popQueue (caller : Caller) (locals : StreamLocals)
  | oversizeDisconnect (caller : Caller) (item : QueueItem)
  /-- The stream is empty. -/
  | emptyStream (caller : Caller)
  | simulateLoss (caller : Caller) (length : Nat)
  /-- `TryRIOSend` after the rest of `MakeSendContext`, with the result. -/
  | tryRioSend (caller : Caller) (length : Nat) (result : Bool)
  | releaseIoSending (caller : Caller) (after : AfterRelease)
  /-- `SendIOCompleted` stores the IO mode; its test of `IsReleasing` is the one
  that `DoSend` makes next. -/
  | sendIoCompleted
  | completionReturns (result : Bool)
  /-- The retransmission thread takes the lock and reads the clock. -/
  | collect (now : Nat)
  | popStale (now : Nat) (entry : HeapEntry)
  | popDue (now : Nat) (entry : HeapEntry)
  | stopCollecting (now : Nat)
  | takeDue (entry : HeapEntry)
  | finishDue
  | checkDue (entry : HeapEntry)
  | disconnectExceeded (entry : HeapEntry)
  | testReleaseAgain (entry : HeapEntry)
  | pushAgain (entry : HeapEntry)
  | sendAgainReturns (result : Bool)
  | disconnectFailed
  /-- `OnSendReply` takes the packet out of the map. -/
  | ackErase (packetSequence : PacketSequence) (ordinal : Nat)
  | ackMark (ordinal : Nat)
  /-- `DoDisconnect` from outside of these threads. -/
  | disconnect
  /-- `DoDisconnect` stores the release flag. -/
  | raiseReleaseFlag
  deriving DecidableEq, Repr

open State in
/-- One atomic step. -/
def step (maxPacketRetransmissionCount : Nat) (state : State) :
    Label → Option State
  | .takeSequence useSize =>
      let packet := PacketRef.data (state.sequencesTaken + 1)
      some
        { state with
          sequencesTaken := state.sequencesTaken + 1
          infos := Function.update state.infos packet { useSize }
          calls := Function.update state.calls packet .begun }
  | .beginReply index packetSequence useSize =>
      let packet := PacketRef.reply index packetSequence
      if state.calls packet = .idle then
        some
          { state with
            infos := Function.update state.infos packet { useSize }
            calls := Function.update state.calls packet .begun }
      else none
  | .allocFails packet =>
      if state.calls packet = .begun then
        some (state.setCall packet .failing)
      else none
  | .insert packet =>
      if state.calls packet = .begun then
        some ((state.insertSendPacketInfo packet).setCall packet .inserted)
      else none
  | .testRelease packet =>
      if state.calls packet = .inserted then
        some
          (state.setCall packet
            (if state.nowInReleaseThread then .failed else .tested))
      else none
  | .push packet =>
      if state.calls packet = .tested then
        some
          ((state.pushSendPacketInfo (.call packet) ⟨packet, none⟩).setCall
            packet .sending)
      else none
  | .sendReturns packet result =>
      if state.calls packet = .sending ∧
          state.doSends (.call packet) = .returned result then
        some
          ((state.setSend (.call packet) .outside).setCall packet
            (if result then .done else .failed))
      else none
  | .markErased packet =>
      if state.calls packet = .failed ∧
          (packet.isReplyType ∨ state.schedulerLockFree) then
        some ((state.markErased packet).setCall packet .marked)
      else none
  | .eraseFromMap packet =>
      if state.calls packet = .marked then
        some ((state.eraseSendPacketInfo packet).setCall packet .failing)
      else none
  | .failDisconnect packet =>
      if state.calls packet = .failing then
        some (state.doDisconnect.setCall packet .done)
      else none
  | .enterDoSend caller =>
      if state.doSends caller = .entering then
        some
          (state.setSend caller
            (if state.nowInReleaseThread then .returned true
            else .contending))
      else none
  | .acquire caller =>
      if state.doSends caller = .contending then
        if state.ioMode = .ioNoneSending then
          some
            { state.setSend caller .owning with
              ioMode := .ioSending
              owner := some ⟨caller, .testing⟩ }
        else some (state.setSend caller (.returned true))
      else none
  | .recheck caller =>
      if state.doSends caller = .rechecking then
        some
          (state.setSend caller
            (if state.isNothingToSend then .returned true else .contending))
      else none
  | .ownerTest caller =>
      if state.owner = some ⟨caller, .testing⟩ then
        some
          (state.setPhase caller
            (if state.nowInReleaseThread then .releasing (.return true)
            else .looking))
      else none
  | .ownerLook caller =>
      if state.owner = some ⟨caller, .looking⟩ then
        some
          (state.setPhase caller
            (if state.isNothingToSend then .releasing .recheck else .starting))
      else none
  | .contextFails caller =>
      if state.owner = some ⟨caller, .starting⟩ then
        some (state.setPhase caller (.releasing (.return false)))
      else none
  | .measureQueue caller =>
      if state.owner = some ⟨caller, .starting⟩ then
        some
          (state.setPhase caller
            (.measured state.sendPacketInfoQueue.length))
      else none
  | .takeReserved caller bufferCount =>
      if state.owner = some ⟨caller, .measured bufferCount⟩ then
        some (state.takeReserved caller bufferCount)
      else none
  | .checkTaken caller item reserved locals =>
      if state.owner = some ⟨caller, .taken item reserved locals⟩ then
        some (state.checkTaken caller item reserved locals)
      else none
  | .finishRefresh caller item reserved locals deadline =>
      if state.owner = some ⟨caller, .refreshing item reserved locals⟩ ∧
          state.schedulerLockFree then
        some (state.finishRefresh caller item reserved locals deadline)
      else none
  | .popQueue caller locals =>
      if state.owner = some ⟨caller, .loop locals⟩ then
        some (state.popQueue caller locals)
      else none
  | .oversizeDisconnect caller item =>
      if state.owner = some ⟨caller, .oversize item⟩ then
        some
          (state.doDisconnect.setPhase caller (.releasing (.return false)))
      else none
  | .emptyStream caller =>
      if state.owner = some ⟨caller, .built 0⟩ then
        some (state.setPhase caller (.releasing (.return true)))
      else none
  | .simulateLoss caller length =>
      if state.owner = some ⟨caller, .built length⟩ ∧ length ≠ 0 then
        some (state.setPhase caller (.releasing .retry))
      else none
  | .tryRioSend caller length true =>
      if state.owner = some ⟨caller, .built length⟩ ∧ length ≠ 0 then
        some
          { state.setSend caller (.returned true) with
            owner := none
            sendInFlight := true }
      else none
  | .tryRioSend caller length false =>
      if state.owner = some ⟨caller, .built length⟩ ∧ length ≠ 0 then
        some (state.setPhase caller (.releasing (.return false)))
      else none
  | .releaseIoSending caller after =>
      if state.owner = some ⟨caller, .releasing after⟩ then
        some (state.releaseIoSending caller after)
      else none
  | .sendIoCompleted =>
      if state.sendInFlight ∧ state.doSends .completion = .outside then
        some
          { state.setSend .completion .entering with
            ioMode := .ioNoneSending
            sendInFlight := false }
      else none
  | .completionReturns result =>
      if state.doSends .completion = .returned result then
        some (state.setSend .completion .outside)
      else none
  | .collect now =>
      if state.retransmission = .waiting then
        some { state with retransmission := .collecting now }
      else none
  | .popStale now entry =>
      if state.retransmission = .collecting now ∧ state.isTop entry ∧
          (state.isErased entry ∨ ¬ state.isLive entry) then
        some { state with heap := state.heap.erase entry }
      else none
  | .popDue now entry =>
      if state.retransmission = .collecting now ∧ state.isTop entry ∧
          ¬ (state.isErased entry ∨ ¬ state.isLive entry) ∧
          entry.deadline ≤ now then
        some
          { state with
            heap := state.heap.erase entry
            dueList := state.dueList ++ [entry] }
      else none
  | .stopCollecting now =>
      if state.retransmission = .collecting now ∧
          ∀ entry ∈ state.heap, now < entry.deadline then
        some { state with retransmission := .processing }
      else none
  | .takeDue entry =>
      if state.retransmission = .processing ∧
          state.dueList.head? = some entry then
        some
          { state with
            dueList := state.dueList.tail
            retransmission := .checking entry }
      else none
  | .finishDue =>
      if state.retransmission = .processing ∧ state.dueList = [] then
        some { state with retransmission := .waiting }
      else none
  | .checkDue entry =>
      if state.retransmission = .checking entry then
        some (state.checkDue maxPacketRetransmissionCount entry)
      else none
  | .disconnectExceeded entry =>
      if state.retransmission = .exceeded entry then
        some { state.doDisconnect with retransmission := .processing }
      else none
  | .testReleaseAgain entry =>
      if state.retransmission = .retrying entry then
        some
          { state with
            retransmission :=
              if state.nowInReleaseThread then .failing else .tested entry }
      else none
  | .pushAgain entry =>
      if state.retransmission = .tested entry then
        some (state.pushAgain entry)
      else none
  | .sendAgainReturns result =>
      if state.retransmission = .sending ∧
          state.doSends .retransmission = .returned result then
        some
          { state.setSend .retransmission .outside with
            retransmission := if result then .processing else .failing }
      else none
  | .disconnectFailed =>
      if state.retransmission = .failing then
        some { state.doDisconnect with retransmission := .processing }
      else none
  | .ackErase packetSequence ordinal =>
      if state.acking = none ∧
          ¬ state.lastSendPacketSequence < packetSequence ∧
          state.sendPacketInfoMap packetSequence = some ordinal then
        some
          { state with
            sendPacketInfoMap :=
              Function.update state.sendPacketInfoMap packetSequence none
            acking := some ordinal }
      else none
  | .ackMark ordinal =>
      if state.acking = some ordinal ∧ state.schedulerLockFree then
        some { state.markErased (.data ordinal) with acking := none }
      else none
  | .disconnect => some state.doDisconnect
  | .raiseReleaseFlag =>
      if state.state = .releasing then
        some { state with nowInReleaseThread := true }
      else none

/-- A session that has just been connected. -/
def initial : State where
  state := .connected
  nowInReleaseThread := false
  sequencesTaken := 0
  infos _ := { useSize := 0 }
  sendPacketInfoMap _ := none
  sendPacketInfoQueue := []
  reservedSendPacketInfo := none
  ioMode := .ioNoneSending
  owner := none
  sendInFlight := false
  calls _ := .idle
  doSends _ := .outside
  heap := []
  dueList := []
  retransmission := .waiting
  acking := none
  transmissions := []

/-- The runs of a connected session. -/
def system (maxPacketRetransmissionCount : Nat) :
    TransitionSystem State Label where
  Initial state := state = initial
  step := step maxPacketRetransmissionCount

end Retransmission
end MultiSocketRudp
