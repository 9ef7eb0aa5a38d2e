import MultiSocketRudp.Server.PacketFlow

/-!
# Round trips are not measured from retransmissions

`RefreshRetransmissionSendPacketInfo` records a send time in the packet before
it schedules the packet, the retransmission thread takes the packet's sample
away when it finds the packet due, and `OnSendReply` reads the flag, the time
and the flag again.  The model adds these accesses, and a clock, to the runs of
`Server.Retransmission`.

A packet whose flag is still set has been marked as sent once at most.  It need
not have left: a peer may acknowledge a sequence that it has not been sent, and
the acknowledgement is then met between the mark and the datagram.
-/

namespace MultiSocketRudp
namespace RttSampling

open TransitionSystems Retransmission

/-! ## Packets and threads -/

/-- The fields of `SendPacketInfo` for the sample.  A time is a reading of the
steady clock, which reads 0 at its epoch. -/
structure RttFields where
  lastSendTime : Nat := 0
  canUseRttSample : Bool := false
  deriving DecidableEq, Repr

/-- Where `RefreshRetransmissionSendPacketInfo` stands before its section under
the scheduler lock. -/
inductive RefreshPhase
  /-- The packet was not erased. -/
  | begun
  /-- The clock has been read. -/
  | timed (now : Nat)
  /-- `MarkSentForRttSample` has returned. -/
  | marked (now : Nat)
  deriving DecidableEq, Repr

/-- A packet at the moment when `TryGetRttSample` has read its send time. -/
structure Capture where
  ordinal : Nat
  /-- It was in a datagram when `OnSendReply` took it from the map. -/
  answered : Bool
  /-- When `OnSendReply` had read the clock. -/
  now : Nat
  capturedSendTime : Nat
  /-- The times with which it had been marked as sent, latest first. -/
  marks : List Nat
  /-- Those of the datagrams that it had been put in, latest first. -/
  datagrams : List Nat
  deriving DecidableEq, Repr

/-- What has been fed to the estimator. -/
structure Sample where
  capture : Capture
  rttSample : Int
  deriving DecidableEq, Repr

/-- Where `OnSendReply` stands behind its lookup. -/
inductive ReplyPhase
  | outside
  /-- `FindAndEraseSendPacketInfo` has returned the packet. -/
  | taken (ordinal : Nat) (answered : Bool)
  /-- `MarkSendPacketInfoErased` has returned. -/
  | erased (ordinal : Nat) (answered : Bool)
  /-- The clock has been read. -/
  | timed (ordinal : Nat) (answered : Bool) (now : Nat)
  /-- `TryGetRttSample` has found the flag set. -/
  | tested (ordinal : Nat) (answered : Bool) (now : Nat)
  /-- It has read the send time under the lock. -/
  | captured (capture : Capture)
  deriving DecidableEq, Repr

/-- The packet of the call, and whether it was in a datagram at first. -/
def ReplyPhase.packet : ReplyPhase → Option (Nat × Bool)
  | .outside => none
  | .taken ordinal answered => some (ordinal, answered)
  | .erased ordinal answered => some (ordinal, answered)
  | .timed ordinal answered _ => some (ordinal, answered)
  | .tested ordinal answered _ => some (ordinal, answered)
  | .captured capture => some (capture.ordinal, capture.answered)

/-- The session with the times of its packets. -/
structure State where
  session : Retransmission.State
  clock : Nat
  /-- The fields of the packets, by ordinal. -/
  fields : Nat → RttFields
  /-- Of the packet inside `RefreshRetransmissionSendPacketInfo`. -/
  refresh : RefreshPhase
  reply : ReplyPhase
  /-- The times with which a packet has been marked as sent, latest first. -/
  marks : Nat → List Nat
  /-- Those of the datagrams that it has been put in, latest first. -/
  datagrams : Nat → List Nat
  samples : List Sample

namespace State

/-- `Initialize`, of a data or heartbeat packet. -/
def initializeFields (state : State) (ordinal : Nat) : State :=
  { state with
    fields :=
      Function.update state.fields ordinal
        { lastSendTime := 0, canUseRttSample := true } }

/-- `MarkSentForRttSample`. -/
def markSentForRttSample (state : State) (ordinal now : Nat) : State :=
  { state with
    fields :=
      Function.update state.fields ordinal
        { state.fields ordinal with lastSendTime := now }
    marks := Function.update state.marks ordinal (now :: state.marks ordinal) }

/-- `InvalidateRttSample`. -/
def invalidateRttSample (state : State) (ordinal : Nat) : State :=
  { state with
    fields :=
      Function.update state.fields ordinal
        { state.fields ordinal with canUseRttSample := false } }

/-- The packet has been put in the datagram, unless it has been erased. -/
def putInDatagram (state : State) (packet : PacketRef) (now : Nat) : State :=
  match packet with
  | .data ordinal =>
      if (state.session.infos packet).isErasedPacketInfo then state
      else
        { state with
          datagrams :=
            Function.update state.datagrams ordinal
              (now :: state.datagrams ordinal) }
  | .reply _ _ => state

/-- The second half of `TryGetRttSample`, and `OnRttSample`. -/
def feedSample (state : State) (capture : Capture) : State :=
  let rttSample : Int := (capture.now : Int) - capture.capturedSendTime
  if (state.fields capture.ordinal).canUseRttSample ∧ 0 < rttSample then
    { state with
      reply := .outside
      samples := ⟨capture, rttSample⟩ :: state.samples }
  else { state with reply := .outside }

end State

/-! ## Steps -/

/-- The steps of the session, of the clock, and the accesses for the sample. -/
inductive Label
  | session (label : Retransmission.Label)
  | tick (elapsed : Nat)
  /-- `RefreshRetransmissionSendPacketInfo` reads the clock. -/
  | readClock
  /-- It calls `MarkSentForRttSample`. -/
  | markSent
  /-- `OnSendReply` reads the clock. -/
  | readClockForReply
  /-- `TryGetRttSample` reads the flag. -/
  | testFlag
  /-- It reads the send time. -/
  | readSendTime
  /-- It reads the flag again. -/
  | testFlagAgain
  deriving DecidableEq, Repr

/-- What a step of the session does to the times of the packets. -/
def follow (state : State) (label : Retransmission.Label) : Option State :=
  match label with
  | .takeSequence _ =>
      some (state.initializeFields (state.session.sequencesTaken + 1))
  | .checkTaken _ _ _ _ => some { state with refresh := .begun }
  | .finishRefresh _ item _ _ _ =>
      match state.refresh with
      | .marked now => some (state.putInDatagram item.packet now)
      | _ => none
  -- The flag is cleared under the lock under which the entry is popped.
  | .popDue _ entry => some (state.invalidateRttSample entry.ordinal)
  | .ackErase _ ordinal =>
      if state.reply = .outside then
        some
          { state with
            reply := .taken ordinal (state.datagrams ordinal ≠ []) }
      else none
  | .ackMark _ =>
      match state.reply with
      | .taken ordinal answered =>
          some { state with reply := .erased ordinal answered }
      | _ => none
  | _ => some state

/-- One atomic step. -/
def step (maxPacketRetransmissionCount : Nat) (state : State) :
    Label → Option State
  | .session label =>
      (Retransmission.step maxPacketRetransmissionCount state.session
        label).bind fun next =>
          (follow state label).map fun followed =>
            { followed with session := next }
  | .tick elapsed => some { state with clock := state.clock + elapsed }
  | .readClock =>
      match state.session.refreshed, state.refresh with
      | [_], .begun => some { state with refresh := .timed state.clock }
      | _, _ => none
  | .markSent =>
      match state.session.refreshed, state.refresh with
      | [⟨.data ordinal, _⟩], .timed now =>
          some
            { state.markSentForRttSample ordinal now with
              refresh := .marked now }
      | _, _ => none
  | .readClockForReply =>
      match state.reply with
      | .erased ordinal answered =>
          some { state with reply := .timed ordinal answered state.clock }
      | _ => none
  | .testFlag =>
      match state.reply with
      | .timed ordinal answered now =>
          some
            { state with
              reply :=
                if (state.fields ordinal).canUseRttSample then
                  .tested ordinal answered now
                else .outside }
      | _ => none
  | .readSendTime =>
      match state.reply with
      | .tested ordinal answered now =>
          let lastSendTime := (state.fields ordinal).lastSendTime
          some
            { state with
              reply :=
                if lastSendTime = 0 then .outside
                else
                  .captured
                    { ordinal, answered, now
                      capturedSendTime := lastSendTime
                      marks := state.marks ordinal
                      datagrams := state.datagrams ordinal } }
      | _ => none
  | .testFlagAgain =>
      match state.reply with
      | .captured capture => some (state.feedSample capture)
      | _ => none

/-- A session that has just been connected. -/
def initial : State where
  session := Retransmission.initial
  clock := 0
  fields _ := {}
  refresh := .begun
  reply := .outside
  marks _ := []
  datagrams _ := []
  samples := []

/-- The runs of a connected session. -/
def system (maxPacketRetransmissionCount : Nat) :
    TransitionSystem State Label where
  Initial state := state = initial
  step := step maxPacketRetransmissionCount

end RttSampling
end MultiSocketRudp
