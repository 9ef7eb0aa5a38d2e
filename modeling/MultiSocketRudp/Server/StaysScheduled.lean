import MultiSocketRudp.Server.RetransmissionSteps

/-!
# Every step keeps unacknowledged packets scheduled

The promise holds in every run that takes at most `2 ^ 64` sequences.  The next
one repeats the sequence of the first packet.  While both are in the queue, the
datagram under construction takes one of them for a copy of the other.
-/

namespace MultiSocketRudp
namespace Retransmission

open TransitionSystems

/-- At most `2 ^ 64` sequences are taken. -/
def SequencesBounded (state : State) (label : Label) : Prop :=
  match label with
  | .takeSequence _ => state.sequencesTaken < 2 ^ 64
  | _ => True

instance (state : State) (label : Label) :
    Decidable (SequencesBounded state label) := by
  unfold SequencesBounded
  split <;> infer_instance

theorem placesInvariant_initial : PlacesInvariant initial where
  bounded := by simp [initial]
  untaken _ _ := rfl
  atMostOne _ := by
    simp [State.placeCount, State.pushedCount, State.held, heldBy,
      State.liveEntries, initial, CallState.places,
      RetransmissionPhase.current]
  mapped := by simp [initial]
  placed := by simp [initial]
  released := by simp [initial]
  versions := by simp [initial]
  due := by simp [initial, RetransmissionPhase.current]
  causes := by simp [initial, State.held, heldBy]
  exclusive := by simp [initial]
  inFlight := by simp [initial]
  stream := by simp [initial]
  transmitted := by simp [initial]

/-- Every bounded step keeps the invariant. -/
theorem placesInvariant_step
    {maxPacketRetransmissionCount : Nat}
    {state next : State} {label : Label}
    (holds : PlacesInvariant state)
    (bounded : SequencesBounded state label)
    (moves : step maxPacketRetransmissionCount state label = some next) :
    PlacesInvariant next := by
  cases label with
  | takeSequence useSize =>
      obtain rfl := Option.some.inj moves
      have fresh := holds.initializeInfo
        (by rw [holds.untaken _ (.inr (Nat.lt_succ_self _))]; rfl)
        { useSize }
      exact fresh.takeSequence bounded
  | beginReply index packetSequence useSize =>
      simp only [step, Option.ite_none_right_eq_some, Option.some.injEq]
        at moves
      obtain ⟨-, rfl⟩ := moves
      exact holds.congr_data (fun _ => Function.update_of_ne (by simp) _ _)
        fun _ => Function.update_of_ne (by simp) _ _
  | allocFails packet =>
      simp only [step, Option.ite_none_right_eq_some, Option.some.injEq]
        at moves
      obtain ⟨stands, rfl⟩ := moves
      exact holds.setCall_same (by simp [stands]) rfl (by rw [stands]; rfl)
  | insert packet =>
      simp only [step, Option.ite_none_right_eq_some, Option.some.injEq]
        at moves
      obtain ⟨stands, rfl⟩ := moves
      exact holds.insert stands
  | testRelease packet =>
      simp only [step, Option.ite_none_right_eq_some, Option.some.injEq]
        at moves
      obtain ⟨stands, rfl⟩ := moves
      split
      case isTrue released => exact holds.giveUp stands released
      case isFalse =>
        exact holds.setCall_same (by simp [stands]) rfl (by rw [stands]; rfl)
  | push packet =>
      simp only [step, Option.ite_none_right_eq_some, Option.some.injEq]
        at moves
      obtain ⟨stands, rfl⟩ := moves
      exact holds.push stands
  | sendReturns packet result =>
      simp only [step, Option.ite_none_right_eq_some, Option.some.injEq]
        at moves
      obtain ⟨⟨stands, -⟩, rfl⟩ := moves
      have returned := holds.setSend (.call packet) .outside
      have sending : (state.setSend (.call packet) .outside).calls packet =
          .sending := stands
      refine returned.setCall_same (by simp [sending]) ?_ ?_
      · split <;> rfl
      · rw [sending]
        split <;> rfl
  | markErased packet =>
      simp only [step, Option.ite_none_right_eq_some, Option.some.injEq]
        at moves
      obtain ⟨⟨stands, -⟩, rfl⟩ := moves
      have failed : (state.markErased packet).calls packet = .failed := stands
      exact (holds.markErased packet).setCall_same (by simp [failed]) rfl
        (by rw [failed]; rfl)
  | eraseFromMap packet =>
      simp only [step, Option.ite_none_right_eq_some, Option.some.injEq]
        at moves
      obtain ⟨stands, rfl⟩ := moves
      have marked : (state.eraseSendPacketInfo packet).calls packet =
          .marked := by
        cases packet <;> exact stands
      exact (holds.eraseSendPacketInfo packet).setCall_same
        (by simp [marked]) rfl (by rw [marked]; rfl)
  | failDisconnect packet =>
      simp only [step, Option.ite_none_right_eq_some, Option.some.injEq]
        at moves
      obtain ⟨stands, rfl⟩ := moves
      have failing : state.doDisconnect.calls packet = .failing := stands
      exact holds.doDisconnect.setCall_same (by simp [failing]) rfl
        (by rw [failing]; rfl)
  | enterDoSend caller =>
      simp only [step, Option.ite_none_right_eq_some, Option.some.injEq]
        at moves
      obtain ⟨-, rfl⟩ := moves
      exact holds.setSend caller _
  | acquire caller =>
      simp only [step, Option.ite_none_right_eq_some] at moves
      obtain ⟨-, moves⟩ := moves
      split at moves
      case isTrue free =>
        obtain rfl := Option.some.inj moves
        exact holds.acquire free caller _
      case isFalse =>
        obtain rfl := Option.some.inj moves
        exact holds.setSend caller _
  | recheck caller =>
      simp only [step, Option.ite_none_right_eq_some, Option.some.injEq]
        at moves
      obtain ⟨-, rfl⟩ := moves
      exact holds.setSend caller _
  | ownerTest caller =>
      simp only [step, Option.ite_none_right_eq_some, Option.some.injEq]
        at moves
      obtain ⟨stands, rfl⟩ := moves
      split <;> exact holds.setPhase stands rfl trivial
  | ownerLook caller =>
      simp only [step, Option.ite_none_right_eq_some, Option.some.injEq]
        at moves
      obtain ⟨stands, rfl⟩ := moves
      split <;> exact holds.setPhase stands rfl trivial
  | contextFails caller =>
      simp only [step, Option.ite_none_right_eq_some, Option.some.injEq]
        at moves
      obtain ⟨stands, rfl⟩ := moves
      exact holds.setPhase stands rfl trivial
  | measureQueue caller =>
      simp only [step, Option.ite_none_right_eq_some, Option.some.injEq]
        at moves
      obtain ⟨stands, rfl⟩ := moves
      exact holds.setPhase stands rfl (le_refl _)
  | takeReserved caller bufferCount =>
      simp only [step, Option.ite_none_right_eq_some, Option.some.injEq]
        at moves
      obtain ⟨stands, rfl⟩ := moves
      exact holds.takeReserved stands
  | checkTaken caller item reserved locals =>
      simp only [step, Option.ite_none_right_eq_some, Option.some.injEq]
        at moves
      obtain ⟨stands, rfl⟩ := moves
      exact holds.checkTaken stands
  | finishRefresh caller item reserved locals deadline =>
      simp only [step, Option.ite_none_right_eq_some, Option.some.injEq]
        at moves
      obtain ⟨⟨stands, -⟩, rfl⟩ := moves
      exact holds.finishRefresh stands deadline
  | popQueue caller locals =>
      simp only [step, Option.ite_none_right_eq_some, Option.some.injEq]
        at moves
      obtain ⟨stands, rfl⟩ := moves
      exact holds.popQueue stands
  | oversizeDisconnect caller item =>
      simp only [step, Option.ite_none_right_eq_some, Option.some.injEq]
        at moves
      obtain ⟨stands, rfl⟩ := moves
      exact holds.oversizeDisconnect stands
  | emptyStream caller =>
      simp only [step, Option.ite_none_right_eq_some, Option.some.injEq]
        at moves
      obtain ⟨stands, rfl⟩ := moves
      exact holds.setPhase stands rfl trivial
  | simulateLoss caller length =>
      simp only [step, Option.ite_none_right_eq_some, Option.some.injEq]
        at moves
      obtain ⟨⟨stands, -⟩, rfl⟩ := moves
      exact holds.setPhase stands rfl trivial
  | tryRioSend caller length result =>
      cases result with
      | true =>
          simp only [step, Option.ite_none_right_eq_some, Option.some.injEq]
            at moves
          obtain ⟨⟨stands, -⟩, rfl⟩ := moves
          have busy := (holds.exclusive (by simp [stands])).1
          exact holds.clearOwner stands rfl (fun _ => busy) _
      | false =>
          simp only [step, Option.ite_none_right_eq_some, Option.some.injEq]
            at moves
          obtain ⟨⟨stands, -⟩, rfl⟩ := moves
          exact holds.setPhase stands rfl trivial
  | releaseIoSending caller after =>
      simp only [step, Option.ite_none_right_eq_some, Option.some.injEq]
        at moves
      obtain ⟨stands, rfl⟩ := moves
      have landed := (holds.exclusive (by simp [stands])).2
      exact holds.clearOwner stands rfl
        (fun flying => absurd flying (by simp [landed])) _
  | sendIoCompleted =>
      simp only [step, Option.ite_none_right_eq_some, Option.some.injEq]
        at moves
      obtain ⟨⟨flying, -⟩, rfl⟩ := moves
      exact holds.sendIoCompleted flying _
  | completionReturns result =>
      simp only [step, Option.ite_none_right_eq_some, Option.some.injEq]
        at moves
      obtain ⟨-, rfl⟩ := moves
      exact holds.setSend .completion .outside
  | collect now =>
      simp only [step, Option.ite_none_right_eq_some, Option.some.injEq]
        at moves
      obtain ⟨stands, rfl⟩ := moves
      exact holds.setRetransmission (by rw [stands]; rfl)
  | popStale now entry =>
      simp only [step, Option.ite_none_right_eq_some, Option.some.injEq]
        at moves
      obtain ⟨⟨-, top, stale⟩, rfl⟩ := moves
      exact holds.popStale top.1 stale
  | popDue now entry =>
      simp only [step, Option.ite_none_right_eq_some, Option.some.injEq]
        at moves
      obtain ⟨⟨-, top, fresh, -⟩, rfl⟩ := moves
      exact holds.popDue top.1 (not_not.mp fun stale => fresh (.inr stale))
  | stopCollecting now =>
      simp only [step, Option.ite_none_right_eq_some, Option.some.injEq]
        at moves
      obtain ⟨⟨stands, -⟩, rfl⟩ := moves
      exact holds.setRetransmission (by rw [stands]; rfl)
  | takeDue entry =>
      simp only [step, Option.ite_none_right_eq_some, Option.some.injEq]
        at moves
      obtain ⟨⟨stands, first⟩, rfl⟩ := moves
      exact holds.takeDue stands first
  | finishDue =>
      simp only [step, Option.ite_none_right_eq_some, Option.some.injEq]
        at moves
      obtain ⟨⟨stands, -⟩, rfl⟩ := moves
      exact holds.setRetransmission (by rw [stands]; rfl)
  | checkDue entry =>
      simp only [step, Option.ite_none_right_eq_some, Option.some.injEq]
        at moves
      obtain ⟨stands, rfl⟩ := moves
      exact holds.checkDue stands _
  | disconnectExceeded entry =>
      simp only [step, Option.ite_none_right_eq_some, Option.some.injEq]
        at moves
      obtain ⟨stands, rfl⟩ := moves
      exact holds.doDisconnect.dropCurrent
        (congrArg RetransmissionPhase.current stands) rfl
        fun connected =>
          absurd connected (PlacesInvariant.doDisconnect_ne_connected state)
  | testReleaseAgain entry =>
      simp only [step, Option.ite_none_right_eq_some, Option.some.injEq]
        at moves
      obtain ⟨stands, rfl⟩ := moves
      split
      case isTrue released =>
        exact holds.dropCurrent (congrArg RetransmissionPhase.current stands)
          rfl fun connected => absurd connected (holds.released released)
      case isFalse => exact holds.setRetransmission (by rw [stands]; rfl)
  | pushAgain entry =>
      simp only [step, Option.ite_none_right_eq_some, Option.some.injEq]
        at moves
      obtain ⟨stands, rfl⟩ := moves
      exact holds.pushAgain stands
  | sendAgainReturns result =>
      simp only [step, Option.ite_none_right_eq_some, Option.some.injEq]
        at moves
      obtain ⟨⟨stands, -⟩, rfl⟩ := moves
      refine (holds.setSend .retransmission .outside).setRetransmission ?_
      change _ = state.retransmission.current
      rw [stands]
      split <;> rfl
  | disconnectFailed =>
      simp only [step, Option.ite_none_right_eq_some, Option.some.injEq]
        at moves
      obtain ⟨stands, rfl⟩ := moves
      exact holds.doDisconnect.setRetransmission
        (congrArg RetransmissionPhase.current stands).symm
  | ackErase packetSequence ordinal =>
      simp only [step, Option.ite_none_right_eq_some, Option.some.injEq]
        at moves
      obtain ⟨-, rfl⟩ := moves
      exact { holds.eraseFromMap packetSequence with }
  | ackMark ordinal =>
      simp only [step, Option.ite_none_right_eq_some, Option.some.injEq]
        at moves
      obtain ⟨-, rfl⟩ := moves
      exact { holds.markErased (.data ordinal) with }
  | disconnect =>
      obtain rfl := Option.some.inj moves
      exact holds.doDisconnect
  | raiseReleaseFlag =>
      simp only [step, Option.ite_none_right_eq_some, Option.some.injEq]
        at moves
      obtain ⟨releasing, rfl⟩ := moves
      exact holds.raiseReleaseFlag releasing

/-- In every run that takes at most `2 ^ 64` sequences, every registered packet
that is not erased is held in exactly one place. -/
theorem staysScheduled_of_sequencesBounded
    {maxPacketRetransmissionCount : Nat}
    {state : State}
    (reached : (system maxPacketRetransmissionCount).GuardedReachable
      SequencesBounded state) :
    StaysScheduled state := by
  refine PlacesInvariant.staysScheduled (reached.invariant ?_ ?_)
  · rintro state rfl
    exact placesInvariant_initial
  · intro state label next _ holds bounded moves
    exact placesInvariant_step holds bounded moves

/-! ## One packet sent and acknowledged -/

/-- One more step of a run. -/
theorem advance
    {maxPacketRetransmissionCount : Nat}
    {state next : State}
    (reached : (system maxPacketRetransmissionCount).Reachable state)
    (label : Label)
    (moves : step maxPacketRetransmissionCount state label = some next) :
    (system maxPacketRetransmissionCount).Reachable next :=
  reached.step moves

/-- A packet of eight bytes is sent over an idle send path, and its datagram is
completed. -/
def sendSchedule (ordinal : Nat) : List Label :=
  let packet := PacketRef.data ordinal
  let caller := Caller.call packet
  [.takeSequence 8, .insert packet, .testRelease packet, .push packet,
    .enterDoSend caller, .acquire caller, .ownerTest caller, .ownerLook caller,
    .measureQueue caller, .takeReserved caller 1,
    .popQueue caller { remaining := 1 },
    .checkTaken caller ⟨packet, none⟩ false { remaining := 0 },
    .finishRefresh caller ⟨packet, none⟩ false { remaining := 0 } 0,
    .popQueue caller
      { remaining := 0, packetSequenceSet := [packet.key], totalSendSize := 8 },
    .tryRioSend caller 8 true, .sendReturns packet true, .sendIoCompleted,
    .enterDoSend .completion, .acquire .completion, .ownerTest .completion,
    .ownerLook .completion, .releaseIoSending .completion .recheck,
    .recheck .completion, .completionReturns true]

/-- One packet is sent, and its retransmission becomes due. -/
def dueSchedule : List Label :=
  sendSchedule 1 ++ [.collect 0, .popDue 0 ⟨0, 1, 1⟩, .stopCollecting 0]

/-- The state after that schedule. -/
def dueState : State :=
  ((system 10).run initial dueSchedule).getD initial

theorem staysScheduled_of_sequencesBounded_due : StaysScheduled dueState :=
  staysScheduled_of_sequencesBounded
    (TransitionSystem.GuardedReachable.guardedRun (.initial rfl)
      (show (system 10).guardedRun SequencesBounded initial dueSchedule =
        some dueState from rfl))

/-- Between two calls: the send path is idle, and the retransmission of the
first packet is due. -/
def between
    (count : Nat)
    (infos : PacketRef → SendPacketInfo)
    (sendPacketInfoMap : PacketSequence → Option Nat)
    (calls : PacketRef → CallState)
    (doSends : Caller → SendPc)
    (heap : List HeapEntry)
    (transmissions : List Transmission) : State :=
  { initial with
    sequencesTaken := count
    infos := infos
    sendPacketInfoMap := sendPacketInfoMap
    calls := calls
    doSends := doSends
    heap := heap
    dueList := [⟨0, 1, 1⟩]
    retransmission := .processing
    transmissions := transmissions }

/-- The first packet has been sent once and is the only unacknowledged one. -/
structure FirstUnacknowledged
    (infos : PacketRef → SendPacketInfo)
    (sendPacketInfoMap : PacketSequence → Option Nat)
    (calls : PacketRef → CallState)
    (doSends : Caller → SendPc)
    (heap : List HeapEntry) : Prop where
  info : infos (.data 1) = { useSize := 8, scheduleVersion := 1 }
  registered : sendPacketInfoMap 1 = some 1
  others : ∀ packetSequence, packetSequence ≠ 1 →
    sendPacketInfoMap packetSequence = none
  returned : calls (.data 1) = .done
  completion : doSends .completion = .outside
  popped : ∀ entry ∈ heap, entry.ordinal ≠ 1

/-- A packet of eight bytes that is first in its datagram is refreshed. -/
theorem checkTaken_first
    {state : State} {item : QueueItem}
    (info : state.infos item.packet = { useSize := 8 })
    (data : item.packet.isReplyType = false)
    (caller : Caller) (remaining : Nat) :
    state.checkTaken caller item false { remaining } =
      state.setPhase caller (.refreshing item false { remaining }) := by
  simp [State.checkTaken, State.beginRefresh, info, data, maxSendBufferSize]

/-- Then it is scheduled and written. -/
theorem finishRefresh_first
    {state : State} {ordinal : Nat}
    (info : state.infos (.data ordinal) = { useSize := 8 })
    (caller : Caller) (remaining deadline : Nat) :
    state.finishRefresh caller ⟨.data ordinal, none⟩ false { remaining }
        deadline =
      { state with
        infos :=
          Function.update state.infos (.data ordinal)
            { useSize := 8, scheduleVersion := 1 }
        heap := ⟨deadline, 1, ordinal⟩ :: state.heap
        owner := some
          ⟨caller, .loop
            { remaining
              packetSequenceSet := [(PacketRef.data ordinal).key]
              totalSendSize := 8 }⟩
        transmissions :=
          ⟨⟨.data ordinal, none⟩, { useSize := 8 }⟩ ::
            state.transmissions } := by
  simp [State.finishRefresh, State.writePacket,
    State.pushRetransmissionSchedule, info]

/-- A packet that a call has just registered is found under its sequence. -/
theorem insert_free
    {sendPacketInfoMap : PacketSequence → Option Nat} {ordinal : Nat}
    (free : sendPacketInfoMap (BitVec.ofNat 64 ordinal) = none) :
    (if sendPacketInfoMap (BitVec.ofNat 64 ordinal) = none then
        Function.update sendPacketInfoMap (BitVec.ofNat 64 ordinal)
          (some ordinal)
      else sendPacketInfoMap) =
      Function.update sendPacketInfoMap (BitVec.ofNat 64 ordinal)
        (some ordinal) :=
  if_pos free

section Rounds

variable {count : Nat}
variable {infos : PacketRef → SendPacketInfo}
variable {sendPacketInfoMap : PacketSequence → Option Nat}
variable {calls : PacketRef → CallState}
variable {doSends : Caller → SendPc}
variable {heap : List HeapEntry}
variable {transmissions : List Transmission}

/-- While the first packet waits, the next one is sent and acknowledged. -/
theorem reachable_between_succ
    (first :
      FirstUnacknowledged infos sendPacketInfoMap calls doSends heap)
    (fresh : BitVec.ofNat 64 (count + 1) ≠ 1)
    (reached : (system 10).Reachable
      (between count infos sendPacketInfoMap calls doSends heap
        transmissions)) :
    ∃ infos sendPacketInfoMap calls doSends heap transmissions,
      (system 10).Reachable
          (between (count + 1) infos sendPacketInfoMap calls doSends heap
            transmissions) ∧
        FirstUnacknowledged infos sendPacketInfoMap calls doSends heap := by
  let packet := PacketRef.data (count + 1)
  let caller := Caller.call packet
  have free := first.others _ fresh
  -- `SendPacketImmediate` registers and pushes the packet.
  have taken := advance reached (.takeSequence 8) rfl
  have inserted := advance taken (.insert packet)
    (if_pos (Function.update_self _ _ _))
  have tested := advance inserted (.testRelease packet)
    (if_pos (Function.update_self _ _ _))
  have pushed := advance tested (.push packet)
    (if_pos (Function.update_self _ _ _))
  -- `DoSend` makes a datagram of it.
  have entered := advance pushed (.enterDoSend caller)
    (if_pos (Function.update_self _ _ _))
  have acquired := advance entered (.acquire caller)
    ((if_pos (Function.update_self _ _ _)).trans (if_pos rfl))
  have connected := advance acquired (.ownerTest caller) (if_pos rfl)
  have looked := advance connected (.ownerLook caller) (if_pos rfl)
  have measured := advance looked (.measureQueue caller) (if_pos rfl)
  have started := advance measured (.takeReserved caller 1) (if_pos rfl)
  have popped := advance started (.popQueue caller { remaining := 1 })
    (if_pos rfl)
  have checked := advance popped
    (.checkTaken caller ⟨packet, none⟩ false { remaining := 0 })
    ((if_pos rfl).trans
      (congrArg some (checkTaken_first (Function.update_self _ _ _) rfl _ _)))
  have written := advance checked
    (.finishRefresh caller ⟨packet, none⟩ false { remaining := 0 } 0)
    ((if_pos ⟨rfl, rfl⟩).trans
      (congrArg some (finishRefresh_first (Function.update_self _ _ _) _ _ _)))
  have built := advance written
    (.popQueue caller
      { remaining := 0
        packetSequenceSet := [packet.key]
        totalSendSize := 8 })
    (if_pos rfl)
  have sent := advance built (.tryRioSend caller 8 true)
    (if_pos ⟨rfl, by decide⟩)
  have returned := advance sent (.sendReturns packet true)
    (if_pos ⟨Function.update_self _ _ _, Function.update_self _ _ _⟩)
  -- The completion finds nothing more to send.
  have completed := advance returned .sendIoCompleted
    (if_pos ⟨rfl, first.completion⟩)
  have reentered := advance completed (.enterDoSend .completion) rfl
  have reacquired := advance reentered (.acquire .completion) rfl
  have retested := advance reacquired (.ownerTest .completion) rfl
  have nothing := advance retested (.ownerLook .completion) rfl
  have released := advance nothing (.releaseIoSending .completion .recheck) rfl
  have rechecked := advance released (.recheck .completion) rfl
  have idle := advance rechecked (.completionReturns true) rfl
  -- The acknowledgement arrives.
  have erased := advance idle
    (.ackErase (BitVec.ofNat 64 (count + 1)) (count + 1))
    (if_pos ⟨rfl, BitVec.lt_irrefl _,
      (congrFun (insert_free free) _).trans (Function.update_self _ _ _)⟩)
  have marked := advance erased (.ackMark (count + 1)) (if_pos ⟨rfl, rfl⟩)
  have other : PacketRef.data 1 ≠ packet := by
    intro same
    obtain rfl : count = 0 := by simpa using PacketRef.data.inj same
    exact fresh rfl
  have map_eq :
      Function.update
          (if sendPacketInfoMap (BitVec.ofNat 64 (count + 1)) = none then
            Function.update sendPacketInfoMap (BitVec.ofNat 64 (count + 1))
              (some (count + 1))
          else sendPacketInfoMap) (BitVec.ofNat 64 (count + 1)) none =
        sendPacketInfoMap := by
    rw [insert_free free, Function.update_idem]
    exact Function.update_eq_self_iff.mpr free.symm
  refine ⟨_, _, _, _, _, _, marked,
    { info := ?_
      registered := (congrFun map_eq 1).trans first.registered
      others := fun packetSequence distinct =>
        (congrFun map_eq packetSequence).trans
          (first.others packetSequence distinct)
      returned := ?_
      completion := rfl
      popped := ?_ }⟩
  · exact (Function.update_of_ne other _ _).trans
      ((Function.update_of_ne other _ _).trans
        ((Function.update_of_ne other _ _).trans first.info))
  · exact (Function.update_of_ne other _ _).trans
      ((Function.update_of_ne other _ _).trans
        ((Function.update_of_ne other _ _).trans
          ((Function.update_of_ne other _ _).trans
            ((Function.update_of_ne other _ _).trans first.returned))))
  · intro entry member
    rcases List.mem_cons.mp member with rfl | old
    · exact fun same => other (congrArg PacketRef.data same.symm)
    · exact first.popped entry old

/-- The retransmission thread counts the first packet. -/
theorem checkDue_first
    {state : State}
    (info : state.infos (.data 1) = { useSize := 8, scheduleVersion := 1 }) :
    state.checkDue 10 ⟨0, 1, 1⟩ =
      { state with
        infos :=
          Function.update state.infos (.data 1)
            { useSize := 8, retransmissionCount := 1, scheduleVersion := 1 }
        retransmission := .retrying ⟨0, 1, 1⟩ } := by
  simp [State.checkDue, info]

/-- A packet whose key is in the datagram is dropped. -/
theorem checkTaken_seen
    {state : State} {item : QueueItem} {locals : StreamLocals}
    (seen : item.packet.key ∈ locals.packetSequenceSet)
    (caller : Caller) :
    state.checkTaken caller item false locals =
      state.setPhase caller (.loop locals) := by
  simp [State.checkTaken, seen]

/-- A packet that repeats the sequence of the first one is taken into a datagram
before it, and the first one is dropped. -/
theorem unscheduled_of_repeated
    (first :
      FirstUnacknowledged infos sendPacketInfoMap calls doSends heap)
    (later : count ≠ 0)
    (repeated : BitVec.ofNat 64 (count + 1) = 1)
    (reached : (system 10).Reachable
      (between count infos sendPacketInfoMap calls doSends heap
        transmissions)) :
    ∃ state, (system 10).Reachable state ∧ ¬ StaysScheduled state := by
  let packet := PacketRef.data (count + 1)
  let caller := Caller.call packet
  let entry : HeapEntry := ⟨0, 1, 1⟩
  have other : PacketRef.data 1 ≠ packet := by
    intro same
    exact later (by simpa using (PacketRef.data.inj same).symm)
  have key_eq : (PacketRef.data 1).key = packet.key :=
    congrArg (SendStream.PacketSequenceSetKey.mk false) repeated.symm
  have kept :
      (if sendPacketInfoMap (BitVec.ofNat 64 (count + 1)) = none then
          Function.update sendPacketInfoMap (BitVec.ofNat 64 (count + 1))
            (some (count + 1))
        else sendPacketInfoMap) 1 = some 1 := by
    have busy : sendPacketInfoMap (BitVec.ofNat 64 (count + 1)) ≠ none := by
      rw [repeated, first.registered]
      exact Option.some_ne_none 1
    exact (congrFun (if_neg busy) 1).trans first.registered
  have info :
      Function.update
          (Function.update
            (Function.update infos packet { useSize := 8 }) (.data 1)
            { useSize := 8, retransmissionCount := 1, scheduleVersion := 1 })
          packet { useSize := 8, scheduleVersion := 1 } (.data 1) =
        { useSize := 8, retransmissionCount := 1, scheduleVersion := 1 } :=
    (Function.update_of_ne other _ _).trans (Function.update_self _ _ _)
  have elsewhere : ∀ entry ∈ (⟨0, 1, count + 1⟩ : HeapEntry) :: heap,
      entry.ordinal ≠ 1 := by
    intro entry member
    rcases List.mem_cons.mp member with rfl | old
    · exact fun same => other (congrArg PacketRef.data same.symm)
    · exact first.popped entry old
  -- The new packet finds its sequence taken in the map, and is pushed.
  have taken := advance reached (.takeSequence 8) rfl
  have inserted := advance taken (.insert packet)
    (if_pos (Function.update_self _ _ _))
  have tested := advance inserted (.testRelease packet)
    (if_pos (Function.update_self _ _ _))
  have pushed := advance tested (.push packet)
    (if_pos (Function.update_self _ _ _))
  -- The retransmission thread pushes the first packet behind it.
  have current := advance pushed (.takeDue entry) rfl
  have counted := advance current (.checkDue entry)
    (congrArg some (checkDue_first
      ((Function.update_of_ne other _ _).trans first.info)))
  have retried := advance counted (.testReleaseAgain entry) rfl
  have behind := advance retried (.pushAgain entry) rfl
  -- Both are taken into one datagram.
  have entered := advance behind (.enterDoSend caller)
    (if_pos (Function.update_self _ _ _))
  have acquired := advance entered (.acquire caller)
    ((if_pos (Function.update_self _ _ _)).trans (if_pos rfl))
  have connected := advance acquired (.ownerTest caller) (if_pos rfl)
  have looked := advance connected (.ownerLook caller) (if_pos rfl)
  have measured := advance looked (.measureQueue caller) (if_pos rfl)
  have started := advance measured (.takeReserved caller 2) (if_pos rfl)
  have popped := advance started (.popQueue caller { remaining := 2 })
    (if_pos rfl)
  have checked := advance popped
    (.checkTaken caller ⟨packet, none⟩ false { remaining := 1 })
    ((if_pos rfl).trans (congrArg some (checkTaken_first
      ((Function.update_of_ne other.symm _ _).trans
        (Function.update_self _ _ _)) rfl _ _)))
  have written := advance checked
    (.finishRefresh caller ⟨packet, none⟩ false { remaining := 1 } 0)
    ((if_pos ⟨rfl, rfl⟩).trans (congrArg some (finishRefresh_first
      ((Function.update_of_ne other.symm _ _).trans
        (Function.update_self _ _ _)) _ _ _)))
  let locals : StreamLocals :=
    { remaining := 0
      packetSequenceSet := [packet.key]
      totalSendSize := 8 }
  have next := advance written
    (.popQueue caller { locals with remaining := 1 }) (if_pos rfl)
  have dropped := advance next
    (.checkTaken caller ⟨.data 1, some 1⟩ false locals)
    ((if_pos rfl).trans (congrArg some
      (checkTaken_seen (List.mem_singleton.mpr key_eq) _)))
  refine ⟨_, dropped, fun scheduled => ?_⟩
  have placed := scheduled.placed rfl 1 1 kept
    (congrArg SendPacketInfo.isErasedPacketInfo info)
  refine absurd (placed.symm.trans (Nat.add_eq_zero_iff.mpr ⟨?_, ?_⟩))
    Nat.one_ne_zero
  · exact congrArg CallState.places
      ((Function.update_of_ne other _ _).trans
        ((Function.update_of_ne other _ _).trans
          ((Function.update_of_ne other _ _).trans
            ((Function.update_of_ne other _ _).trans first.returned))))
  · -- Only the heap has entries left, and none of them is for the first packet.
    refine (Nat.zero_add _).trans (List.countP_eq_zero.mpr ?_)
    intro entry member matching
    exact elsewhere entry member (of_decide_eq_true matching).1

end Rounds

/-- After any number of sequences up to `2 ^ 64`, the retransmission of the
first packet may still be due. -/
theorem reachable_between
    (count : Nat)
    (bounded : count + 1 ≤ 2 ^ 64) :
    ∃ infos sendPacketInfoMap calls doSends heap transmissions,
      (system 10).Reachable
          (between (count + 1) infos sendPacketInfoMap calls doSends heap
            transmissions) ∧
        FirstUnacknowledged infos sendPacketInfoMap calls doSends heap := by
  induction count with
  | zero =>
      have reached : (system 10).Reachable dueState :=
        TransitionSystem.Reachable.run (.initial rfl)
          (show (system 10).run initial dueSchedule = some dueState from rfl)
      refine ⟨_, _, _, _, _, _, reached,
        { info := rfl
          registered := rfl
          others := ?_
          returned := rfl
          completion := rfl
          popped := fun _ member => absurd member List.not_mem_nil }⟩
      exact fun packetSequence distinct => Function.update_of_ne distinct _ _
  | succ count inductionHypothesis =>
      obtain ⟨infos, sendPacketInfoMap, calls, doSends, heap, transmissions,
        reached, first⟩ := inductionHypothesis (by omega)
      refine reachable_between_succ first ?_ reached
      intro repeated
      have residues : (count + 1 + 1) % 2 ^ 64 = 1 :=
        congrArg BitVec.toNat repeated
      omega

/-- After `2 ^ 64 + 1` sequences an unacknowledged packet can be in no place. -/
theorem wrappedSequence_unscheduled :
    ∃ state, (system 10).Reachable state ∧ ¬ StaysScheduled state := by
  obtain ⟨infos, sendPacketInfoMap, calls, doSends, heap, transmissions,
    reached, first⟩ := reachable_between (2 ^ 64 - 1) (by decide)
  exact unscheduled_of_repeated first (by decide) (by decide) reached

end Retransmission
end MultiSocketRudp
