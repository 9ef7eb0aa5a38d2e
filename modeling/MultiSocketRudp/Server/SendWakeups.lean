import MultiSocketRudp.Server.Retransmission

/-!
# Wakeups on the send path

A thread whose compare-and-swap in `DoSend` fails leaves its packet to the owner
of the send path.  The owner looks again after it has freed the path because
nothing was left to send, and the completion of a send calls `DoSend` again.
After an empty stream the owner does not look again, and a packet that has been
pushed in the meantime stays behind.
-/

namespace MultiSocketRudp
namespace Retransmission

open TransitionSystems

/-! ## What the send path promises -/

namespace SendPc

/-- The caller is inside `DoSend`. -/
def runs : SendPc → Bool
  | .outside | .returned _ => false
  | _ => true

/-- The caller will look for something to send before it returns, or find the
send path taken. -/
def rechecks : SendPc → Bool
  | .entering | .contending | .rechecking => true
  | _ => false

/-- Only a running call rechecks. -/
theorem runs_of_rechecks
    {pc : SendPc}
    (rechecks : pc.rechecks = true) :
    pc.runs = true := by
  cases pc <;> first | rfl | cases rechecks

end SendPc

/-- A session that is not releasing, with its send path free and no call of
`DoSend` running, has nothing left to send. -/
def NothingStranded (state : State) : Prop :=
  (∀ caller, (state.doSends caller).runs = false) →
    state.ioMode = .ioNoneSending →
    state.nowInReleaseThread = false →
    state.sendPacketInfoQueue = [] ∧ state.reservedSendPacketInfo = none

/-- The step does not report a failure of `DoSend`. -/
def SendsSucceed : Label → Bool
  | .releaseIoSending _ (.return false) => false
  | _ => true

/-- When the send path is freed for good after an empty stream, nothing is left
to send. -/
def State.emptiesQueue (state : State) : Label → Bool
  | .releaseIoSending _ (.return true) =>
      state.nowInReleaseThread || state.isNothingToSend
  | _ => true

/-- No call fails. -/
def NoFailure (_ : State) (label : Label) : Prop :=
  SendsSucceed label = true

/-- No call fails, and none leaves something behind an empty stream. -/
def NothingBehindEmptyStream (state : State) (label : Label) : Prop :=
  SendsSucceed label = true ∧ state.emptiesQueue label = true

instance (state : State) (label : Label) : Decidable (NoFailure state label) :=
  inferInstanceAs (Decidable (_ = _))

instance (state : State) (label : Label) :
    Decidable (NothingBehindEmptyStream state label) :=
  inferInstanceAs (Decidable (_ ∧ _))

/-! ## The invariant -/

/-- Where something is left to send, somebody will look for it. -/
structure Awake (state : State) : Prop where
  exclusive : state.owner ≠ none →
    state.ioMode = .ioSending ∧ state.sendInFlight = false
  inFlight : state.sendInFlight = true → state.ioMode = .ioSending
  pending : state.nowInReleaseThread = false →
    state.ioMode = .ioNoneSending →
    state.isNothingToSend = false →
    ∃ caller, (state.doSends caller).rechecks = true

namespace Awake

variable {state next : State}

theorem nothingStranded
    (awake : Awake state) :
    NothingStranded state := by
  intro idle free unreleased
  by_contra stranded
  have left : state.isNothingToSend = false := by
    by_contra nothing
    refine stranded ?_
    simpa [State.isNothingToSend] using nothing
  obtain ⟨caller, rechecks⟩ := awake.pending unreleased free left
  exact nomatch (idle caller).symm.trans (SendPc.runs_of_rechecks rechecks)

/-- While the send path is taken, nobody has to look. -/
theorem of_taken
    (taken : next.ioMode = .ioSending)
    (landed : next.owner ≠ none → next.sendInFlight = false) :
    Awake next where
  exclusive owned := ⟨taken, landed owned⟩
  inFlight _ := taken
  pending _ free := nomatch free.symm.trans taken

/-- The owner of the send path moves on. -/
theorem own
    (awake : Awake state)
    (owned : state.owner ≠ none)
    (mode : next.ioMode = state.ioMode)
    (flight : next.sendInFlight = state.sendInFlight) :
    Awake next :=
  have exclusive := awake.exclusive owned
  .of_taken (mode.trans exclusive.1) fun _ => flight.trans exclusive.2

/-- A caller moves on inside `DoSend`, and stops looking only when there is no
need. -/
theorem setSend
    (awake : Awake state) {caller : Caller} {pc : SendPc}
    (looks : (state.doSends caller).rechecks = true →
      state.nowInReleaseThread = false →
      state.ioMode = .ioNoneSending →
      state.isNothingToSend = false → pc.rechecks = true) :
    Awake (state.setSend caller pc) :=
  { awake with
    pending := by
      intro unreleased free left
      obtain ⟨other, rechecks⟩ := awake.pending unreleased free left
      by_cases same : other = caller
      · subst same
        refine ⟨other, ?_⟩
        change (Function.update state.doSends other pc other).rechecks = true
        rw [Function.update_self]
        exact looks rechecks unreleased free left
      · refine ⟨other, ?_⟩
        change (Function.update state.doSends caller pc other).rechecks = true
        rwa [Function.update_of_ne same] }

/-- Whoever pushes a packet calls `DoSend`. -/
theorem push
    (awake : Awake state) (caller : Caller) (item : QueueItem) :
    Awake (state.pushSendPacketInfo caller item) :=
  { awake with
    pending := by
      intro _ _ _
      refine ⟨caller, ?_⟩
      change (Function.update state.doSends caller .entering caller).rechecks =
        true
      rw [Function.update_self]
      rfl }

end Awake

/-! ## The owner of the send path -/

namespace State

/-- What the owner of the send path leaves alone until it gives it up. -/
def sendFields (state : State) : IoMode × Bool :=
  (state.ioMode, state.sendInFlight)

theorem sendFields_beginRefresh
    (state : State) (caller : Caller) (item : QueueItem) (reserved : Bool)
    (locals : StreamLocals) :
    (state.beginRefresh caller item reserved locals).sendFields =
      state.sendFields := by
  unfold beginRefresh
  split
  · rfl
  · split <;> rfl

theorem sendFields_finishRefresh
    (state : State) (caller : Caller) (item : QueueItem) (reserved : Bool)
    (locals : StreamLocals) (deadline : Nat) :
    (state.finishRefresh caller item reserved locals deadline).sendFields =
      state.sendFields := by
  unfold finishRefresh
  split
  · rfl
  · dsimp only
    split <;> rfl

theorem sendFields_checkTaken
    (state : State) (caller : Caller) (item : QueueItem) (reserved : Bool)
    (locals : StreamLocals) :
    (state.checkTaken caller item reserved locals).sendFields =
      state.sendFields := by
  have refreshed :=
    state.sendFields_beginRefresh caller item reserved locals
  unfold checkTaken
  dsimp only
  split
  · split
    · rfl
    · exact refreshed
  · split
    · rfl
    · split
      · rfl
      · split
        · rfl
        · exact refreshed

theorem sendFields_takeReserved
    (state : State) (caller : Caller) (bufferCount : Nat) :
    (state.takeReserved caller bufferCount).sendFields = state.sendFields := by
  unfold takeReserved
  dsimp only
  split <;> rfl

theorem sendFields_popQueue
    (state : State) (caller : Caller) (locals : StreamLocals) :
    (state.popQueue caller locals).sendFields = state.sendFields := by
  unfold popQueue
  split <;> rfl

end State

namespace Awake

variable {state next : State}

/-- The owner moves on and keeps the send path. -/
theorem owns
    (awake : Awake state) {owner : Owner}
    (stands : state.owner = some owner)
    (same : next.sendFields = state.sendFields) :
    Awake next :=
  awake.own (by simp [stands]) (congrArg Prod.fst same)
    (congrArg Prod.snd same)

/-- The owner frees the send path, and looks again unless there is no need. -/
theorem releaseIoSending
    (awake : Awake state) {caller : Caller} {after : AfterRelease}
    (stands : state.owner = some ⟨caller, .releasing after⟩)
    (guarded : NothingBehindEmptyStream state
      (.releaseIoSending caller after)) :
    Awake (state.releaseIoSending caller after) where
  exclusive owned := absurd rfl owned
  inFlight flying :=
    nomatch (awake.exclusive (by simp [stands])).2.symm.trans flying
  pending := by
    intro unreleased _ left
    refine ⟨caller, ?_⟩
    change (Function.update state.doSends caller _ caller).rechecks = true
    rw [Function.update_self]
    obtain ⟨succeeds, empties⟩ := guarded
    cases after with
    | recheck => rfl
    | retry => rfl
    | «return» result =>
        cases result with
        | false => cases succeeds
        | true =>
            change (state.nowInReleaseThread || state.isNothingToSend) = true
              at empties
            change state.nowInReleaseThread = false at unreleased
            change state.isNothingToSend = false at left
            simp [unreleased, left] at empties

/-- A completed send frees the send path and calls `DoSend`. -/
theorem sendIoCompleted
    (awake : Awake state)
    (flying : state.sendInFlight = true) :
    Awake
      { state.setSend .completion .entering with
        ioMode := .ioNoneSending
        sendInFlight := false } where
  exclusive owned :=
    nomatch (awake.exclusive owned).2.symm.trans flying
  inFlight := nofun
  pending _ _ _ := ⟨.completion, by
    change (Function.update state.doSends .completion .entering
      .completion).rechecks = true
    rw [Function.update_self]
    rfl⟩

/-- What a call of `SendPacketImmediate`, the retransmission thread and
acknowledgements do outside of `DoSend` leaves the send path alone. -/
theorem congr
    (awake : Awake state)
    (fields : next.sendFields = state.sendFields)
    (owner : next.owner = state.owner)
    (flag : next.nowInReleaseThread = state.nowInReleaseThread)
    (queue : next.isNothingToSend = state.isNothingToSend)
    (doSends : next.doSends = state.doSends) :
    Awake next := by
  obtain ⟨mode, flight⟩ : next.ioMode = state.ioMode ∧
      next.sendInFlight = state.sendInFlight := Prod.mk.inj fields
  exact
    { exclusive := by
        rw [owner, mode, flight]
        exact awake.exclusive
      inFlight := by
        rw [mode, flight]
        exact awake.inFlight
      pending := by
        rw [flag, mode, queue, doSends]
        exact awake.pending }

/-- Every step keeps somebody looking, unless it fails or leaves something behind
an empty stream. -/
theorem step
    {maxPacketRetransmissionCount : Nat} {label : Label}
    (awake : Awake state)
    (guarded : NothingBehindEmptyStream state label)
    (moves : (system maxPacketRetransmissionCount).step state label =
      some next) :
    Awake next := by
  change Retransmission.step _ state label = some next at moves
  cases label with
  | takeSequence useSize | disconnect =>
      simp only [Retransmission.step, Option.some.injEq] at moves
      subst moves
      exact awake.congr rfl rfl rfl rfl rfl
  | beginReply index packetSequence useSize
  | ackErase packetSequence ordinal =>
      simp only [Retransmission.step, Option.ite_none_right_eq_some,
        Option.some.injEq] at moves
      obtain ⟨-, rfl⟩ := moves
      exact awake.congr rfl rfl rfl rfl rfl
  | allocFails packet | testRelease packet | markErased packet
  | failDisconnect packet | ackMark ordinal =>
      simp only [Retransmission.step, Option.ite_none_right_eq_some,
        Option.some.injEq] at moves
      obtain ⟨-, rfl⟩ := moves
      exact awake.congr rfl rfl rfl rfl rfl
  | collect now | popStale now entry | popDue now entry | stopCollecting now
  | takeDue entry | finishDue | disconnectExceeded entry
  | testReleaseAgain entry | disconnectFailed =>
      simp only [Retransmission.step, Option.ite_none_right_eq_some,
        Option.some.injEq] at moves
      obtain ⟨-, rfl⟩ := moves
      exact awake.congr rfl rfl rfl rfl rfl
  | insert packet | eraseFromMap packet =>
      simp only [Retransmission.step, Option.ite_none_right_eq_some,
        Option.some.injEq] at moves
      obtain ⟨-, rfl⟩ := moves
      cases packet <;> exact awake.congr rfl rfl rfl rfl rfl
  | checkDue entry =>
      simp only [Retransmission.step, State.checkDue,
        Option.ite_none_right_eq_some, Option.some.injEq] at moves
      obtain ⟨-, rfl⟩ := moves
      split <;> exact awake.congr rfl rfl rfl rfl rfl
  | raiseReleaseFlag =>
      simp only [Retransmission.step, Option.ite_none_right_eq_some,
        Option.some.injEq] at moves
      obtain ⟨-, rfl⟩ := moves
      exact { awake with pending := by simp }
  | push packet =>
      simp only [Retransmission.step, Option.ite_none_right_eq_some,
        Option.some.injEq] at moves
      obtain ⟨-, rfl⟩ := moves
      exact (awake.push _ _).congr rfl rfl rfl rfl rfl
  | pushAgain entry =>
      simp only [Retransmission.step, Option.ite_none_right_eq_some,
        Option.some.injEq] at moves
      obtain ⟨-, rfl⟩ := moves
      exact (awake.push _ _).congr rfl rfl rfl rfl rfl
  | sendReturns packet result =>
      simp only [Retransmission.step, Option.ite_none_right_eq_some,
        Option.some.injEq] at moves
      obtain ⟨⟨-, returned⟩, rfl⟩ := moves
      have outside : Awake (state.setSend (.call packet) .outside) :=
        awake.setSend fun rechecks => by rw [returned] at rechecks; cases rechecks
      exact outside.congr rfl rfl rfl rfl rfl
  | sendAgainReturns result =>
      simp only [Retransmission.step, Option.ite_none_right_eq_some,
        Option.some.injEq] at moves
      obtain ⟨⟨-, returned⟩, rfl⟩ := moves
      have outside : Awake (state.setSend .retransmission .outside) :=
        awake.setSend fun rechecks => by rw [returned] at rechecks; cases rechecks
      exact outside.congr rfl rfl rfl rfl rfl
  | completionReturns result =>
      simp only [Retransmission.step, Option.ite_none_right_eq_some,
        Option.some.injEq] at moves
      obtain ⟨returned, rfl⟩ := moves
      exact awake.setSend fun rechecks => by
        rw [returned] at rechecks
        cases rechecks
  | enterDoSend caller =>
      simp only [Retransmission.step, Option.ite_none_right_eq_some,
        Option.some.injEq] at moves
      obtain ⟨-, rfl⟩ := moves
      exact awake.setSend fun _ unreleased _ _ => by simp [unreleased, SendPc.rechecks]
  | recheck caller =>
      simp only [Retransmission.step, Option.ite_none_right_eq_some,
        Option.some.injEq] at moves
      obtain ⟨-, rfl⟩ := moves
      exact awake.setSend fun _ _ _ left => by simp [left, SendPc.rechecks]
  | acquire caller =>
      simp only [Retransmission.step, Option.ite_none_right_eq_some] at moves
      obtain ⟨-, moves⟩ := moves
      split at moves
      · next free =>
        simp only [Option.some.injEq] at moves
        subst moves
        refine .of_taken rfl fun _ => ?_
        change state.sendInFlight = false
        by_contra flying
        cases free.symm.trans
          (awake.inFlight (Bool.eq_true_of_not_eq_false flying))
      · next taken =>
        simp only [Option.some.injEq] at moves
        subst moves
        exact awake.setSend fun _ _ free _ => absurd free taken
  | ownerTest caller | ownerLook caller | contextFails caller
  | measureQueue caller | emptyStream caller =>
      simp only [Retransmission.step, Option.ite_none_right_eq_some,
        Option.some.injEq] at moves
      obtain ⟨stands, rfl⟩ := moves
      exact awake.owns stands rfl
  | oversizeDisconnect caller item =>
      simp only [Retransmission.step, Option.ite_none_right_eq_some,
        Option.some.injEq] at moves
      obtain ⟨stands, rfl⟩ := moves
      exact awake.owns stands rfl
  | simulateLoss caller length =>
      simp only [Retransmission.step, Option.ite_none_right_eq_some,
        Option.some.injEq] at moves
      obtain ⟨⟨stands, -⟩, rfl⟩ := moves
      exact awake.owns stands rfl
  | takeReserved caller bufferCount =>
      simp only [Retransmission.step, Option.ite_none_right_eq_some,
        Option.some.injEq] at moves
      obtain ⟨stands, rfl⟩ := moves
      exact awake.owns stands (state.sendFields_takeReserved _ _)
  | checkTaken caller item reserved locals =>
      simp only [Retransmission.step, Option.ite_none_right_eq_some,
        Option.some.injEq] at moves
      obtain ⟨stands, rfl⟩ := moves
      exact awake.owns stands (state.sendFields_checkTaken _ _ _ _)
  | finishRefresh caller item reserved locals deadline =>
      simp only [Retransmission.step, Option.ite_none_right_eq_some,
        Option.some.injEq] at moves
      obtain ⟨⟨stands, -⟩, rfl⟩ := moves
      exact awake.owns stands (state.sendFields_finishRefresh _ _ _ _ _)
  | popQueue caller locals =>
      simp only [Retransmission.step, Option.ite_none_right_eq_some,
        Option.some.injEq] at moves
      obtain ⟨stands, rfl⟩ := moves
      exact awake.owns stands (state.sendFields_popQueue _ _)
  | tryRioSend caller length result =>
      cases result with
      | true =>
          simp only [Retransmission.step, Option.ite_none_right_eq_some,
            Option.some.injEq] at moves
          obtain ⟨⟨stands, -⟩, rfl⟩ := moves
          exact .of_taken (awake.exclusive (by simp [stands])).1
            fun owned => absurd rfl owned
      | false =>
          simp only [Retransmission.step, Option.ite_none_right_eq_some,
            Option.some.injEq] at moves
          obtain ⟨⟨stands, -⟩, rfl⟩ := moves
          exact awake.owns stands rfl
  | releaseIoSending caller after =>
      simp only [Retransmission.step, Option.ite_none_right_eq_some,
        Option.some.injEq] at moves
      obtain ⟨stands, rfl⟩ := moves
      exact awake.releaseIoSending stands guarded
  | sendIoCompleted =>
      simp only [Retransmission.step, Option.ite_none_right_eq_some,
        Option.some.injEq] at moves
      obtain ⟨⟨flying, -⟩, rfl⟩ := moves
      exact awake.sendIoCompleted flying

end Awake

/-- As long as no call of `DoSend` fails and none leaves something behind an
empty stream, nothing is stranded. -/
theorem nothingStranded_of_nothingBehindEmptyStream
    {maxPacketRetransmissionCount : Nat} {state : State}
    (reached : (system maxPacketRetransmissionCount).GuardedReachable
      NothingBehindEmptyStream state) :
    NothingStranded state := by
  refine Awake.nothingStranded (reached.invariant ?_ ?_)
  · rintro state rfl
    exact ⟨fun owned => absurd rfl owned, nofun, nofun⟩
  · intro state label next _ awake guarded moves
    exact awake.step guarded moves

/-! ## A packet that is left behind -/

/-- A thread takes a sequence and pushes its packet of 12000 bytes. -/
def sendCall (ordinal : Nat) : List Label :=
  [.takeSequence 12000, .insert (.data ordinal), .testRelease (.data ordinal),
    .push (.data ordinal), .enterDoSend (.call (.data ordinal))]

/-- The locals of `MakeSendStream` after these packets. -/
def localsAfter (remaining : Nat) (ordinals : List Nat) : StreamLocals where
  remaining := remaining
  packetSequenceSet := ordinals.map fun ordinal => (PacketRef.data ordinal).key
  totalSendSize := 12000 * ordinals.length

/-- The owner begins `MakeSendStream` on a queue of this length. -/
def beginStream (caller : Caller) (bufferCount : Nat) : List Label :=
  [.ownerTest caller, .ownerLook caller, .measureQueue caller,
    .takeReserved caller bufferCount]

/-- The owner takes a packet from the queue. -/
def popPacket
    (caller : Caller) (remaining : Nat) (ordinals : List Nat)
    (item : QueueItem) : List Label :=
  [.popQueue caller (localsAfter (remaining + 1) ordinals),
    .checkTaken caller item false (localsAfter remaining ordinals)]

/-- The owner schedules it and writes it into the datagram. -/
def streamPacket
    (caller : Caller) (remaining : Nat) (ordinals : List Nat)
    (item : QueueItem) : List Label :=
  popPacket caller remaining ordinals item ++
  [.finishRefresh caller item false (localsAfter remaining ordinals) 5]

/-- The first packet is sent, and its retransmission falls due behind two more
packets. -/
def retransmissionSchedule : List Label :=
  let caller := Caller.call (.data 1)
  let entry : HeapEntry := ⟨5, 1, 1⟩
  sendCall 1 ++ ([.acquire caller] : List Label) ++ beginStream caller 1 ++
  streamPacket caller 0 [] ⟨.data 1, none⟩ ++
  ([.popQueue caller (localsAfter 0 [1]), .tryRioSend caller 12000 true,
    .sendReturns (.data 1) true, .sendIoCompleted, .enterDoSend .completion,
    .acquire .completion, .ownerTest .completion, .ownerLook .completion,
    .releaseIoSending .completion .recheck, .recheck .completion,
    .completionReturns true] : List Label) ++
  sendCall 2 ++ sendCall 3 ++
  ([.collect 5, .popDue 5 entry, .stopCollecting 5, .takeDue entry,
    .checkDue entry, .testReleaseAgain entry, .pushAgain entry,
    .enterDoSend .retransmission] : List Label)

/-- It does not fit into the datagram of the other two and is reserved. -/
def reservedSchedule : List Label :=
  let caller := Caller.call (.data 2)
  retransmissionSchedule ++
  [.acquire caller, .acquire .retransmission, .sendAgainReturns true,
    .finishDue, .acquire (.call (.data 3)), .sendReturns (.data 3) true] ++
  beginStream caller 3 ++
  streamPacket caller 2 [] ⟨.data 2, none⟩ ++
  streamPacket caller 1 [2] ⟨.data 3, none⟩ ++
  popPacket caller 0 [3, 2] ⟨.data 1, some 1⟩ ++
  [.tryRioSend caller 24000 true, .sendReturns (.data 2) true]

/-- It is acknowledged, and while the next datagram turns out empty a fourth
packet is pushed. -/
def strandedSchedule : List Label :=
  let item : QueueItem := ⟨.data 1, some 1⟩
  reservedSchedule ++
  ([.ackErase 1 1, .ackMark 1, .sendIoCompleted, .enterDoSend .completion,
    .acquire .completion, .ownerTest .completion, .ownerLook .completion,
    .measureQueue .completion] : List Label) ++
  sendCall 4 ++
  ([.acquire (.call (.data 4)), .sendReturns (.data 4) true,
    .takeReserved .completion 0,
    .checkTaken .completion item true (localsAfter 0 []),
    .popQueue .completion (localsAfter 0 []), .emptyStream .completion,
    .releaseIoSending .completion (.return true),
    .completionReturns true] : List Label)

/-- The state that it reaches. -/
def strandedState : State :=
  ((system 10).run initial strandedSchedule).getD initial

set_option maxRecDepth 2000 in
theorem guardedRun_strandedSchedule :
    (system 10).guardedRun NoFailure initial strandedSchedule =
      some strandedState := rfl

/-- Although no call fails, a packet can be left in the queue with nobody to send
it. -/
theorem strandedState_reachable :
    (system 10).GuardedReachable NoFailure strandedState ∧
      ¬ NothingStranded strandedState := by
  refine ⟨TransitionSystem.GuardedReachable.guardedRun (.initial rfl)
    guardedRun_strandedSchedule, fun nothing => ?_⟩
  have idle : ∀ caller, (strandedState.doSends caller).runs = false := by
    intro caller
    cases caller with
    | retransmission => rfl
    | completion => rfl
    | call packet =>
        cases packet with
        | reply index packetSequence => rfl
        | data ordinal =>
            match ordinal with
            | 0 => rfl
            | 1 => rfl
            | 2 => rfl
            | 3 => rfl
            | 4 => rfl
            | ordinal + 5 => rfl
  exact nomatch (nothing idle rfl rfl).1

/-- The last packet of a run in which nothing is left behind an empty stream. -/
theorem nothingStranded_after_transmission :
    NothingStranded
      (((system 10).run initial retransmissionSchedule).getD initial) :=
  nothingStranded_of_nothingBehindEmptyStream
    (TransitionSystem.GuardedReachable.guardedRun (.initial rfl)
      (show (system 10).guardedRun NothingBehindEmptyStream initial
          retransmissionSchedule =
        some (((system 10).run initial retransmissionSchedule).getD initial)
        from rfl))

end Retransmission
end MultiSocketRudp
