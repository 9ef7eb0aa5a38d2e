import MultiSocketRudp.Server.RttSampling

/-!
# Karn's rule

As long as its flag is set, a packet is on its way to its first datagram or has
been marked as sent once.  A sample is therefore the time since the only mark,
and the datagram of that mark is the only one that the packet can have been put
in.
-/

namespace MultiSocketRudp
namespace RttSampling

open TransitionSystems Retransmission

/-! ## What is promised -/

/-- The packet had been put in one datagram when its send time was read, and the
sample is the time from that transmission. -/
def MeasuresOnlyTransmission (sample : Sample) : Prop :=
  ∃ sent, sample.capture.datagrams = [sent] ∧
    sample.rttSample = (sample.capture.now : Int) - sent

/-- The send time is the one with which the packet had been marked as sent, and
there is no datagram of it but that of the mark. -/
structure MarkedOnce (capture : Capture) : Prop where
  marks : capture.marks = [capture.capturedSendTime]
  datagrams : capture.datagrams = [] ∨
    capture.datagrams = [capture.capturedSendTime]
  /-- The datagram is there, if the packet was in one when its acknowledgement
  was looked up. -/
  answered : capture.answered = true →
    capture.datagrams = [capture.capturedSendTime]

/-- The sample is the time since the only mark. -/
structure SampledOnce (sample : Sample) : Prop where
  capture : MarkedOnce sample.capture
  rttSample : sample.rttSample =
    (sample.capture.now : Int) - sample.capture.capturedSendTime
  positive : 0 < sample.rttSample

/-! ## The invariant -/

/-- The mark has been made. -/
def RefreshPhase.isMarked : RefreshPhase → Bool
  | .marked _ => true
  | _ => false

theorem isMarked_begun : RefreshPhase.begun.isMarked = false := rfl

namespace State

/-- In how many places a packet waits to be marked as sent. -/
def unmarked (state : State) (ordinal : Nat) : Nat :=
  state.session.waiting ordinal +
    if state.refresh.isMarked then 0
    else itemsFor ordinal state.session.refreshed

/-- Whether a packet has been marked as sent and is not yet in the datagram. -/
def held (state : State) (ordinal : Nat) : Nat :=
  if state.refresh.isMarked then itemsFor ordinal state.session.refreshed
  else 0

/-- The session moves on.  `RefreshRetransmissionSendPacketInfo` begins anew, or
stays where it is. -/
def moved
    (state : State) (label : Retransmission.Label)
    (next : Retransmission.State) : State :=
  { state with
    session := next
    refresh := if label.beginsRefresh then .begun else state.refresh }

/-- Nothing is known of a packet. -/
def Unknown (state : State) (ordinal : Nat) : Prop :=
  state.unmarked ordinal = 0 ∧ entriesFor ordinal state.session.heap = 0 ∧
    state.session.dueEntries ordinal = 0 ∧ state.marks ordinal = []

end State

/-- The invariant of all runs. -/
structure Kept (state : State) : Prop where
  /-- Packets begin with their sequence. -/
  unknown : ∀ ordinal, state.session.sequencesTaken < ordinal →
    state.Unknown ordinal
  mapped : ∀ packetSequence ordinal,
    state.session.sendPacketInfoMap packetSequence = some ordinal →
      ordinal ≤ state.session.sequencesTaken
  /-- A packet with its flag is marked as sent once at most. -/
  single : ∀ ordinal, (state.fields ordinal).canUseRttSample = true →
    state.unmarked ordinal + (state.marks ordinal).length ≤ 1
  /-- A packet with its flag is not due. -/
  due : ∀ ordinal, (state.fields ordinal).canUseRttSample = true →
    state.session.dueEntries ordinal = 0
  /-- The send time is that of the last mark. -/
  last : ∀ ordinal,
    (state.fields ordinal).lastSendTime = (state.marks ordinal).headD 0
  /-- The datagrams are those of the session. -/
  counted : ∀ ordinal, (state.datagrams ordinal).length =
    state.session.timesTransmitted ordinal
  /-- Each datagram has a mark of its own. -/
  put : ∀ ordinal, (state.datagrams ordinal).length + state.held ordinal ≤
    (state.marks ordinal).length
  sent : ∀ ordinal, ∀ now ∈ state.datagrams ordinal, now ∈ state.marks ordinal
  marked : ∀ now, state.refresh = .marked now →
    ∀ item ∈ state.session.refreshed, ∀ ordinal,
      item.packet = .data ordinal → now ∈ state.marks ordinal
  /-- The acknowledged packet has its sequence. -/
  replied : ∀ ordinal answered,
    state.reply.packet = some (ordinal, answered) →
      ordinal ≤ state.session.sequencesTaken ∧
        (answered = true → state.datagrams ordinal ≠ [])
  /-- What has been read is the first mark, unless the flag is gone. -/
  captured : ∀ capture, state.reply = .captured capture →
    (state.fields capture.ordinal).canUseRttSample = true → MarkedOnce capture
  samples : ∀ sample ∈ state.samples, SampledOnce sample

theorem kept_initial : Kept initial where
  unknown _ _ := ⟨rfl, rfl, rfl, rfl⟩
  mapped := nofun
  single := nofun
  due := nofun
  last _ := rfl
  counted _ := rfl
  put _ := le_refl _
  sent := nofun
  marked := nofun
  replied := nofun
  captured := nofun
  samples := nofun

namespace Kept

variable {state : State}

/-! ## Accesses for the sample -/

/-- `OnSendReply` goes on with a packet that was taken in the same way. -/
theorem setReply
    (kept : Kept state)
    {reply : ReplyPhase}
    (replied : ∀ ordinal answered, reply.packet = some (ordinal, answered) →
      ordinal ≤ state.session.sequencesTaken ∧
        (answered = true → state.datagrams ordinal ≠ []))
    (captured : ∀ capture, reply = .captured capture →
      (state.fields capture.ordinal).canUseRttSample = true →
        MarkedOnce capture) :
    Kept { state with reply } :=
  { kept with replied, captured }

/-- A new packet has its flag. -/
theorem initializeFields
    (kept : Kept state)
    {ordinal : Nat}
    (fresh : state.session.sequencesTaken < ordinal) :
    Kept (state.initializeFields ordinal) := by
  obtain ⟨unmarked, -, due, marks⟩ := kept.unknown ordinal fresh
  refine
    { kept with
      single := fun other flag => ?_
      due := fun other flag => ?_
      last := fun other => ?_
      captured := fun capture reads flag => kept.captured capture reads ?_ }
  all_goals simp only [State.initializeFields] at *
  · by_cases same : other = ordinal
    · rw [same, marks]
      exact unmarked.le.trans (Nat.zero_le 1)
    · exact kept.single other (by rwa [Function.update_of_ne same] at flag)
  · by_cases same : other = ordinal
    · rw [same, due]
    · exact kept.due other (by rwa [Function.update_of_ne same] at flag)
  · by_cases same : other = ordinal
    · rw [same, Function.update_self, marks]
      rfl
    · rw [Function.update_of_ne same, kept.last]
  · have known := (kept.replied capture.ordinal capture.answered
      (by rw [reads]; rfl)).1
    rwa [Function.update_of_ne (by omega)] at flag

/-- A packet loses its flag. -/
theorem invalidateRttSample
    (kept : Kept state)
    (ordinal : Nat) :
    Kept (state.invalidateRttSample ordinal) := by
  have flagged : ∀ {other},
      ((state.invalidateRttSample ordinal).fields other).canUseRttSample =
        true → (state.fields other).canUseRttSample = true := by
    intro other flag
    simp only [State.invalidateRttSample] at flag
    by_cases same : other = ordinal
    · rw [same, Function.update_self] at flag
      cases flag
    · rwa [Function.update_of_ne same] at flag
  refine
    { kept with
      single := fun other flag => kept.single other (flagged flag)
      due := fun other flag => kept.due other (flagged flag)
      last := fun other => ?_
      captured := fun capture reads flag =>
        kept.captured capture reads (flagged flag) }
  simp only [State.invalidateRttSample]
  by_cases same : other = ordinal
  · rw [same, Function.update_self, kept.last]
  · rw [Function.update_of_ne same, kept.last]

/-- The clock is read for the mark. -/
theorem readClock
    (kept : Kept state)
    (stands : state.refresh = .begun)
    (now : Nat) :
    Kept { state with refresh := .timed now } := by
  have same : ∀ ordinal,
      State.unmarked { state with refresh := .timed now } ordinal =
          state.unmarked ordinal ∧
        State.held { state with refresh := .timed now } ordinal =
          state.held ordinal := by
    intro ordinal
    unfold State.unmarked State.held
    rw [stands]
    exact ⟨rfl, rfl⟩
  exact
    { kept with
      unknown := fun ordinal fresh => by
        have unknown := kept.unknown ordinal fresh
        rwa [State.Unknown, (same ordinal).1]
      single := fun ordinal flag => by
        rw [(same ordinal).1]
        exact kept.single ordinal flag
      put := fun ordinal => by
        rw [(same ordinal).2]
        exact kept.put ordinal
      marked := nofun }

/-- The packet is marked as sent. -/
theorem markSent
    (kept : Kept state)
    {ordinal : Nat} {item : QueueItem} {now : Nat}
    (packet : item.packet = .data ordinal)
    (refreshed : state.session.refreshed = [item])
    (stands : state.refresh = .timed now) :
    Kept
      { state.markSentForRttSample ordinal now with refresh := .marked now } :=
    by
  have items : ∀ other, itemsFor other state.session.refreshed =
      if other = ordinal then 1 else 0 := by
    intro other
    simp [refreshed, packet, eq_comm]
  have unmarkedBefore : ∀ other, state.unmarked other =
      state.session.waiting other + if other = ordinal then 1 else 0 := by
    intro other
    rw [State.unmarked, stands, items]
    rfl
  have marks : ∀ other, Function.update state.marks ordinal
      (now :: state.marks ordinal) other =
        if other = ordinal then now :: state.marks other
        else state.marks other := by
    intro other
    by_cases same : other = ordinal
    · subst same
      rw [Function.update_self, if_pos rfl]
    · rw [Function.update_of_ne same, if_neg same]
  have flags : ∀ {other}, (Function.update state.fields ordinal
      { state.fields ordinal with lastSendTime := now }
        other).canUseRttSample = (state.fields other).canUseRttSample := by
    intro other
    by_cases same : other = ordinal
    · rw [same, Function.update_self]
    · rw [Function.update_of_ne same]
  exact
    { unknown := fun other fresh => by
        obtain ⟨unmarked, heap, due, marksBefore⟩ := kept.unknown other fresh
        rw [unmarkedBefore] at unmarked
        have different : other ≠ ordinal := fun same => by
          simp [same] at unmarked
        refine ⟨Nat.eq_zero_of_add_eq_zero_right unmarked, heap, due, ?_⟩
        exact (Function.update_of_ne different _ _).trans marksBefore
      mapped := kept.mapped
      single := fun other flag => by
        have before := kept.single other (flags ▸ flag)
        change state.session.waiting other + 0 +
          (Function.update state.marks ordinal _ other).length ≤ 1
        rw [unmarkedBefore] at before
        rw [marks]
        split
        case isTrue same =>
          rw [if_pos same] at before
          rw [List.length_cons]
          omega
        case isFalse same =>
          rw [if_neg same] at before
          exact before
      due := fun other flag => kept.due other (flags ▸ flag)
      last := fun other => by
        change (Function.update state.fields ordinal _ other).lastSendTime =
          (Function.update state.marks ordinal _ other).headD 0
        rw [marks]
        by_cases same : other = ordinal
        · subst same
          rw [Function.update_self, if_pos rfl, List.headD_cons]
        · rw [Function.update_of_ne same, if_neg same, kept.last]
      counted := kept.counted
      put := fun other => by
        have before := kept.put other
        change (state.datagrams other).length +
            itemsFor other state.session.refreshed ≤
          (Function.update state.marks ordinal _ other).length
        rw [marks, items]
        split
        case isTrue => rw [List.length_cons]; omega
        case isFalse => omega
      sent := fun other time member => by
        have before := kept.sent other time member
        change time ∈ Function.update state.marks ordinal _ other
        rw [marks]
        split
        case isTrue => exact List.mem_cons_of_mem _ before
        case isFalse => exact before
      marked := fun time stands other member own same => by
        obtain rfl := RefreshPhase.marked.inj stands
        change _ ∈ state.session.refreshed at member
        rw [refreshed, List.mem_singleton] at member
        rw [member, packet] at same
        obtain rfl := PacketRef.data.inj same
        change _ ∈ Function.update state.marks ordinal _ ordinal
        rw [Function.update_self]
        exact List.mem_cons_self
      replied := kept.replied
      captured := fun capture reads flag =>
        kept.captured capture reads (flags ▸ flag)
      samples := kept.samples }

/-- The send time is read while the flag may still be set. -/
theorem markedOnce
    (kept : Kept state)
    {ordinal now : Nat} {answered : Bool}
    (packet : state.reply.packet = some (ordinal, answered))
    (sent : (state.fields ordinal).lastSendTime ≠ 0)
    (flag : (state.fields ordinal).canUseRttSample = true) :
    MarkedOnce
      { ordinal, answered, now
        capturedSendTime := (state.fields ordinal).lastSendTime
        marks := state.marks ordinal
        datagrams := state.datagrams ordinal } := by
  have single := kept.single ordinal flag
  have last := kept.last ordinal
  have put := kept.put ordinal
  have among := kept.sent ordinal
  have answer := (kept.replied ordinal answered packet).2
  cases marks : state.marks ordinal with
  | nil =>
      rw [marks] at last
      exact absurd last sent
  | cons time rest =>
      rw [marks] at last single put among
      rw [List.length_cons] at single put
      obtain rfl : rest = [] := List.eq_nil_of_length_eq_zero (by omega)
      obtain rfl : (state.fields ordinal).lastSendTime = time := last
      have datagrams : state.datagrams ordinal = [] ∨
          state.datagrams ordinal = [(state.fields ordinal).lastSendTime] := by
        cases sentTimes : state.datagrams ordinal with
        | nil => exact .inl rfl
        | cons first others =>
            rw [sentTimes] at put among
            rw [List.length_cons] at put
            obtain rfl : others = [] :=
              List.eq_nil_of_length_eq_zero (by omega)
            exact .inr (congrArg (fun time => [time])
              (List.mem_singleton.mp (among first List.mem_cons_self)))
      exact
        { marks := rfl
          datagrams
          answered := fun isAnswered =>
            datagrams.resolve_left (answer isAnswered) }

/-- The sample is fed if the flag is still set. -/
theorem feedSample
    (kept : Kept state)
    {capture : Capture}
    (stands : state.reply = .captured capture) :
    Kept (state.feedSample capture) := by
  have left : Kept { state with reply := .outside } := kept.setReply nofun nofun
  unfold State.feedSample
  dsimp only
  split
  case isTrue usable =>
    refine { left with samples := fun sample member => ?_ }
    cases List.mem_cons.mp member with
    | inl new =>
        subst new
        exact ⟨kept.captured capture stands usable.1, rfl, usable.2⟩
    | inr old => exact kept.samples sample old
  case isFalse => exact left

/-! ## Steps of the session -/

/-- Packets that wait to be marked are new, or due for a retransmission. -/
theorem unmarked_moved
    {label : Retransmission.Label} {next : Retransmission.State}
    (flow : Flow state.session next label)
    (ordinal : Nat) :
    (state.moved label next).unmarked ordinal ≤
      state.unmarked ordinal + label.enters state.session ordinal +
        label.pushesAgain ordinal := by
  have waiting := flow.waiting ordinal
  unfold State.unmarked State.moved
  dsimp only
  rcases flow.refreshed with ⟨outside, same⟩ | none | ⟨begins, refreshed⟩
  · rw [outside, same, if_neg Bool.false_ne_true]
    omega
  · rw [none, itemsFor_nil, ite_self]
    omega
  · have refreshed := refreshed ordinal
    rw [if_pos begins, isMarked_begun, if_neg Bool.false_ne_true]
    omega

/-- A marked packet is inside `RefreshRetransmissionSendPacketInfo` since the
mark. -/
theorem held_moved
    {label : Retransmission.Label} {next : Retransmission.State}
    (flow : Flow state.session next label)
    (ordinal : Nat) :
    (state.moved label next).held ordinal ≤ state.held ordinal := by
  unfold State.held State.moved
  dsimp only
  rcases flow.refreshed with ⟨outside, same⟩ | none | ⟨begins, -⟩
  · rw [outside, same, if_neg Bool.false_ne_true]
  · rw [none, itemsFor_nil, ite_self]
    exact Nat.zero_le _
  · rw [if_pos begins, isMarked_begun, if_neg Bool.false_ne_true]
    exact Nat.zero_le _

/-- The packets move, and none of them is scheduled.  A packet with its flag is
not found due. -/
theorem move
    (kept : Kept state)
    {label : Retransmission.Label} {next : Retransmission.State}
    (flow : Flow state.session next label)
    (unscheduled : ∀ ordinal, label.schedules ordinal = 0)
    (untransmitted : ∀ ordinal, label.transmits state.session ordinal = 0)
    (unpopped : ∀ ordinal, (state.fields ordinal).canUseRttSample = true →
      label.pops ordinal = 0) :
    Kept (state.moved label next) where
  unknown ordinal fresh := by
    change next.sequencesTaken < ordinal at fresh
    have sequences := flow.sequences
    obtain ⟨unmarked, heap, due, marks⟩ := kept.unknown ordinal (by omega)
    have entered := flow.entered ordinal
    rw [if_neg (by omega)] at entered
    have waits := unmarked_moved flow ordinal
    have nextHeap := flow.heap ordinal
    have nextDue := flow.due ordinal
    rw [unscheduled] at nextHeap
    refine ⟨?_, ?_, ?_, marks⟩
    · omega
    · change entriesFor ordinal next.heap = 0
      omega
    · change next.dueEntries ordinal = 0
      omega
  mapped packetSequence ordinal found := by
    have sequences := flow.sequences
    change ordinal ≤ next.sequencesTaken
    cases flow.mapped packetSequence ordinal found with
    | inl before => exact (kept.mapped _ _ before).trans sequences
    | inr waits =>
        by_contra fresh
        have unmarked := (kept.unknown ordinal (by omega)).1
        unfold State.unmarked at unmarked
        omega
  single ordinal flag := by
    have waits := unmarked_moved flow ordinal
    have nextDue := flow.due ordinal
    have unpopped := unpopped ordinal flag
    have due := kept.due ordinal flag
    have entered := flow.entered ordinal
    change (state.moved label next).unmarked ordinal +
      (state.marks ordinal).length ≤ 1
    by_cases fresh : state.session.sequencesTaken < ordinal
    · obtain ⟨unmarked, -, -, marks⟩ := kept.unknown ordinal fresh
      rw [marks, List.length_nil]
      split at entered <;> omega
    · have single := kept.single ordinal flag
      rw [if_neg (by omega)] at entered
      omega
  due ordinal flag := by
    have nextDue := flow.due ordinal
    have unpopped := unpopped ordinal flag
    have due := kept.due ordinal flag
    change next.dueEntries ordinal = 0
    omega
  last := kept.last
  counted ordinal := by
    have transmitted := flow.transmitted ordinal
    rw [untransmitted] at transmitted
    exact (kept.counted ordinal).trans transmitted.symm
  put ordinal :=
    (Nat.add_le_add_left (held_moved flow ordinal) _).trans (kept.put ordinal)
  sent := kept.sent
  marked now stands item member ordinal packet := by
    change (if label.beginsRefresh then RefreshPhase.begun
      else state.refresh) = .marked now at stands
    change item ∈ next.refreshed at member
    rcases flow.refreshed with ⟨outside, same⟩ | none | ⟨begins, -⟩
    · rw [outside, if_neg Bool.false_ne_true] at stands
      rw [same] at member
      exact kept.marked now stands item member ordinal packet
    · rw [none] at member
      cases member
    · rw [if_pos begins] at stands
      cases stands
  replied ordinal answered packet := by
    obtain ⟨known, answer⟩ := kept.replied ordinal answered packet
    exact ⟨known.trans flow.sequences, answer⟩
  captured := kept.captured
  samples := kept.samples

/-- What `putInDatagram` changes. -/
theorem datagrams_putInDatagram
    (state : State) (packet : PacketRef) (now ordinal : Nat) :
    (state.putInDatagram packet now).datagrams ordinal =
      if packet = .data ordinal ∧
          (state.session.infos packet).isErasedPacketInfo = false then
        now :: state.datagrams ordinal
      else state.datagrams ordinal := by
  cases packet with
  | reply index packetSequence =>
      rw [if_neg (fun put => nomatch put.1)]
      rfl
  | data own =>
      unfold State.putInDatagram
      dsimp only
      split
      case isTrue erased => rw [if_neg (by simp [erased])]
      case isFalse present =>
        by_cases same : own = ordinal
        · subst same
          rw [if_pos ⟨rfl, by simpa using present⟩]
          exact Function.update_self _ _ _
        · rw [if_neg (fun put => same (PacketRef.data.inj put.1))]
          exact Function.update_of_ne (Ne.symm same) _ _

/-- The rest of the state is left alone. -/
theorem putInDatagram_eq
    (state : State) (packet : PacketRef) (now : Nat) :
    state.putInDatagram packet now =
      { state with datagrams := (state.putInDatagram packet now).datagrams } := by
  unfold State.putInDatagram
  cases packet with
  | reply index packetSequence => rfl
  | data ordinal =>
      dsimp only
      split <;> rfl

/-- The marked packet is scheduled and put in the datagram. -/
theorem finishRefresh
    (kept : Kept state)
    {caller : Caller} {item : QueueItem} {reserved : Bool}
    {locals : StreamLocals} {deadline now : Nat}
    {next : Retransmission.State}
    (flow : Flow state.session next
      (.finishRefresh caller item reserved locals deadline))
    (refreshed : state.session.refreshed = [item])
    (goesOn : next.refreshed = [])
    (stands : state.refresh = .marked now) :
    Kept { state.putInDatagram item.packet now with session := next } := by
  have held : ∀ ordinal, state.held ordinal =
      if item.packet = .data ordinal then 1 else 0 := by
    intro ordinal
    rw [State.held, stands, refreshed, itemsFor_cons, itemsFor_nil,
      Nat.zero_add]
    rfl
  have marked : ∀ {ordinal}, item.packet = .data ordinal →
      now ∈ state.marks ordinal := fun packet =>
    kept.marked now stands item (by rw [refreshed]; exact List.mem_cons_self)
      _ packet
  have known : ∀ {ordinal}, state.session.sequencesTaken < ordinal →
      item.packet ≠ .data ordinal := fun fresh packet => by
    have member := marked packet
    rw [(kept.unknown _ fresh).2.2.2] at member
    cases member
  have unmarked : ∀ ordinal,
      State.unmarked
          { state.putInDatagram item.packet now with session := next }
          ordinal ≤ state.unmarked ordinal := by
    intro ordinal
    have waiting := flow.waiting ordinal
    unfold State.unmarked
    rw [goesOn, itemsFor_nil, ite_self]
    change next.waiting ordinal ≤ state.session.waiting ordinal + 0 + 0
      at waiting
    change next.waiting ordinal + 0 ≤ _
    omega
  have nextDue : ∀ ordinal, next.dueEntries ordinal ≤
      state.session.dueEntries ordinal := flow.due
  have datagrams := datagrams_putInDatagram state item.packet now
  rw [putInDatagram_eq] at unmarked ⊢
  exact
    { unknown := fun ordinal fresh => by
        have before : state.session.sequencesTaken < ordinal :=
          flow.sequences.trans_lt fresh
        obtain ⟨waits, heap, due, marks⟩ := kept.unknown ordinal before
        refine ⟨Nat.le_zero.mp (waits ▸ unmarked ordinal), ?_,
          Nat.le_zero.mp (due ▸ nextDue ordinal), marks⟩
        have nextHeap := flow.heap ordinal
        rw [heap, Label.schedules, if_neg (known before)] at nextHeap
        exact Nat.le_zero.mp nextHeap
      mapped := fun packetSequence ordinal found => by
        cases flow.mapped packetSequence ordinal found with
        | inl before =>
            exact (kept.mapped _ _ before).trans flow.sequences
        | inr waits =>
            by_contra fresh
            have sequences := flow.sequences
            have nothing := (kept.unknown ordinal
              (sequences.trans_lt (not_le.mp fresh))).1
            unfold State.unmarked at nothing
            omega
      single := fun ordinal flag =>
        (Nat.add_le_add_right (unmarked ordinal) _).trans
          (kept.single ordinal flag)
      due := fun ordinal flag =>
        Nat.le_zero.mp (kept.due ordinal flag ▸ nextDue ordinal)
      last := kept.last
      counted := fun ordinal => by
        have counted := kept.counted ordinal
        have transmitted := flow.transmitted ordinal
        change ((state.putInDatagram item.packet now).datagrams
          ordinal).length = next.timesTransmitted ordinal
        rw [datagrams, transmitted, Label.transmits, ← counted]
        split <;> rfl
      put := fun ordinal => by
        have put := kept.put ordinal
        rw [held] at put
        unfold State.held
        dsimp only
        rw [goesOn, itemsFor_nil, ite_self, datagrams]
        split
        case isTrue inDatagram =>
          rw [if_pos inDatagram.1] at put
          exact put
        case isFalse => omega
      sent := fun ordinal time member => by
        change time ∈ (state.putInDatagram item.packet now).datagrams ordinal
          at member
        rw [datagrams] at member
        split at member
        case isTrue inDatagram =>
          cases List.mem_cons.mp member with
          | inl new => exact new ▸ marked inDatagram.1
          | inr old => exact kept.sent ordinal time old
        case isFalse => exact kept.sent ordinal time member
      marked := fun time _ other member => by
        change other ∈ next.refreshed at member
        rw [goesOn] at member
        cases member
      replied := fun ordinal answered packet => by
        obtain ⟨taken, answer⟩ := kept.replied ordinal answered packet
        refine ⟨taken.trans flow.sequences, fun isAnswered none => ?_⟩
        change (state.putInDatagram item.packet now).datagrams ordinal = []
          at none
        rw [datagrams] at none
        split at none
        case isTrue => cases none
        case isFalse => exact answer isAnswered none
      captured := kept.captured
      samples := kept.samples }

/-- A step that does nothing to the times. -/
theorem quiet
    (kept : Kept state)
    {label : Retransmission.Label} {next : Retransmission.State}
    (quiet : label.isQuiet = true)
    (outside : label.beginsRefresh = false)
    (flow : Flow state.session next label) :
    Kept { state with session := next } := by
  have moved := kept.move flow
    (fun ordinal => (Label.quiet quiet state.session ordinal).2.1)
    (fun ordinal => (Label.quiet quiet state.session ordinal).2.2.1)
    fun ordinal _ => (Label.quiet quiet state.session ordinal).2.2.2.1
  unfold State.moved at moved
  rwa [outside, if_neg Bool.false_ne_true] at moved

/-- Steps of the session keep the invariant. -/
theorem session
    (kept : Kept state)
    {maxPacketRetransmissionCount : Nat}
    {label : Retransmission.Label}
    {next : Retransmission.State} {followed : State}
    (moves : Retransmission.step maxPacketRetransmissionCount state.session
      label = some next)
    (follows : follow state label = some followed) :
    Kept { followed with session := next } := by
  have flow := flow_of_step moves
  cases label with
  | takeSequence useSize =>
      obtain rfl := Option.some.inj follows
      have fresh := kept.initializeFields
        (Nat.lt_succ_self state.session.sequencesTaken)
      exact fresh.move flow (fun _ => rfl) (fun _ => rfl) fun _ _ => rfl
  | checkTaken caller item reserved locals =>
      obtain rfl := Option.some.inj follows
      exact kept.move flow (fun _ => rfl) (fun _ => rfl) fun _ _ => rfl
  | finishRefresh caller item reserved locals deadline =>
      simp only [Retransmission.step, Option.ite_none_right_eq_some,
        Option.some.injEq] at moves
      obtain ⟨⟨stands, -⟩, rfl⟩ := moves
      cases phase : state.refresh with
      | marked now =>
          simp only [follow, phase, Option.some.injEq] at follows
          subst follows
          exact kept.finishRefresh flow
            (by rw [Retransmission.State.refreshed, stands]; rfl)
            (Flow.refreshed_finishRefresh ..) phase
      | _ => simp [follow, phase] at follows
  | popDue now entry =>
      obtain rfl := Option.some.inj follows
      refine (kept.invalidateRttSample entry.ordinal).move flow (fun _ => rfl)
        (fun _ => rfl) fun ordinal flag => if_neg fun same => ?_
      subst same
      simp [State.invalidateRttSample] at flag
  | pushAgain entry =>
      obtain rfl := Option.some.inj follows
      exact kept.move flow (fun _ => rfl) (fun _ => rfl) fun _ _ => rfl
  | ackErase packetSequence ordinal =>
      simp only [follow, Option.ite_none_right_eq_some, Option.some.injEq]
        at follows
      obtain ⟨-, rfl⟩ := follows
      simp only [Retransmission.step, Option.ite_none_right_eq_some] at moves
      have known := kept.mapped _ _ moves.1.2.2
      refine (kept.quiet rfl rfl flow).setReply ?_ (by simp)
      rintro other answered ⟨⟩
      exact ⟨known.trans flow.sequences, of_decide_eq_true⟩
  | ackMark ordinal =>
      cases phase : state.reply with
      | taken own answered =>
          simp only [follow, phase, Option.some.injEq] at follows
          subst follows
          have before := kept.quiet rfl rfl flow
          refine before.setReply ?_ (by simp)
          rintro other isAnswered ⟨⟩
          exact before.replied _ _ (by rw [phase]; rfl)
      | _ => simp [follow, phase] at follows
  | _ =>
      obtain rfl := Option.some.inj follows
      exact kept.quiet rfl rfl flow

/-- Every step keeps the invariant. -/
theorem step
    (kept : Kept state)
    {maxPacketRetransmissionCount : Nat}
    {label : Label} {next : State}
    (moves : RttSampling.step maxPacketRetransmissionCount state label =
      some next) :
    Kept next := by
  cases label with
  | session label =>
      obtain ⟨session, sessionMoves, rest⟩ :=
        Option.bind_eq_some_iff.mp moves
      obtain ⟨followed, follows, rfl⟩ := Option.map_eq_some_iff.mp rest
      exact kept.session sessionMoves follows
  | tick elapsed =>
      obtain rfl := Option.some.inj moves
      exact { kept with }
  | readClock =>
      simp only [RttSampling.step] at moves
      split at moves
      case h_1 item refreshed stands =>
        obtain rfl := Option.some.inj moves
        exact kept.readClock stands state.clock
      case h_2 => cases moves
  | markSent =>
      simp only [RttSampling.step] at moves
      split at moves
      case h_1 ordinal cause now refreshed stands =>
        obtain rfl := Option.some.inj moves
        exact kept.markSent rfl refreshed stands
      case h_2 => cases moves
  | readClockForReply =>
      simp only [RttSampling.step] at moves
      split at moves
      case h_1 ordinal answered stands =>
        obtain rfl := Option.some.inj moves
        refine kept.setReply ?_ nofun
        rintro other isAnswered ⟨⟩
        exact kept.replied _ _ (by rw [stands]; rfl)
      case h_2 => cases moves
  | testFlag =>
      simp only [RttSampling.step] at moves
      split at moves
      case h_1 ordinal answered now stands =>
        obtain rfl := Option.some.inj moves
        split
        case isTrue =>
          refine kept.setReply ?_ nofun
          rintro other isAnswered ⟨⟩
          exact kept.replied _ _ (by rw [stands]; rfl)
        case isFalse => exact kept.setReply nofun nofun
      case h_2 => cases moves
  | readSendTime =>
      simp only [RttSampling.step] at moves
      split at moves
      case h_1 ordinal answered now stands =>
        obtain rfl := Option.some.inj moves
        have packet : state.reply.packet = some (ordinal, answered) := by
          rw [stands]
          rfl
        split
        case isTrue => exact kept.setReply nofun nofun
        case isFalse sent =>
          refine kept.setReply ?_ ?_
          · rintro other isAnswered ⟨⟩
            exact kept.replied _ _ packet
          · rintro capture ⟨⟩ flag
            exact kept.markedOnce packet sent flag
      case h_2 => cases moves
  | testFlagAgain =>
      simp only [RttSampling.step] at moves
      split at moves
      case h_1 capture stands =>
        obtain rfl := Option.some.inj moves
        exact kept.feedSample stands
      case h_2 => cases moves

end Kept

/-! ## Every run -/

theorem kept_of_reachable
    {maxPacketRetransmissionCount : Nat}
    {state : State}
    (reached : (system maxPacketRetransmissionCount).Reachable state) :
    Kept state :=
  reached.invariant (fun _ begins => begins ▸ kept_initial)
    fun _ _ _ _ kept moves => kept.step moves

/-- The datagrams of a packet are its transmissions. -/
theorem length_datagrams
    {maxPacketRetransmissionCount : Nat}
    {state : State}
    (reached : (system maxPacketRetransmissionCount).Reachable state)
    (ordinal : Nat) :
    (state.datagrams ordinal).length =
      state.session.timesTransmitted ordinal :=
  (kept_of_reachable reached).counted ordinal

/-- A sample is the time since the only mark of its packet, which is in no
datagram but the one of the mark. -/
theorem sampledOnce
    {maxPacketRetransmissionCount : Nat}
    {state : State}
    (reached : (system maxPacketRetransmissionCount).Reachable state) :
    ∀ sample ∈ state.samples, SampledOnce sample :=
  (kept_of_reachable reached).samples

/-! ## An answered packet and one that is answered too early -/

/-- The first packet of the session, in the send queue. -/
def firstItem : QueueItem := ⟨.data 1, none⟩

/-- The call that sends it. -/
def firstCaller : Caller := .call (.data 1)

/-- The locals of `MakeSendStream` when it is taken. -/
def firstLocals : StreamLocals := { remaining := 0 }

/-- The packet is sent up to the mark. -/
def markSchedule : List Label :=
  [.session (.takeSequence 100), .session (.insert (.data 1)),
    .session (.testRelease (.data 1)), .session (.push (.data 1)),
    .session (.enterDoSend firstCaller), .session (.acquire firstCaller),
    .session (.ownerTest firstCaller), .session (.ownerLook firstCaller),
    .session (.measureQueue firstCaller),
    .session (.takeReserved firstCaller 1),
    .session (.popQueue firstCaller { remaining := 1 }),
    .session (.checkTaken firstCaller firstItem false firstLocals),
    .tick 5, .readClock, .markSent]

/-- The packet is put in the datagram. -/
def putSchedule : List Label :=
  [.session (.finishRefresh firstCaller firstItem false firstLocals 200)]

/-- Its acknowledgement arrives. -/
def replySchedule : List Label :=
  [.tick 7, .session (.ackErase 1 1), .session (.ackMark 1),
    .readClockForReply, .testFlag, .readSendTime, .testFlagAgain]

/-- The acknowledgement follows the datagram. -/
def answeredState : State :=
  ((system 16).run initial
    (markSchedule ++ putSchedule ++ replySchedule)).getD initial

/-- The acknowledgement comes between the mark and the datagram. -/
def earlyState : State :=
  ((system 16).run initial (markSchedule ++ replySchedule)).getD initial

theorem sampledOnce_answered :
    answeredState.samples =
        [⟨⟨1, true, 12, 5, [5], [5]⟩, 7⟩] ∧
      ∀ sample ∈ answeredState.samples, SampledOnce sample :=
  ⟨by decide +kernel, sampledOnce (.run (.initial rfl)
    (show (system 16).run initial
        (markSchedule ++ putSchedule ++ replySchedule) =
      some answeredState from rfl))⟩

/-- A sample is fed for a packet that was in no datagram. -/
theorem early_answer_is_sampled :
    ¬ ∀ (maxPacketRetransmissionCount : Nat) (state : State),
      (system maxPacketRetransmissionCount).Reachable state →
        ∀ sample ∈ state.samples, MeasuresOnlyTransmission sample := by
  intro claimed
  have reached : (system 16).Reachable earlyState :=
    .run (.initial rfl)
      (show (system 16).run initial (markSchedule ++ replySchedule) =
        some earlyState from rfl)
  have samples : earlyState.samples =
      [⟨⟨1, false, 12, 5, [5], []⟩, 7⟩] := by decide +kernel
  obtain ⟨sent, datagrams, -⟩ := claimed 16 earlyState reached
    ⟨⟨1, false, 12, 5, [5], []⟩, 7⟩
    (by rw [samples]; exact List.mem_cons_self)
  cases datagrams

end RttSampling
end MultiSocketRudp
