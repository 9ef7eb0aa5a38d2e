import MultiSocketRudp.Lib.TransitionSystem
import MultiSocketRudp.Server.OrdererDrain

/-!
# Runs of the packet orderer

The calls of a `SessionPacketOrderer` in any order, with any callback.  A buffer
that is held has one reference of the orderer, which is freed when the buffer
leaves the queue.

The expected sequence advances before the callback is called.  After a callback
that fails the queue may therefore hold the expected sequence, which the next
call takes out of the queue without freeing its buffer.
-/

namespace MultiSocketRudp
namespace SessionPacketOrderer

open Dictionary ReceivePath SerialNumber TransitionSystems

/-! ## The calls -/

namespace Orderer

variable {Buffer : Type}

/-- `Initialize`. -/
def initializeTo
    (orderer : Orderer Buffer)
    (maxHoldingQueueSize : Byte) : Orderer Buffer :=
  { orderer.reset 0 with maxHoldingQueueSize := maxHoldingQueueSize }

/-- The buffers that `OnReceive` adds a reference to. -/
def referenced
    (orderer : Orderer Buffer)
    (frame : DataFrame Buffer) : List Buffer :=
  if 0 < signedDiff frame.packetSequence orderer.nextRecvPacketSequence ∧
      orderer.find frame.packetSequence = none ∧
      orderer.recvHoldingPackets.length <
        orderer.maxHoldingQueueSize.toNat then
    [frame.payload]
  else []

/-- The buffers that `OnReceive` frees: `ProcessHoldingPacket` frees each one
that it takes out of the queue when the callback returns. -/
def freed
    (callback : Buffer → PacketSequence → Bool)
    (orderer : Orderer Buffer)
    (frame : DataFrame Buffer) : List Buffer :=
  let first := processAndAdvance callback orderer frame
  if frame.packetSequence = orderer.nextRecvPacketSequence ∧ first.1 then
    (processHoldingPacket callback first.2).2.1.map DataFrame.payload
  else []

end Orderer

/-- The calls of an orderer.  `Initialize` is the reset to zero with a new
size. -/
inductive Label (Buffer : Type)
  | onReceive
      (frame : DataFrame Buffer)
      (callback : Buffer → PacketSequence → Bool)
  | reset (startSequence : PacketSequence)
  | initializeTo (maxHoldingQueueSize : Byte)

/-- An orderer with what its calls have done: what the callback was called for
since the last reset, the references added and freed, and the outcome of the last
call if it was `OnReceive`. -/
structure State (Buffer : Type) where
  orderer : Orderer Buffer
  startSequence : PacketSequence
  passed : List PacketSequence
  added : List Buffer
  freed : List Buffer
  outcome : Option (OnRecvResult × List (DataFrame Buffer))
  deriving DecidableEq

variable {Buffer : Type}

/-- An orderer that has just been made. -/
def State.initial (maxHoldingQueueSize : Byte) : State Buffer where
  orderer := ⟨0, [], maxHoldingQueueSize⟩
  startSequence := 0
  passed := []
  added := []
  freed := []
  outcome := none

/-- An orderer whose queue has been freed and that starts at a sequence. -/
def State.restart
    (state : State Buffer)
    (startSequence : PacketSequence)
    (orderer : Orderer Buffer) : State Buffer :=
  { orderer := orderer
    startSequence := startSequence
    passed := []
    added := state.added
    freed := state.freed ++ state.orderer.heldBuffers
    outcome := none }

/-- One call. -/
def State.call (state : State Buffer) : Label Buffer → State Buffer
  | .onReceive frame callback =>
      let outcome := state.orderer.onReceive callback frame
      { state with
        orderer := outcome.2.2
        passed :=
          state.passed ++ outcome.2.1.map DataFrame.packetSequence
        added := state.added ++ state.orderer.referenced frame
        freed := state.freed ++ state.orderer.freed callback frame
        outcome := some (outcome.1, outcome.2.1) }
  | .reset startSequence =>
      state.restart startSequence (state.orderer.reset startSequence)
  | .initializeTo maxHoldingQueueSize =>
      state.restart 0 (state.orderer.initializeTo maxHoldingQueueSize)

/-- The runs of an orderer. -/
def system (Buffer : Type) :
    TransitionSystem (State Buffer) (Label Buffer) where
  Initial state := ∃ maxHoldingQueueSize, state = .initial maxHoldingQueueSize
  step state label := some (state.call label)

/-! ## Delivery in order, once, and without leaks -/

/-- An orderer that passes on in order and once, holds nothing too long, refuses
only what is too much, and has one reference for each held packet. -/
structure DeliversInOrder (state : State Buffer) : Prop where
  consecutive :
    state.passed = serialsFrom state.startSequence state.passed.length
  once : state.passed.Nodup
  ahead :
    state.outcome.map Prod.fst ≠ some .errorOccured → state.orderer.AllAhead
  full :
    state.outcome = some (.errorOccured, []) →
      state.orderer.maxHoldingQueueSize.toNat ≤
        state.orderer.futureSequences.card
  references :
    state.added.Perm (state.freed ++ state.orderer.heldBuffers)

/-- The call of `OnReceive` returns an error before it comes to a held packet
that is at or before the expected sequence. -/
inductive Orderer.FailsFirst
    (callback : Buffer → PacketSequence → Bool)
    (orderer : Orderer Buffer)
    (frame : DataFrame Buffer) : Prop
  | callback
      (expected : frame.packetSequence = orderer.nextRecvPacketSequence)
      (fails : callback frame.payload frame.packetSequence = false)
  | drain
      (expected : frame.packetSequence = orderer.nextRecvPacketSequence)
      (missing : orderer.find orderer.nextRecvPacketSequence = none)
      (fails : DrainFails callback orderer.advance)
  | full
      (ahead :
        0 < signedDiff frame.packetSequence orderer.nextRecvPacketSequence)
      (missing : orderer.find frame.packetSequence = none)
      (capacity :
        orderer.maxHoldingQueueSize.toNat ≤ orderer.futureSequences.card)

/-- A call that finds no held sequence at or before the expected one, or that
fails first. -/
def State.Meets (state : State Buffer) : Label Buffer → Prop
  | .onReceive frame callback =>
      (state.orderer.AllAhead ∨ state.orderer.FailsFirst callback frame) ∧
        (frame.packetSequence = state.orderer.nextRecvPacketSequence →
          state.passed.length + 1 +
            state.orderer.recvHoldingPackets.length ≤ 2 ^ 64)
  | _ => True

/-- A call that finds no held sequence at or before the expected one. -/
def State.Stays (state : State Buffer) : Label Buffer → Prop
  | .onReceive _ _ =>
      state.orderer.AllAhead ∧
        state.passed.length + 1 +
          state.orderer.recvHoldingPackets.length ≤ 2 ^ 64
  | _ => True

instance (state : State Buffer) (label : Label Buffer) :
    Decidable (state.Stays label) :=
  match label with
  | .onReceive _ _ => inferInstanceAs (Decidable (_ ∧ _))
  | .reset _ => .isTrue trivial
  | .initializeTo _ => .isTrue trivial

theorem State.Meets.of_stays
    {state : State Buffer} {label : Label Buffer}
    (stays : state.Stays label) : state.Meets label := by
  cases label with
  | onReceive frame callback => exact ⟨.inl stays.1, fun _ => stays.2⟩
  | reset startSequence => trivial
  | initializeTo maxHoldingQueueSize => trivial

/-! ## One call -/

/-- A call with its outcome, and the references that it adds and frees, keeps what
the runs rely on. -/
structure Orderer.Keeps
    (orderer : Orderer Buffer)
    (outcome : OnRecvResult × List (DataFrame Buffer) × Orderer Buffer)
    (referenced freed : List Buffer) : Prop where
  sequences :
    outcome.2.1.map DataFrame.packetSequence =
      serialsFrom orderer.nextRecvPacketSequence outcome.2.1.length
  next :
    outcome.2.2.nextRecvPacketSequence =
      orderer.nextRecvPacketSequence + BitVec.ofNat 64 outcome.2.1.length
  count : outcome.2.1.length ≤ 1 + orderer.recvHoldingPackets.length
  unique : outcome.2.2.heldSequences.Nodup
  ahead : outcome.1 ≠ .errorOccured → outcome.2.2.AllAhead
  full :
    outcome.1 = .errorOccured → outcome.2.1 = [] →
      outcome.2.2.maxHoldingQueueSize.toNat ≤
        outcome.2.2.futureSequences.card
  references :
    (referenced ++ orderer.heldBuffers).Perm
      (freed ++ outcome.2.2.heldBuffers)

namespace Orderer

variable {callback : Buffer → PacketSequence → Bool}
variable {orderer : Orderer Buffer} {frame : DataFrame Buffer}

/-- A call that passes nothing on and holds nothing. -/
theorem Keeps.unchanged
    {result : OnRecvResult}
    (unique : orderer.heldSequences.Nodup)
    (ahead : result ≠ .errorOccured → orderer.AllAhead)
    (full : result = .errorOccured →
      orderer.maxHoldingQueueSize.toNat ≤ orderer.futureSequences.card) :
    orderer.Keeps (result, [], orderer) [] [] where
  sequences := rfl
  next := by simp
  count := Nat.zero_le _
  unique := unique
  ahead := ahead
  full fails _ := full fails
  references := .rfl

/-- A call whose packet has the expected sequence and whose callback fails. -/
theorem Keeps.failed
    (unique : orderer.heldSequences.Nodup)
    (expected : frame.packetSequence = orderer.nextRecvPacketSequence) :
    orderer.Keeps (.errorOccured, [frame], orderer.advance) [] [] where
  sequences := by simp [expected]
  next := rfl
  count := Nat.le_add_right 1 _
  unique := unique
  ahead noError := absurd rfl noError
  full _ nothing := nomatch nothing
  references := .rfl

/-- A call whose packet has the expected sequence and is followed by held
packets. -/
theorem Keeps.passed
    {drained : List (DataFrame Buffer)} {after : Orderer Buffer}
    {result : OnRecvResult}
    (unique : orderer.heldSequences.Nodup)
    (expected : frame.packetSequence = orderer.nextRecvPacketSequence)
    (drains : Drains orderer.advance drained after)
    (ahead : result ≠ .errorOccured → after.AllAhead) :
    orderer.Keeps (result, frame :: drained, after) []
      (drained.map DataFrame.payload) where
  sequences := by
    rw [List.map_cons, expected, drains.sequences, List.length_cons,
      serialsFrom_succ]
    rfl
  next := by
    change after.nextRecvPacketSequence =
      orderer.nextRecvPacketSequence + BitVec.ofNat 64 (drained.length + 1)
    rw [drains.next, ← add_one_add_ofNat]
    rfl
  count := by
    have length := drains.held.length_eq
    change orderer.recvHoldingPackets.length = _ at length
    rw [List.length_append] at length
    rw [List.length_cons]
    omega
  unique := by
    have sequences := drains.held.map DataFrame.packetSequence
    rw [List.map_append] at sequences
    exact (sequences.nodup_iff.mp unique).of_append_right
  ahead := ahead
  full _ nothing := nomatch nothing
  references := by
    have buffers := drains.held.map DataFrame.payload
    rwa [List.map_append] at buffers

/-- A call that holds its packet. -/
theorem Keeps.held
    (unique : orderer.heldSequences.Nodup)
    (ahead : orderer.AllAhead)
    (later :
      0 < signedDiff frame.packetSequence orderer.nextRecvPacketSequence)
    (missing : orderer.find frame.packetSequence = none) :
    orderer.Keeps
      (.packetHeld, [],
        { orderer with
          recvHoldingPackets := frame :: orderer.recvHoldingPackets })
      [frame.payload] [] where
  sequences := rfl
  next := by simp
  count := Nat.zero_le _
  unique := List.nodup_cons.mpr ⟨not_mem_of_lookup missing, unique⟩
  ahead _ := List.forall_mem_cons.mpr ⟨later, ahead⟩
  full fails := nomatch fails
  references := .rfl

/-- A sequence at no distance is the expected one. -/
theorem expected_iff :
    signedDiff frame.packetSequence orderer.nextRecvPacketSequence = 0 ↔
      frame.packetSequence = orderer.nextRecvPacketSequence :=
  ⟨eq_of_signedDiff_eq_zero, fun same => by rw [same, signedDiff_self]⟩

/-- If every held sequence is ahead, the queue is full with distinct future
sequences. -/
theorem AllAhead.card_futureSequences
    (ahead : orderer.AllAhead)
    (unique : orderer.heldSequences.Nodup) :
    orderer.futureSequences.card = orderer.recvHoldingPackets.length := by
  have all : orderer.futureSequences = orderer.heldSequences.toFinset :=
    Finset.filter_true_of_mem fun packetSequence member =>
      ahead packetSequence (List.mem_toFinset.mp member)
  rw [all, List.toFinset_card_of_nodup unique, heldSequences,
    List.length_map]

/-- What the queue holds ahead is no more than what it holds. -/
theorem card_futureSequences_le :
    orderer.futureSequences.card ≤ orderer.recvHoldingPackets.length := by
  refine (Finset.card_filter_le _ _).trans
    ((List.toFinset_card_le _).trans_eq ?_)
  rw [heldSequences, List.length_map]

/-- A call with a packet that is not the expected one frees nothing. -/
theorem freed_of_ne
    (other : frame.packetSequence ≠ orderer.nextRecvPacketSequence) :
    orderer.freed callback frame = [] :=
  if_neg fun both => other both.1

/-- A call with a packet that is not ahead adds no reference. -/
theorem referenced_of_not_ahead
    (notAhead :
      ¬ 0 < signedDiff frame.packetSequence orderer.nextRecvPacketSequence) :
    orderer.referenced frame = [] :=
  if_neg fun all => notAhead all.1

/-- A call of `OnReceive` with the expected sequence. -/
theorem keeps_expected
    (unique : orderer.heldSequences.Nodup)
    (expected : frame.packetSequence = orderer.nextRecvPacketSequence)
    (meets : orderer.AllAhead ∨ orderer.FailsFirst callback frame) :
    orderer.Keeps (orderer.onReceive callback frame)
      (orderer.referenced frame) (orderer.freed callback frame) := by
  have none := expected_iff.mpr expected
  rw [referenced_of_not_ahead (by omega)]
  cases called : callback frame.payload frame.packetSequence with
  | false =>
      have first :
          processAndAdvance callback orderer frame =
            (false, orderer.advance) := by
        simp [processAndAdvance, called, advance]
      have value :
          orderer.onReceive callback frame =
            (.errorOccured, [frame], orderer.advance) := by
        simp [onReceive, none, first]
      have nothing : orderer.freed callback frame = [] := by
        simp [freed, first]
      rw [value, nothing]
      exact .failed unique expected
  | true =>
      have missing :
          orderer.find orderer.nextRecvPacketSequence = .none := by
        rcases meets with ahead | fails
        · exact ahead.find_eq_none
        · cases fails with
          | callback _ fails => exact absurd (called.symm.trans fails) (by simp)
          | drain _ missing _ => exact missing
          | full later _ _ => omega
      have first :
          processAndAdvance callback orderer frame =
            (true, orderer.advance) := by
        rw [processAndAdvance_of_find_eq_none (expected ▸ missing), called]
      have value :
          orderer.onReceive callback frame =
            (if (processHoldingPacket callback orderer.advance).1 then
                .processed
              else .errorOccured,
              frame :: (processHoldingPacket callback orderer.advance).2.1,
              (processHoldingPacket callback orderer.advance).2.2) := by
        simp [onReceive, none, first]
      have drained :
          orderer.freed callback frame =
            (processHoldingPacket callback orderer.advance).2.1.map
              DataFrame.payload := by
        simp [freed, first, expected]
      rw [value, drained]
      refine .passed unique expected (processHoldingPacket_drains unique)
        fun noError => ?_
      have succeeded :
          (processHoldingPacket callback orderer.advance).1 = true := by
        by_contra fails
        exact noError (if_neg fails)
      rcases meets with ahead | fails
      · exact processHoldingPacket_allAhead
          (fun _ member => ahead.weaken member) succeeded
      · cases fails with
        | callback _ fails => exact absurd (called.symm.trans fails) (by simp)
        | drain _ _ fails =>
            exact absurd
              (succeeded.symm.trans (processHoldingPacket_of_drainFails fails))
              (by simp)
        | full later _ _ => omega

/-- A call with another sequence finds every held sequence ahead, or the queue full
of future sequences. -/
theorem allAhead_or_full
    (other : frame.packetSequence ≠ orderer.nextRecvPacketSequence)
    (meets : orderer.AllAhead ∨ orderer.FailsFirst callback frame) :
    orderer.AllAhead ∨
      0 < signedDiff frame.packetSequence orderer.nextRecvPacketSequence ∧
        orderer.find frame.packetSequence = none ∧
        orderer.maxHoldingQueueSize.toNat ≤ orderer.futureSequences.card := by
  rcases meets with ahead | fails
  · exact .inl ahead
  · cases fails with
    | callback expected _ => exact absurd expected other
    | drain expected _ _ => exact absurd expected other
    | full later missing capacity => exact .inr ⟨later, missing, capacity⟩

/-- A call of `OnReceive` with another sequence. -/
theorem keeps_other
    (unique : orderer.heldSequences.Nodup)
    (other : frame.packetSequence ≠ orderer.nextRecvPacketSequence)
    (meets : orderer.AllAhead ∨ orderer.FailsFirst callback frame) :
    orderer.Keeps (orderer.onReceive callback frame)
      (orderer.referenced frame) (orderer.freed callback frame) := by
  rw [freed_of_ne other]
  have situation := allAhead_or_full other meets
  by_cases behind :
      signedDiff frame.packetSequence orderer.nextRecvPacketSequence < 0
  · have value :
        orderer.onReceive callback frame =
          (.duplicatedRecv, [], orderer) := by
      simp [onReceive, behind]
    have ahead : orderer.AllAhead :=
      situation.resolve_right fun full => absurd behind full.1.asymm
    rw [value, referenced_of_not_ahead (by omega)]
    exact .unchanged unique (fun _ => ahead) nofun
  · have different :
        signedDiff frame.packetSequence orderer.nextRecvPacketSequence ≠ 0 :=
      fun none => other (expected_iff.mp none)
    have later :
        0 < signedDiff frame.packetSequence
          orderer.nextRecvPacketSequence := by
      omega
    cases found : orderer.find frame.packetSequence with
    | some stored =>
        have value :
            orderer.onReceive callback frame = (.packetHeld, [], orderer) := by
          simp [onReceive, behind, different, found]
        have nothing : orderer.referenced frame = [] := by
          simp [referenced, found]
        have ahead : orderer.AllAhead :=
          situation.resolve_right fun full =>
            absurd (found.symm.trans full.2.1) nofun
        rw [value, nothing]
        exact .unchanged unique (fun _ => ahead) nofun
    | none =>
        by_cases full :
            orderer.maxHoldingQueueSize.toNat ≤
              orderer.recvHoldingPackets.length
        · have value :
              orderer.onReceive callback frame =
                (.errorOccured, [], orderer) := by
            simp [onReceive, behind, different, found, full]
          have nothing : orderer.referenced frame = [] := by
            simp [referenced, found, full]
          rw [value, nothing]
          refine .unchanged unique (fun noError => absurd rfl noError)
            fun _ => ?_
          rcases situation with ahead | ⟨-, -, capacity⟩
          · rwa [ahead.card_futureSequences unique]
          · exact capacity
        · have value :
              orderer.onReceive callback frame =
                (.packetHeld, [],
                  { orderer with
                    recvHoldingPackets :=
                      frame :: orderer.recvHoldingPackets }) := by
            simp [onReceive, behind, different, found, full]
          have added : orderer.referenced frame = [frame.payload] := by
            simp [referenced, found, full, later, Nat.lt_of_not_le]
          have ahead : orderer.AllAhead :=
            situation.resolve_right fun ⟨_, _, capacity⟩ =>
              full (capacity.trans card_futureSequences_le)
          rw [value, added]
          exact .held unique ahead later found

/-- A call of `OnReceive` that finds no held sequence at or before the expected
one, or that fails first. -/
theorem keeps_onReceive
    (unique : orderer.heldSequences.Nodup)
    (meets : orderer.AllAhead ∨ orderer.FailsFirst callback frame) :
    orderer.Keeps (orderer.onReceive callback frame)
      (orderer.referenced frame) (orderer.freed callback frame) := by
  by_cases expected : frame.packetSequence = orderer.nextRecvPacketSequence
  · exact keeps_expected unique expected meets
  · exact keeps_other unique expected meets

/-- A call with another sequence passes nothing on. -/
theorem onReceive_passes_nothing
    (other : frame.packetSequence ≠ orderer.nextRecvPacketSequence) :
    (orderer.onReceive callback frame).2.1 = [] := by
  have different := mt expected_iff.mp other
  unfold onReceive
  simp only [if_neg different]
  split_ifs <;> rfl

end Orderer

/-! ## Whole runs -/

/-- What every run whose calls meet the condition keeps. -/
structure Kept (state : State Buffer) : Prop where
  next :
    state.orderer.nextRecvPacketSequence =
      state.startSequence + BitVec.ofNat 64 state.passed.length
  small : state.passed.length ≤ 2 ^ 64
  unique : state.orderer.heldSequences.Nodup
  delivers : DeliversInOrder state

/-- An orderer with an empty queue that starts at a sequence. -/
theorem kept_of_empty
    {state : State Buffer}
    (passed : state.passed = [])
    (starts : state.orderer.nextRecvPacketSequence = state.startSequence)
    (empty : state.orderer.recvHoldingPackets = [])
    (noOutcome : state.outcome = none)
    (references : state.added.Perm state.freed) :
    Kept state where
  next := by simp [passed, starts]
  small := by simp [passed]
  unique := by simp [Orderer.heldSequences, empty]
  delivers :=
    { consecutive := by simp [passed]
      once := by simp [passed]
      ahead := fun _ => by simp [Orderer.AllAhead, Orderer.heldSequences, empty]
      full := fun called => nomatch noOutcome.symm.trans called
      references := by simpa [Orderer.heldBuffers, empty] using references }

/-- A call of `OnReceive`. -/
theorem Kept.onReceive
    {state : State Buffer}
    (kept : Kept state)
    {frame : DataFrame Buffer}
    {callback : Buffer → PacketSequence → Bool}
    (meets : state.Meets (.onReceive frame callback)) :
    Kept (state.call (.onReceive frame callback)) := by
  obtain ⟨condition, room⟩ := meets
  have keeps := Orderer.keeps_onReceive kept.unique condition
  have passed :
      (state.call (.onReceive frame callback)).passed =
        serialsFrom state.startSequence
          (state.call (.onReceive frame callback)).passed.length := by
    change state.passed ++ _ =
      serialsFrom _ (state.passed ++ List.map _ _).length
    rw [List.length_append, List.length_map, serialsFrom_add,
      ← kept.delivers.consecutive, ← kept.next, keeps.sequences]
  have small :
      (state.call (.onReceive frame callback)).passed.length ≤ 2 ^ 64 := by
    change (state.passed ++ List.map _ _).length ≤ _
    rw [List.length_append, List.length_map]
    by_cases expected :
        frame.packetSequence = state.orderer.nextRecvPacketSequence
    · have bound := keeps.count
      have capacity := room expected
      omega
    · rw [Orderer.onReceive_passes_nothing expected]
      exact kept.small
  refine
    { next := ?_
      small := small
      unique := keeps.unique
      delivers :=
        { consecutive := passed
          once := passed ▸ nodup_serialsFrom _ small
          ahead := fun noError =>
            keeps.ahead fun fails => noError (congrArg some fails)
          full := fun fails => ?_
          references := ?_ } }
  · change (state.orderer.onReceive callback frame).2.2.nextRecvPacketSequence =
      state.startSequence +
        BitVec.ofNat 64 (state.passed ++ List.map _ _).length
    rw [keeps.next, kept.next, List.length_append, List.length_map,
      BitVec.ofNat_add, add_assoc]
  · obtain ⟨error, nothing⟩ := Prod.mk.inj (Option.some.inj fails)
    exact keeps.full error nothing
  · have before := kept.delivers.references
    change (state.added ++ state.orderer.referenced frame).Perm
      (state.freed ++ state.orderer.freed callback frame ++
        (state.orderer.onReceive callback frame).2.2.heldBuffers)
    refine (before.append_right _).trans ?_
    rw [List.append_assoc, List.append_assoc]
    exact (List.perm_append_comm.trans keeps.references).append_left _

/-- A call that meets the condition. -/
theorem Kept.call
    {state : State Buffer}
    (kept : Kept state)
    {label : Label Buffer}
    (meets : state.Meets label) :
    Kept (state.call label) := by
  cases label with
  | onReceive frame callback => exact kept.onReceive meets
  | reset startSequence =>
      exact kept_of_empty rfl rfl rfl rfl kept.delivers.references
  | initializeTo maxHoldingQueueSize =>
      exact kept_of_empty rfl rfl rfl rfl kept.delivers.references

/-- In every run in which each call of `OnReceive` finds no held sequence at or
before the expected one, or fails first, the orderer delivers in order, once, and
leaks nothing. -/
theorem delivers_in_order_while_ahead
    {state : State Buffer}
    (reached : (system Buffer).GuardedReachable State.Meets state) :
    DeliversInOrder state := by
  have kept : Kept state := by
    refine reached.invariant (fun initial begins => ?_)
      fun before label after _ kept meets moves => ?_
    · obtain ⟨maxHoldingQueueSize, rfl⟩ := begins
      exact kept_of_empty rfl rfl rfl rfl .rfl
    · obtain rfl := Option.some.inj moves
      exact kept.call meets
  exact kept.delivers

/-- A callback that always succeeds, or always fails. -/
def always (succeeds : Bool) : Nat → PacketSequence → Bool :=
  fun _ _ => succeeds

/-- A packet is held, and the callback fails for the one before it. -/
def failedState : State Nat :=
  [.reset 1, .onReceive ⟨2, 20⟩ (always true),
    .onReceive ⟨1, 10⟩ (always false)].foldl State.call (.initial 8)

/-- The held packet arrives once more. -/
def leakedState : State Nat :=
  failedState.call (.onReceive ⟨2, 21⟩ (always true))

/-- The packet after the held one arrives. -/
def staleState : State Nat :=
  failedState.call (.onReceive ⟨3, 30⟩ (always true))

/-- After a callback that fails a held packet can leave the queue without being
freed, and can stay held at the expected sequence. -/
theorem orderer_leaks_after_failed_callback :
    ((system Nat).Reachable leakedState ∧ leakedState.added = [20] ∧
      leakedState.freed = [] ∧ leakedState.orderer.heldBuffers = [] ∧
      ¬ DeliversInOrder leakedState) ∧
    ((system Nat).Reachable staleState ∧
      staleState.outcome = some (.packetHeld, []) ∧
      staleState.orderer.nextRecvPacketSequence = 2 ∧
      2 ∈ staleState.orderer.heldSequences ∧
      ¬ DeliversInOrder staleState) := by
  have failed : (system Nat).Reachable failedState :=
    TransitionSystem.Reachable.run (.initial ⟨8, rfl⟩)
      (show (system Nat).run _
        [.reset 1, .onReceive ⟨2, 20⟩ (always true),
          .onReceive ⟨1, 10⟩ (always false)] = some failedState from rfl)
  have leaked : (system Nat).Reachable leakedState :=
    failed.step (show (system Nat).step failedState
      (.onReceive ⟨2, 21⟩ (always true)) = some leakedState from rfl)
  have stale : (system Nat).Reachable staleState :=
    failed.step (show (system Nat).step failedState
      (.onReceive ⟨3, 30⟩ (always true)) = some staleState from rfl)
  have next : staleState.orderer.nextRecvPacketSequence = 2 := by decide
  have held : 2 ∈ staleState.orderer.heldSequences := by decide
  have outcome : staleState.outcome = some (.packetHeld, []) := by decide
  refine ⟨⟨leaked, by decide +kernel, by decide +kernel, by decide +kernel,
    fun delivers => ?_⟩, stale, outcome, next, held, fun delivers => ?_⟩
  · exact absurd delivers.references (by decide +kernel)
  · have ahead := delivers.ahead (by rw [outcome]; decide) 2 held
    rw [next, signedDiff_self] at ahead
    exact absurd ahead (lt_irrefl 0)

/-- Sequences that pass the greatest one, and a callback that fails at the end. -/
def wrappingCalls : List (Label Nat) :=
  [.reset (BitVec.ofNat 64 (2 ^ 64 - 1)), .onReceive ⟨0, 20⟩ (always true),
    .onReceive ⟨BitVec.ofNat 64 (2 ^ 64 - 1), 10⟩ (always true),
    .onReceive ⟨1, 30⟩ (always false)]

/-- The state after these calls. -/
def wrappedState : State Nat :=
  wrappingCalls.foldl State.call (.initial 8)

theorem delivers_in_order_wrapping : DeliversInOrder wrappedState :=
  delivers_in_order_while_ahead
    (TransitionSystem.GuardedReachable.guardedRun_of_imp
      (fun _ _ => State.Meets.of_stays) (.initial ⟨8, rfl⟩)
      (show (system Nat).guardedRun State.Stays (.initial 8) wrappingCalls =
        some wrappedState by decide +kernel))

end SessionPacketOrderer
end MultiSocketRudp
