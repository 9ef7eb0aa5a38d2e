import MultiSocketRudp.Common.ReceiveWindow
import MultiSocketRudp.Lib.Ring
import Mathlib.Data.Finset.Card
import Mathlib.Order.Lattice.Nat

/-!
# The receive window as a set of sequences

A receive window is a set of sequences not far ahead of its start.  Receiving the
start moves it behind the longest run of received sequences.  The ring of flags
represents such a set through every call of `MarkReceived` and `Reset`, and through
a resize that leaves every flag at its place.
-/

namespace MultiSocketRudp

open Ring SerialNumber

/-! ## Sequences from a start on -/

/-- How far a sequence is ahead of a start. -/
def distance (start sequence : PacketSequence) : Nat :=
  (sequence - start).toNat

/-- The sequence that is this far ahead of a start. -/
def ahead (start : PacketSequence) (distance : Nat) : PacketSequence :=
  start + BitVec.ofNat 64 distance

@[simp] theorem ahead_zero (start : PacketSequence) : ahead start 0 = start := by
  simp [ahead]

theorem ahead_distance (start sequence : PacketSequence) :
    ahead start (distance start sequence) = sequence := by
  rw [ahead, distance, BitVec.ofNat_toNat, BitVec.setWidth_eq]
  exact add_sub_cancel start sequence

theorem distance_ahead
    (start : PacketSequence)
    {place : Nat}
    (small : place < 2 ^ 64) :
    distance start (ahead start place) = place := by
  rw [ahead, distance, add_sub_cancel_left, BitVec.toNat_ofNat,
    Nat.mod_eq_of_lt small]

theorem ahead_add (start : PacketSequence) (first second : Nat) :
    ahead (ahead start first) second = ahead start (first + second) := by
  rw [ahead, ahead, ahead, BitVec.ofNat_add, add_assoc]

/-- A sequence comes closer when the start moves on, but not past it. -/
theorem distance_ahead_left
    (start sequence : PacketSequence)
    {place : Nat}
    (behind : place ≤ distance start sequence) :
    distance (ahead start place) sequence =
      distance start sequence - place := by
  have total : place + (distance start sequence - place) =
      distance start sequence := Nat.add_sub_cancel' behind
  have bound : distance start sequence < 2 ^ 64 := BitVec.isLt _
  conv_lhs =>
    rw [← ahead_distance start sequence, ← total, ← ahead_add]
  exact distance_ahead _ (by omega)

theorem distance_inj
    {start first second : PacketSequence}
    (same : distance start first = distance start second) :
    first = second := by
  rw [← ahead_distance start first, same, ahead_distance]

/-! ## The abstract window -/

/-- The sequences that have been received ahead of a start. -/
structure AbstractWindow where
  start : PacketSequence
  size : Nat
  received : Finset PacketSequence
  small : size < 2 ^ 8
  inside : ∀ sequence ∈ received, distance start sequence < size
  missing : start ∉ received

/-- The length of the run of received sequences from the start on. -/
noncomputable def runLength
    (start : PacketSequence) (received : Finset PacketSequence) : Nat :=
  sInf {length | ahead start length ∉ received}

theorem runLength_eq
    {start : PacketSequence}
    {received : Finset PacketSequence}
    {length : Nat}
    (run : ∀ place < length, ahead start place ∈ received)
    (stops : ahead start length ∉ received) :
    runLength start received = length := by
  refine le_antisymm (Nat.sInf_le stops) ?_
  refine le_csInf ⟨length, stops⟩ fun other ends => ?_
  by_contra shorter
  exact ends (run other (Nat.not_le.mp shorter))

/-- The run ends, since something has not been received. -/
theorem ahead_runLength_notMem
    {start : PacketSequence}
    {received : Finset PacketSequence}
    {size : Nat}
    (small : size < 2 ^ 8)
    (inside : ∀ sequence ∈ received, distance start sequence < size) :
    ahead start (runLength start received) ∉ received := by
  have ends : size ∈ {length | ahead start length ∉ received} := by
    intro member
    have close := inside _ member
    rw [distance_ahead start (small.trans (by decide))] at close
    exact Nat.lt_irrefl _ close
  exact Nat.sInf_mem ⟨size, ends⟩

namespace AbstractWindow

/-- A window in which nothing has been received. -/
def empty (start : PacketSequence) (size : Byte) : AbstractWindow where
  start := start
  size := size.toNat
  received := ∅
  small := size.isLt
  inside := nofun
  missing := nofun

/-- A sequence of the window is received, and the start moves behind the run of
received sequences. -/
noncomputable def receive
    (window : AbstractWindow) (sequence : PacketSequence) : AbstractWindow :=
  if close : distance window.start sequence < window.size then
    let received := insert sequence window.received
    have inside : ∀ other ∈ received,
        distance window.start other < window.size := fun other member =>
      (Finset.mem_insert.mp member).elim (fun same => same ▸ close)
        (window.inside other)
    { start := ahead window.start (runLength window.start received)
      size := window.size
      received := received.filter fun other =>
        runLength window.start received ≤ distance window.start other
      small := window.small
      inside := fun other member => by
        obtain ⟨present, behind⟩ := Finset.mem_filter.mp member
        rw [distance_ahead_left window.start other behind]
        exact (Nat.sub_le _ _).trans_lt (inside other present)
      missing := fun member =>
        ahead_runLength_notMem window.small inside
          (Finset.mem_filter.mp member).1 }
  else window

/-- The window starts again somewhere else. -/
def reset (window : AbstractWindow) (start : PacketSequence) : AbstractWindow where
  start := start
  size := window.size
  received := ∅
  small := window.small
  inside := nofun
  missing := nofun

/-- The window gets another size and keeps what still fits. -/
def resize (window : AbstractWindow) (size : Byte) : AbstractWindow where
  start := window.start
  size := size.toNat
  received := window.received.filter fun sequence =>
    distance window.start sequence < size.toNat
  small := size.isLt
  inside _ member := (Finset.mem_filter.mp member).2
  missing member := window.missing (Finset.mem_filter.mp member).1

end AbstractWindow

/-- What it means that a receive window represents an abstract one. -/
structure Represents
    (window : RudpReceiveWindow) (abstract : AbstractWindow) : Prop where
  start : window.windowStart = abstract.start
  size : window.windowSize.toNat = abstract.size
  flags_length : window.receivedFlags.length = abstract.size
  startIndex : window.startIndex < abstract.size
  flags : ∀ place < abstract.size,
    flagAt window.receivedFlags window.startIndex place = true ↔
      ahead abstract.start place ∈ abstract.received
  used : window.usedCount.toNat = abstract.received.card
  advertised : window.getAdvertiseWindow.toNat =
    abstract.size - abstract.received.card
  /-- The loop that moves the start has come to its end. -/
  settled : window.startFlag = false

/-! ## Runs -/

/-- A call of a member function.  `Initialize` is a reset to zero and a resize. -/
inductive WindowCall
  | markReceived (inSequence : PacketSequence)
  | reset (startSequence : PacketSequence)
  | resizeRecvWindowSize (recvWindowSize : Byte)
  deriving DecidableEq, Repr

namespace WindowCall

def run (window : RudpReceiveWindow) : WindowCall → RudpReceiveWindow
  | .markReceived inSequence => window.markReceived inSequence
  | .reset startSequence => window.reset startSequence
  | .resizeRecvWindowSize recvWindowSize =>
      window.resizeRecvWindowSize recvWindowSize

noncomputable def runAbstract
    (window : AbstractWindow) : WindowCall → AbstractWindow
  | .markReceived inSequence => window.receive inSequence
  | .reset startSequence => window.reset startSequence
  | .resizeRecvWindowSize recvWindowSize => window.resize recvWindowSize

end WindowCall

/-- A resize changes nothing, or keeps the start and all flags of the window at
their indices. -/
def KeepsPlaces (window : RudpReceiveWindow) : WindowCall → Prop
  | .markReceived _ | .reset _ => True
  | .resizeRecvWindowSize recvWindowSize =>
      recvWindowSize = window.windowSize ∨
        window.startIndex < recvWindowSize.toNat ∧
          ∀ index < window.receivedFlags.length,
            window.receivedFlags.getD index false = true →
            window.startIndex ≤ index ∧ index < recvWindowSize.toNat

instance (window : RudpReceiveWindow) :
    (call : WindowCall) → Decidable (KeepsPlaces window call)
  | .markReceived _ | .reset _ => .isTrue trivial
  | .resizeRecvWindowSize recvWindowSize =>
      inferInstanceAs (Decidable (recvWindowSize = window.windowSize ∨ _))

/-! ## The loop -/

/-- The flags of a window show this set of sequences, which can contain the
start. -/
structure Shows
    (window : RudpReceiveWindow)
    (start : PacketSequence) (received : Finset PacketSequence) : Prop where
  windowStart : window.windowStart = start
  length : window.receivedFlags.length = window.windowSize.toNat
  startIndex : window.startIndex < window.windowSize.toNat
  flags : ∀ place < window.windowSize.toNat,
    flagAt window.receivedFlags window.startIndex place = true ↔
      ahead start place ∈ received
  used : window.usedCount.toNat = received.card
  inside : ∀ sequence ∈ received,
    distance start sequence < window.windowSize.toNat

theorem windowSize_lt (window : RudpReceiveWindow) :
    window.windowSize.toNat < 2 ^ 64 :=
  window.windowSize.isLt.trans (by decide)

/-- No more sequences are received than the window is large. -/
theorem card_le_of_inside
    {start : PacketSequence}
    {size : Nat}
    {received : Finset PacketSequence}
    (inside : ∀ sequence ∈ received, distance start sequence < size) :
    received.card ≤ size := by
  have bound := Finset.card_le_card_of_injOn (t := Finset.range size)
    (distance start)
    (fun sequence member => Finset.mem_coe.mpr
      (Finset.mem_range.mpr (inside sequence member)))
    (fun _ _ _ _ same => distance_inj same)
  rwa [Finset.card_range] at bound

namespace Shows

variable {window : RudpReceiveWindow} {start : PacketSequence}
variable {received : Finset PacketSequence}

theorem startFlag_eq
    (shows : Shows window start received) :
    window.startFlag = flagAt window.receivedFlags window.startIndex 0 := by
  rw [RudpReceiveWindow.startFlag, flagAt, index, Nat.add_zero,
    Nat.mod_eq_of_lt (shows.length ▸ shows.startIndex)]

theorem startFlag_iff
    (shows : Shows window start received) :
    window.startFlag = true ↔ start ∈ received := by
  have inside := Nat.zero_lt_of_lt shows.startIndex
  rw [shows.startFlag_eq, shows.flags 0 inside, ahead_zero]

/-- Without the flag of the start. -/
theorem flags_erase
    (shows : Shows window start received)
    {place : Nat}
    (bound : place < window.windowSize.toNat) :
    flagAt (window.receivedFlags.set window.startIndex false)
        window.startIndex (place + 1) = true ↔
      ahead start (place + 1) ∈ received.erase start := by
  have inside := Nat.zero_lt_of_lt shows.startIndex
  have small := windowSize_lt window
  have first : index window.receivedFlags.length window.startIndex 0 =
      window.startIndex := by
    rw [shows.length]
    exact index_of_lt shows.startIndex
  by_cases last : place + 1 = window.windowSize.toNat
  · -- The place behind the last one is that of the start.
    have around := flagAt_length
      (window.receivedFlags.set window.startIndex false) window.startIndex
    have cleared := flagAt_set window.startIndex false
      (shows.length ▸ inside) (shows.length ▸ inside)
    rw [first, if_pos rfl] at cleared
    rw [List.length_set, shows.length, ← last, cleared] at around
    rw [around, iff_false_left Bool.false_ne_true, Finset.mem_erase]
    rintro ⟨-, member⟩
    have close := shows.inside _ member
    rw [distance_ahead start (by omega)] at close
    omega
  · have further : place + 1 < window.receivedFlags.length := by
      rw [shows.length]
      omega
    have others := flagAt_set window.startIndex false
      (shows.length ▸ inside) further
    rw [first, if_neg (Nat.succ_ne_zero place)] at others
    have apart : ahead start (place + 1) ≠ start := fun same => by
      have far := distance_ahead start (by omega : place + 1 < 2 ^ 64)
      rw [same, distance, sub_self] at far
      exact absurd far (Nat.succ_ne_zero place).symm
    rw [others, shows.flags _ (by omega), Finset.mem_erase]
    exact ⟨fun member => ⟨apart, member⟩, fun member => member.2⟩

/-- One iteration drops the start. -/
theorem advance
    (shows : Shows window start received)
    (set : window.startFlag = true) :
    Shows window.advance (ahead start 1) (received.erase start) := by
  have member := shows.startFlag_iff.mp set
  have inside := Nat.zero_lt_of_lt shows.startIndex
  have small := windowSize_lt window
  have first : index window.receivedFlags.length window.startIndex 0 =
      window.startIndex := by
    rw [shows.length]
    exact index_of_lt shows.startIndex
  exact
    { windowStart := by
        change window.windowStart + 1 = ahead start 1
        rw [shows.windowStart]
        rfl
      length := by
        change (window.receivedFlags.set _ _).length = _
        rw [List.length_set]
        exact shows.length
      startIndex := Nat.mod_lt _ inside
      flags := fun place bound => by
        change place < window.windowSize.toNat at bound
        change flagAt (window.receivedFlags.set window.startIndex false)
          ((window.startIndex + 1) % window.windowSize.toNat) place = true ↔ _
        have next := flagAt_next
          (window.receivedFlags.set window.startIndex false) window.startIndex
          place
        rw [List.length_set, shows.length] at next
        rw [next, ahead_add, Nat.add_comm 1]
        exact shows.flags_erase (by omega)
      used := by
        have positive := Finset.card_pos.mpr ⟨start, member⟩
        have one : (1 : Byte).toNat = 1 := rfl
        have used := shows.used
        change (window.usedCount - 1).toNat = _
        rw [Finset.card_erase_of_mem member, BitVec.toNat_sub_of_le ?_, one,
          used]
        rw [BitVec.le_def]
        omega
      inside := fun sequence kept => by
        obtain ⟨other, present⟩ := Finset.mem_erase.mp kept
        have close := shows.inside sequence present
        have apart : distance start sequence ≠ 0 := fun zero => other (by
          rw [← ahead_distance start sequence, zero, ahead_zero])
        change distance (ahead start 1) sequence < window.windowSize.toNat
        rw [distance_ahead_left _ _ (by omega)]
        omega }

/-- The loop drops a run of received sequences. -/
theorem slide
    (shows : Shows window start received)
    (bound : Nat) :
    ∃ run,
      Shows (RudpReceiveWindow.slide bound window) (ahead start run)
        (received.filter fun sequence => run ≤ distance start sequence) ∧
      ∀ place < run, ahead start place ∈ received := by
  induction bound generalizing window start received with
  | zero =>
      refine ⟨0, ?_, nofun⟩
      simpa [RudpReceiveWindow.slide] using shows
  | succ bound inductionHypothesis =>
      rw [RudpReceiveWindow.slide]
      split
      case isTrue set =>
        obtain ⟨run, after, before⟩ := inductionHypothesis (shows.advance set)
        refine ⟨run + 1, ?_, fun place inside => ?_⟩
        · rw [ahead_add, Nat.add_comm 1] at after
          have same : ((received.erase start).filter fun sequence =>
                run ≤ distance (ahead start 1) sequence) =
              received.filter fun sequence =>
                run + 1 ≤ distance start sequence := by
            ext sequence
            rw [Finset.mem_filter, Finset.mem_filter, Finset.mem_erase]
            by_cases first : sequence = start
            · subst first
              simp [distance]
            · have apart : distance start sequence ≠ 0 := fun zero => first (by
                rw [← ahead_distance start sequence, zero, ahead_zero])
              rw [distance_ahead_left _ _ (by omega)]
              simp only [first, ne_eq, not_false_eq_true, true_and]
              exact and_congr_right fun _ => by omega
          rwa [same] at after
        · cases place with
          | zero => rw [ahead_zero]; exact shows.startFlag_iff.mp set
          | succ place =>
              have member := before place (by omega)
              rw [ahead_add, Nat.add_comm 1] at member
              exact Finset.mem_of_mem_erase member
      case isFalse unset =>
        refine ⟨0, ?_, nofun⟩
        simpa using shows

/-- What the loop leaves is what has not been passed. -/
theorem slideAll
    (shows : Shows window start received) :
    Shows window.slideAll (ahead start (runLength start received))
        (received.filter fun sequence =>
          runLength start received ≤ distance start sequence) := by
  obtain ⟨run, after, before⟩ := shows.slide (window.receivedFlags.count true)
  have small := windowSize_lt window
  have bound : run ≤ window.windowSize.toNat := by
    by_contra longer
    have close := shows.inside _ (before _ (Nat.not_le.mp longer))
    rw [distance_ahead start small] at close
    exact Nat.lt_irrefl _ close
  have stops : ahead start run ∉ received := by
    intro member
    have set := after.startFlag_iff.mpr (Finset.mem_filter.mpr
      ⟨member, (distance_ahead start (by omega)).ge⟩)
    exact Bool.false_ne_true (window.startFlag_slideAll.symm.trans set)
  rw [runLength_eq before stops]
  exact after

end Shows

/-! ## The calls -/

theorem windowSize_slide (bound : Nat) (window : RudpReceiveWindow) :
    (RudpReceiveWindow.slide bound window).windowSize = window.windowSize := by
  induction bound generalizing window with
  | zero => rfl
  | succ bound inductionHypothesis =>
      rw [RudpReceiveWindow.slide]
      split
      · exact inductionHypothesis window.advance
      · rfl

/-- A sequence can be received when it is not further ahead than the window is
large. -/
theorem canReceive_iff (window : RudpReceiveWindow) (inSequence : PacketSequence) :
    window.canReceive inSequence = true ↔
      distance window.windowStart inSequence < window.windowSize.toNat := by
  have size := window.windowSize.isLt
  have bound : distance window.windowStart inSequence < 2 ^ 64 :=
    BitVec.isLt _
  have signed : signedDiff inSequence window.windowStart =
      if 2 * distance window.windowStart inSequence < 2 ^ 64 then
        (distance window.windowStart inSequence : Int)
      else distance window.windowStart inSequence - (2 ^ 64 : Nat) :=
    BitVec.toInt_eq_toNat_cond _
  simp only [RudpReceiveWindow.canReceive, decide_eq_true_eq, signed]
  split <;> omega

/-- Then its offset is its distance. -/
theorem signedDiff_of_canReceive
    {window : RudpReceiveWindow}
    {inSequence : PacketSequence}
    (close : distance window.windowStart inSequence <
      window.windowSize.toNat) :
    (signedDiff inSequence window.windowStart).toNat =
      distance window.windowStart inSequence := by
  have size := window.windowSize.isLt
  rw [signedDiff, BitVec.toInt_eq_toNat_of_lt]
  · rfl
  · change 2 * distance window.windowStart inSequence < 2 ^ 64
    omega

namespace Shows

variable {window : RudpReceiveWindow} {start : PacketSequence}
variable {received : Finset PacketSequence}

/-- A window that shows the sequences of an abstract one represents it. -/
theorem represents
    {abstract : AbstractWindow}
    (shows : Shows window abstract.start abstract.received)
    (size : window.windowSize.toNat = abstract.size) :
    Represents window abstract where
  start := shows.windowStart
  size := size
  flags_length := shows.length.trans size
  startIndex := size ▸ shows.startIndex
  flags := size ▸ shows.flags
  used := shows.used
  advertised := by
    have fits := card_le_of_inside shows.inside
    rw [RudpReceiveWindow.getAdvertiseWindow, BitVec.toNat_sub_of_le ?_,
      size, shows.used]
    rw [BitVec.le_def, shows.used]
    exact fits
  settled := (Bool.not_eq_true _).mp fun set =>
    abstract.missing (shows.startFlag_iff.mp set)

/-- A flag of the window is set. -/
theorem insert
    (shows : Shows window start received)
    {sequence : PacketSequence}
    (close : distance start sequence < window.windowSize.toNat)
    (unset : sequence ∉ received) :
    Shows
      { window with
        receivedFlags := window.receivedFlags.set
          (index window.windowSize.toNat window.startIndex
            (distance start sequence)) true
        usedCount := window.usedCount + 1 }
      start (insert sequence received) where
  windowStart := shows.windowStart
  length := by
    change (window.receivedFlags.set _ _).length = _
    rw [List.length_set]
    exact shows.length
  startIndex := shows.startIndex
  flags place bound := by
    have small := windowSize_lt window
    change place < window.windowSize.toNat at bound
    have set := flagAt_set window.startIndex true (shows.length ▸ close)
      (shows.length ▸ bound)
    rw [shows.length] at set
    change flagAt (window.receivedFlags.set _ true) window.startIndex place =
      true ↔ _
    rw [set, Finset.mem_insert]
    split
    next same =>
      subst same
      exact iff_of_true rfl (.inl (ahead_distance start sequence))
    next other =>
      rw [shows.flags place bound]
      refine (or_iff_right fun same => other ?_).symm
      rw [← same, distance_ahead start (by omega)]
  used := by
    have size := window.windowSize.isLt
    have fits := card_le_of_inside fun other member =>
      (Finset.mem_insert.mp member).elim (fun same => same ▸ close)
        (shows.inside other)
    rw [Finset.card_insert_of_notMem unset] at fits ⊢
    change (window.usedCount + 1).toNat = _
    have one : (1 : Byte).toNat = 1 := rfl
    rw [BitVec.toNat_add_of_lt, shows.used, one]
    rw [shows.used, one]
    omega
  inside other member := by
    rcases Finset.mem_insert.mp member with rfl | present
    · exact close
    · exact shows.inside other present

end Shows

namespace Represents

variable {window : RudpReceiveWindow} {abstract : AbstractWindow}

theorem shows
    (represents : Represents window abstract) :
    Shows window abstract.start abstract.received where
  windowStart := represents.start
  length := represents.flags_length.trans represents.size.symm
  startIndex := represents.size ▸ represents.startIndex
  flags := represents.size ▸ represents.flags
  used := represents.used
  inside := represents.size ▸ abstract.inside

/-- `MarkReceived` receives the sequence. -/
theorem markReceived
    (represents : Represents window abstract)
    (inSequence : PacketSequence) :
    Represents (window.markReceived inSequence)
      (abstract.receive inSequence) := by
  have shows := represents.shows
  unfold RudpReceiveWindow.markReceived AbstractWindow.receive
  by_cases close : distance abstract.start inSequence < abstract.size
  · have inside : distance window.windowStart inSequence <
        window.windowSize.toNat := by
      rwa [represents.start, represents.size]
    rw [if_pos ((canReceive_iff window inSequence).mpr inside), dif_pos close]
    have same : distance window.windowStart inSequence =
        distance abstract.start inSequence := by
      rw [represents.start]
    simp only [signedDiff_of_canReceive inside]
    rw [same] at inside ⊢
    have flag : window.receivedFlags.getD
          ((window.startIndex + distance abstract.start inSequence) %
            window.windowSize.toNat) false = true ↔
        inSequence ∈ abstract.received := by
      have flags := shows.flags _ inside
      rwa [ahead_distance, flagAt, index, shows.length] at flags
    split
    next set =>
      have marked : Shows window abstract.start
          (Insert.insert inSequence abstract.received) := by
        rwa [Finset.insert_eq_of_mem (flag.mp set)]
      exact marked.slideAll.represents
        ((congrArg BitVec.toNat (windowSize_slide _ _)).trans represents.size)
    next unset =>
      have marked := shows.insert inside fun member => unset (flag.mpr member)
      exact marked.slideAll.represents
        ((congrArg BitVec.toNat (windowSize_slide _ _)).trans represents.size)
  · have outside : ¬ window.canReceive inSequence = true := by
      rwa [canReceive_iff, represents.start, represents.size]
    rw [if_neg outside, dif_neg close]
    exact represents

/-- `Reset` starts again with an empty window. -/
theorem reset
    (represents : Represents window abstract)
    (startSequence : PacketSequence) :
    Represents (window.reset startSequence) (abstract.reset startSequence) := by
  have positive := Nat.zero_lt_of_lt represents.shows.startIndex
  have shows : Shows (window.reset startSequence) startSequence ∅ :=
    { windowStart := rfl
      length := by
        rw [RudpReceiveWindow.reset, List.length_replicate]
        exact represents.shows.length
      startIndex := positive
      flags := fun place _ => by
        rw [RudpReceiveWindow.reset, flagAt_replicate]
        simp
      used := rfl
      inside := nofun }
  exact shows.represents represents.size

end Represents

/-! ## Resizes -/

/-- The flags after a resize. -/
theorem getD_resizeRecvWindowSize
    (window : RudpReceiveWindow)
    (recvWindowSize : Byte)
    {position : Nat}
    (inside : position < recvWindowSize.toNat) :
    (window.resizeRecvWindowSize recvWindowSize).receivedFlags.getD position
        false =
      window.receivedFlags.getD position false := by
  simp only [RudpReceiveWindow.resizeRecvWindowSize,
    List.getD_eq_getElem?_getD, List.getElem?_append, List.length_take,
    List.getElem?_take, List.getElem?_replicate]
  by_cases kept : position < window.receivedFlags.length
  · rw [if_pos (by omega), if_pos inside]
  · rw [if_neg (by omega), List.getElem?_eq_none (Nat.not_lt.mp kept),
      if_pos (by omega)]
    rfl

theorem length_resizeRecvWindowSize
    (window : RudpReceiveWindow) (recvWindowSize : Byte) :
    (window.resizeRecvWindowSize recvWindowSize).receivedFlags.length =
      recvWindowSize.toNat := by
  simp only [RudpReceiveWindow.resizeRecvWindowSize, List.length_append,
    List.length_take, List.length_replicate]
  omega

namespace Represents

variable {window : RudpReceiveWindow} {abstract : AbstractWindow}
variable {recvWindowSize : Byte}

/-- The flag at an index of the vector. -/
theorem getD_eq_true_iff
    (represents : Represents window abstract)
    {place : Nat}
    (bound : place < abstract.size) :
    window.receivedFlags.getD
        (index abstract.size window.startIndex place) false = true ↔
      ahead abstract.start place ∈ abstract.received := by
  rw [← represents.flags place bound, flagAt, represents.flags_length]

/-- The place of a received sequence, when its flag is in its place. -/
theorem place_of_keepsPlaces
    (represents : Represents window abstract)
    (keeps : ∀ position < window.receivedFlags.length,
      window.receivedFlags.getD position false = true →
      window.startIndex ≤ position ∧ position < recvWindowSize.toNat)
    {place : Nat}
    (bound : place < abstract.size)
    (member : ahead abstract.start place ∈ abstract.received) :
    window.startIndex + place < abstract.size ∧
      window.startIndex + place < recvWindowSize.toNat := by
  have inside := represents.startIndex
  have positive := Nat.zero_lt_of_lt inside
  obtain ⟨behind, before⟩ := keeps _
    (represents.flags_length ▸ index_lt positive window.startIndex place)
    ((represents.getD_eq_true_iff bound).mpr member)
  by_cases straight : window.startIndex + place < abstract.size
  · rw [index_of_lt straight] at before
    exact ⟨straight, before⟩
  · rw [index_of_le (by omega) (by omega)] at behind
    omega

/-- A resize that leaves every flag at its place keeps the sequences that fit. -/
theorem resize
    (represents : Represents window abstract)
    (keeps : KeepsPlaces window (.resizeRecvWindowSize recvWindowSize)) :
    Represents (window.resizeRecvWindowSize recvWindowSize)
      (abstract.resize recvWindowSize) := by
  have size := represents.size
  have small := abstract.small
  have length := represents.flags_length
  rcases keeps with rfl | ⟨inside, keeps⟩
  · have same : window.resizeRecvWindowSize window.windowSize = window := by
      rw [RudpReceiveWindow.resizeRecvWindowSize, length, size, ← length,
        List.take_length, Nat.sub_self, List.replicate_zero, List.append_nil]
    have kept : (abstract.resize window.windowSize).received =
        abstract.received :=
      Finset.filter_true_of_mem (size ▸ abstract.inside)
    have shows : Shows window abstract.start
        (abstract.resize window.windowSize).received :=
      kept ▸ represents.shows
    rw [same]
    exact shows.represents rfl
  · have fits : ∀ sequence ∈ abstract.received,
        distance abstract.start sequence < recvWindowSize.toNat := by
      intro sequence member
      have placed := represents.place_of_keepsPlaces keeps
        (abstract.inside sequence member) (by rwa [ahead_distance])
      omega
    have kept : (abstract.resize recvWindowSize).received =
        abstract.received :=
      Finset.filter_true_of_mem fits
    have shows : Shows (window.resizeRecvWindowSize recvWindowSize)
        abstract.start (abstract.resize recvWindowSize).received :=
      { windowStart := represents.start
        length := length_resizeRecvWindowSize window recvWindowSize
        startIndex := inside
        flags := fun place bound => by
          change place < recvWindowSize.toNat at bound
          have positive := Nat.zero_lt_of_lt inside
          change flagAt _ window.startIndex place = true ↔ _
          rw [kept, flagAt, length_resizeRecvWindowSize,
            getD_resizeRecvWindowSize _ _ (index_lt positive _ _)]
          constructor
          · intro set
            have within := lt_length_of_getD set
            obtain ⟨behind, -⟩ := keeps _ within set
            by_cases straight :
              window.startIndex + place < recvWindowSize.toNat
            · rw [index_of_lt straight] at set within
              have bound : place < abstract.size := by omega
              rw [← represents.getD_eq_true_iff bound,
                index_of_lt (length ▸ within)]
              exact set
            · rw [index_of_le (by omega) (by omega)] at behind
              omega
          · intro member
            have close := abstract.inside _ member
            rw [distance_ahead _ (by omega)] at close
            obtain ⟨straight, fits⟩ :=
              represents.place_of_keepsPlaces keeps close member
            rw [index_of_lt fits, ← index_of_lt straight,
              represents.getD_eq_true_iff close]
            exact member
        used := kept.symm ▸ represents.used
        inside := fun sequence member => fits sequence (kept ▸ member) }
    exact shows.represents rfl

/-- Only such a resize keeps them. -/
theorem keepsPlaces_of_resize
    (represents : Represents window abstract)
    (resized : Represents (window.resizeRecvWindowSize recvWindowSize)
      (abstract.resize recvWindowSize)) :
    KeepsPlaces window (.resizeRecvWindowSize recvWindowSize) := by
  have size := represents.size
  have small := abstract.small
  have length := represents.flags_length
  have startInside := represents.startIndex
  have inside : window.startIndex < recvWindowSize.toNat := resized.startIndex
  -- The count is the same, so that every received sequence is kept.
  have kept : abstract.received.filter
        (fun sequence => distance abstract.start sequence <
          recvWindowSize.toNat) = abstract.received :=
    Finset.eq_of_subset_of_card_le (Finset.filter_subset _ _)
      (represents.used.symm.trans resized.used).le
  by_cases same : recvWindowSize = window.windowSize
  · exact .inl same
  have different : abstract.size ≠ recvWindowSize.toNat := fun equal =>
    same (BitVec.eq_of_toNat_eq (equal.symm.trans size.symm))
  -- A flag has a place, whose flag is set after the resize as well.
  have moves : ∀ position < window.receivedFlags.length,
      window.receivedFlags.getD position false = true →
      ∃ place < recvWindowSize.toNat,
        place < abstract.size ∧
          index abstract.size window.startIndex place = position ∧
          window.receivedFlags.getD
            (index recvWindowSize.toNat window.startIndex place) false =
              true := by
    intro position bound set
    rw [length] at bound
    obtain ⟨place, near, at_position⟩ := exists_index_eq startInside bound
    have member := (represents.getD_eq_true_iff near).mp (at_position ▸ set)
    rw [← kept] at member
    have fits := (Finset.mem_filter.mp member).2
    rw [distance_ahead _ (by omega)] at fits
    refine ⟨place, fits, near, at_position, ?_⟩
    rw [← getD_resizeRecvWindowSize window recvWindowSize
      (index_lt (Nat.zero_lt_of_lt inside) _ _)]
    exact (resized.getD_eq_true_iff fits).mpr member
  -- A flag in front of the start would lead to another one there.
  have unwrapped : ∀ position < window.startIndex,
      ¬ window.receivedFlags.getD position false = true := by
    refine not_of_shift
      (fun position => window.receivedFlags.getD position false = true)
      different fun position before set => ?_
    have bound := lt_length_of_getD set
    obtain ⟨place, fits, near, at_position, next⟩ := moves position bound set
    have around : abstract.size ≤ window.startIndex + place := by
      by_contra straight
      rw [index_of_lt (Nat.not_le.mp straight)] at at_position
      omega
    rw [index_of_le around (by omega)] at at_position
    by_cases straight : window.startIndex + place < recvWindowSize.toNat
    · rw [index_of_lt straight] at next
      have inside := lt_length_of_getD next
      omega
    · rw [index_of_le (by omega) (by omega)] at next
      have total : window.startIndex + place = position + abstract.size := by
        omega
      rw [total] at next
      exact ⟨by omega, by omega, next⟩
  refine .inr ⟨inside, fun position bound set => ?_⟩
  have behind : window.startIndex ≤ position := by
    by_contra before
    exact unwrapped position (Nat.not_le.mp before) set
  refine ⟨behind, ?_⟩
  by_contra beyond
  obtain ⟨place, fits, near, at_position, next⟩ := moves position bound set
  have straight : window.startIndex + place < abstract.size := by
    by_contra around
    rw [index_of_le (by omega) (by omega)] at at_position
    omega
  rw [index_of_lt straight] at at_position
  rw [index_of_le (by omega) (by omega)] at next
  exact unwrapped _ (by omega) next

end Represents

/-! ## Whole runs -/

/-- A new window represents the empty one. -/
theorem represents_ofSize
    (recvWindowSize : Byte)
    (positive : 0 < recvWindowSize.toNat)
    (startSequence : PacketSequence) :
    Represents (RudpReceiveWindow.ofSize recvWindowSize startSequence)
      (AbstractWindow.empty startSequence recvWindowSize) := by
  have shows : Shows (RudpReceiveWindow.ofSize recvWindowSize startSequence)
      startSequence ∅ :=
    { windowStart := rfl
      length := List.length_replicate
      startIndex := positive
      flags := fun place _ => by
        rw [RudpReceiveWindow.ofSize, flagAt_replicate]
        simp
      used := rfl
      inside := nofun }
  exact shows.represents rfl

/-- A call keeps the representation if and only if it leaves every flag at its
place. -/
theorem Represents.run_iff
    {window : RudpReceiveWindow}
    {abstract : AbstractWindow}
    (represents : Represents window abstract)
    (call : WindowCall) :
    Represents (call.run window) (call.runAbstract abstract) ↔
      KeepsPlaces window call := by
  cases call with
  | markReceived inSequence =>
      exact iff_of_true (represents.markReceived inSequence) trivial
  | reset startSequence =>
      exact iff_of_true (represents.reset startSequence) trivial
  | resizeRecvWindowSize recvWindowSize =>
      exact ⟨represents.keepsPlaces_of_resize, represents.resize⟩

/-- The calls of a run, each in the window that it finds. -/
def callsOf (window : RudpReceiveWindow) :
    List WindowCall → List (RudpReceiveWindow × WindowCall)
  | [] => []
  | call :: calls => (window, call) :: callsOf (call.run window) calls

/-- In every state of a run the window represents the abstract window. -/
def RepresentsThroughout
    (window : RudpReceiveWindow)
    (abstract : AbstractWindow)
    (calls : List WindowCall) : Prop :=
  ∀ before, before <+: calls →
    Represents (before.foldl WindowCall.run window)
      (before.foldl WindowCall.runAbstract abstract)

theorem representsThroughout_cons
    {window : RudpReceiveWindow}
    {abstract : AbstractWindow}
    {call : WindowCall}
    {calls : List WindowCall} :
    RepresentsThroughout window abstract (call :: calls) ↔
      Represents window abstract ∧
        RepresentsThroughout (call.run window) (call.runAbstract abstract)
          calls := by
  constructor
  · intro throughout
    exact ⟨throughout [] List.nil_prefix, fun before isPrefix =>
      throughout (call :: before) ((List.prefix_cons_inj call).mpr isPrefix)⟩
  · rintro ⟨first, later⟩ before isPrefix
    rcases List.prefix_cons_iff.mp isPrefix with rfl | ⟨rest, rfl, remains⟩
    · exact first
    · exact later rest remains

/-- A receive window represents the abstract one throughout a run if and only if
every resize of the run leaves every flag at its place. -/
theorem representsThroughout_iff
    (recvWindowSize : Byte)
    (positive : 0 < recvWindowSize.toNat)
    (startSequence : PacketSequence)
    (calls : List WindowCall) :
    RepresentsThroughout
        (RudpReceiveWindow.ofSize recvWindowSize startSequence)
        (AbstractWindow.empty startSequence recvWindowSize) calls ↔
      ∀ called ∈ callsOf
          (RudpReceiveWindow.ofSize recvWindowSize startSequence) calls,
        KeepsPlaces called.1 called.2 := by
  have initially := represents_ofSize recvWindowSize positive startSequence
  generalize RudpReceiveWindow.ofSize recvWindowSize startSequence = window
    at *
  generalize AbstractWindow.empty startSequence recvWindowSize = abstract at *
  induction calls generalizing window abstract with
  | nil =>
      refine iff_of_true (fun before isPrefix => ?_) nofun
      rw [List.prefix_nil.mp isPrefix]
      exact initially
  | cons call calls inductionHypothesis =>
      rw [representsThroughout_cons, callsOf, List.forall_mem_cons,
        ← initially.run_iff call]
      constructor
      · rintro ⟨-, later⟩
        have next := later [] List.nil_prefix
        exact ⟨next, (inductionHypothesis _ _ next).mp later⟩
      · rintro ⟨next, later⟩
        exact ⟨initially, (inductionHypothesis _ _ next).mpr later⟩

/-- A resize right after a reset, as in `Initialize`, keeps the representation. -/
theorem keepsPlaces_reset
    (window : RudpReceiveWindow)
    (startSequence : PacketSequence)
    {recvWindowSize : Byte}
    (positive : 0 < recvWindowSize.toNat) :
    KeepsPlaces (window.reset startSequence)
      (.resizeRecvWindowSize recvWindowSize) := by
  refine .inr ⟨positive, fun index bound set => ?_⟩
  have unset : (window.reset startSequence).receivedFlags.getD index false =
      false := by
    rw [List.getD_eq_getElem?_getD]
    exact List.getElem?_getD_replicate_default_eq _ _ _
  exact absurd (unset.symm.trans set) Bool.false_ne_true

/-- A window of four whose second sequence is received and that shrinks to one. -/
def lostFlagCalls : List WindowCall :=
  [.markReceived 1, .resizeRecvWindowSize 1]

/-- A window of four that has moved by three and shrinks to two. -/
def strayStartCalls : List WindowCall :=
  [.markReceived 0, .markReceived 1, .markReceived 2, .resizeRecvWindowSize 2]

/-- A flag that the vector loses stays in the count, and the start can be left
behind the end of the vector. -/
theorem resize_loses_flag_and_start :
    ((lostFlagCalls.foldl WindowCall.run (.ofSize 4 0)).usedCount = 1 ∧
      (lostFlagCalls.foldl WindowCall.run (.ofSize 4 0)).receivedFlags =
        [false] ∧
      ¬ RepresentsThroughout (.ofSize 4 0) (.empty 0 4) lostFlagCalls) ∧
    ((strayStartCalls.foldl WindowCall.run (.ofSize 4 0)).startIndex = 3 ∧
      (strayStartCalls.foldl WindowCall.run
        (.ofSize 4 0)).receivedFlags.length = 2 ∧
      ¬ RepresentsThroughout (.ofSize 4 0) (.empty 0 4) strayStartCalls) := by
  refine ⟨⟨by decide, by decide, fun throughout => ?_⟩,
    ⟨by decide, by decide, fun throughout => ?_⟩⟩
  · have before := throughout [.markReceived 1] (by decide)
    have after := throughout lostFlagCalls List.prefix_rfl
    have keeps := before.keepsPlaces_of_resize after
    revert keeps
    decide
  · have before := throughout strayStartCalls List.prefix_rfl
    have inside : 3 < 2 := before.startIndex
    exact absurd inside (by decide)

/-- A window that goes round its ring and past the last sequence, and is resized. -/
theorem representsThroughout_around :
    RepresentsThroughout (.ofSize 3 (BitVec.ofNat 64 (2 ^ 64 - 2)))
      (.empty (BitVec.ofNat 64 (2 ^ 64 - 2)) 3)
      [.markReceived (BitVec.ofNat 64 (2 ^ 64 - 2)),
        .markReceived (BitVec.ofNat 64 (2 ^ 64 - 1)), .markReceived 1,
        .markReceived 0, .resizeRecvWindowSize 5, .markReceived 5,
        .reset 7, .resizeRecvWindowSize 2] :=
  (representsThroughout_iff 3 (by decide) (BitVec.ofNat 64 (2 ^ 64 - 2)) _).mpr
    (by decide)

end MultiSocketRudp
