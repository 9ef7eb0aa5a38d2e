import MultiSocketRudp.Lib.CheckedArithmetic
import MultiSocketRudp.Protocol
import Mathlib.Data.List.MinMax

/-!
# The retransmission timeout

`RetransmissionTimeoutEstimator` averages round trip times in whole milliseconds
and doubles the timeout when packets expire, at most once in the interval that it
has last set.  Times and durations of the steady clock are nanoseconds in signed
64-bit words, and the averages are unsigned 64-bit words; a call whose arithmetic
overflows has no result here.

The end of the interval is a time of the clock, and time zero stands for none.
-/

namespace MultiSocketRudp
namespace TimeoutEstimation

open CheckedArithmetic

/-! ## The estimator -/

/-- Nanoseconds of a millisecond. -/
def nanosecondsPerMillisecond : Int := 1000000

/-- A result of `uint64_t` arithmetic. -/
def uint64 (value : Nat) : Option Nat := checkedUnsigned 64 value

/-- A result of `int64_t` arithmetic. -/
def int64 (value : Int) : Option Int := checkedSigned 64 value

/-- `std::clamp`. -/
def clamp (value low high : Nat) : Nat :=
  if value < low then low else if high < value then high else value

/-- `RetransmissionTimeoutEstimator`, with `backoffSuppressedUntil` as the count
of nanoseconds since the epoch of the clock. -/
structure RetransmissionTimeoutEstimator where
  hasRttSample : Bool := false
  smoothedRttMs : Nat := 0
  rttVariationMs : Nat := 0
  minRtoMs : Nat := 1
  maxRtoMs : Nat := 1
  cachedRtoMs : Nat := 1
  backoffSuppressedUntil : Int := 0
  deriving DecidableEq, Repr

/-- `CLOCK_GRANULARITY_MS`. -/
def clockGranularityMs : Nat := 1

/-- The milliseconds of a sample, truncated and at least one. -/
def sampleMs (sample : Int) : Nat :=
  let sampleMsCount := sample.tdiv nanosecondsPerMillisecond
  if 1 < sampleMsCount then sampleMsCount.toNat else 1

namespace RetransmissionTimeoutEstimator

/-- `ClampRto`. -/
def clampRto (estimator : RetransmissionTimeoutEstimator) (rtoMs : Nat) : Nat :=
  clamp rtoMs estimator.minRtoMs estimator.maxRtoMs % 2 ^ 32

/-- `Configure`. -/
def configure
    (estimator : RetransmissionTimeoutEstimator)
    (initialRtoMs minRtoMs maxRtoMs : BitVec 32) :
    RetransmissionTimeoutEstimator :=
  let minimum := max 1 minRtoMs.toNat
  let configured :=
    { estimator with
      minRtoMs := minimum
      maxRtoMs := max minimum maxRtoMs.toNat
      hasRttSample := false
      smoothedRttMs := 0
      rttVariationMs := 0
      backoffSuppressedUntil := 0 }
  { configured with cachedRtoMs := configured.clampRto initialRtoMs.toNat }

/-- `deviation`, the distance of a sample from the smoothed time. -/
def deviation
    (estimator : RetransmissionTimeoutEstimator) (sampleMs : Nat) : Nat :=
  if sampleMs < estimator.smoothedRttMs then
    estimator.smoothedRttMs - sampleMs
  else sampleMs - estimator.smoothedRttMs

/-- The averages of `OnRttSample`. -/
def average
    (estimator : RetransmissionTimeoutEstimator) (sampleMs : Nat) :
    Option RetransmissionTimeoutEstimator :=
  if estimator.hasRttSample = false then
    some
      { estimator with
        smoothedRttMs := sampleMs
        rttVariationMs := sampleMs / 2
        hasRttSample := true }
  else do
    let variation ← uint64 (3 * estimator.rttVariationMs)
    let variationSum ← uint64 (variation + estimator.deviation sampleMs)
    let smoothed ← uint64 (7 * estimator.smoothedRttMs)
    let smoothedSum ← uint64 (smoothed + sampleMs)
    some
      { estimator with
        rttVariationMs := variationSum / 4
        smoothedRttMs := smoothedSum / 8 }

/-- `OnRttSample`. -/
def onRttSample
    (estimator : RetransmissionTimeoutEstimator) (sample : Int) :
    Option RetransmissionTimeoutEstimator := do
  let averaged ← estimator.average (sampleMs sample)
  let margin ← uint64 (4 * averaged.rttVariationMs)
  let rtoMs ← uint64 (averaged.smoothedRttMs + max clockGranularityMs margin)
  some
    { averaged with
      cachedRtoMs := averaged.clampRto rtoMs
      backoffSuppressedUntil := 0 }

/-- `OnTimeout`, with its result. -/
def onTimeout
    (estimator : RetransmissionTimeoutEstimator) (now : Int) :
    Option (Bool × RetransmissionTimeoutEstimator) :=
  if estimator.backoffSuppressedUntil ≠ 0 ∧
      now < estimator.backoffSuppressedUntil then
    some (false, estimator)
  else do
    let doubled ← uint64 (estimator.cachedRtoMs * 2)
    let nextRtoMs := estimator.clampRto doubled
    let interval ← int64 (nextRtoMs * nanosecondsPerMillisecond)
    let suppressedUntil ← int64 (now + interval)
    some
      (true,
        { estimator with
          cachedRtoMs := nextRtoMs
          backoffSuppressedUntil := suppressedUntil })

end RetransmissionTimeoutEstimator

/-! ## Sequences of calls -/

/-- A call behind `Configure`. -/
inductive Call
  | onRttSample (sample : Int)
  | onTimeout (now : Int)
  deriving DecidableEq, Repr

namespace Call

/-- The sample that the call takes, in milliseconds. -/
def sampleMs? : Call → Option Nat
  | .onRttSample sample => some (sampleMs sample)
  | .onTimeout _ => none

/-- The time of a timeout. -/
def time? : Call → Option Int
  | .onRttSample _ => none
  | .onTimeout now => some now

end Call

/-- The samples of some calls in milliseconds, oldest first. -/
def samplesMs (calls : List Call) : List Nat := calls.filterMap Call.sampleMs?

/-- The times of the timeouts of some calls. -/
def times (calls : List Call) : List Int := calls.filterMap Call.time?

namespace RetransmissionTimeoutEstimator

/-- One call. -/
def perform
    (estimator : RetransmissionTimeoutEstimator) :
    Call → Option RetransmissionTimeoutEstimator
  | .onRttSample sample => estimator.onRttSample sample
  | .onTimeout now => (estimator.onTimeout now).map (·.2)

/-- A sequence of calls. -/
def performAll
    (estimator : RetransmissionTimeoutEstimator) (calls : List Call) :
    Option RetransmissionTimeoutEstimator :=
  calls.foldlM perform estimator

/-- Behind some calls `OnTimeout` returns true. -/
def ReturnsTrue
    (estimator : RetransmissionTimeoutEstimator)
    (calls : List Call) (now : Int) : Prop :=
  ∃ before after,
    estimator.performAll calls = some before ∧
      before.onTimeout now = some (true, after)

end RetransmissionTimeoutEstimator

/-! ## Admissible calls and what is claimed of them -/

/-- The effective lower limit. -/
def lowLimit (minRtoMs : BitVec 32) : Nat := max 1 minRtoMs.toNat

/-- The effective upper limit. -/
def highLimit (minRtoMs maxRtoMs : BitVec 32) : Nat :=
  max (lowLimit minRtoMs) maxRtoMs.toNat

/-- Samples are at most `2 ^ 60` milliseconds long, times are words that do not
decrease, and no time is so late that the clock ends within the largest
timeout. -/
structure Admissible (high : Nat) (calls : List Call) : Prop where
  samples :
    ∀ sample, .onRttSample sample ∈ calls →
      sample ≤ 2 ^ 60 * nanosecondsPerMillisecond
  ordered : (times calls).Pairwise (· ≤ ·)
  readable :
    ∀ now ∈ times calls,
      -2 ^ 63 ≤ now ∧ now + high * nanosecondsPerMillisecond < 2 ^ 63

/-- The bounds behind a sequence of calls. -/
structure Bounded
    (low high : Nat)
    (estimator : RetransmissionTimeoutEstimator)
    (calls : List Call) : Prop where
  /-- The smoothed time is between the smallest and the largest sample. -/
  smoothed :
    ∀ smallest ∈ (samplesMs calls).min?, ∀ largest ∈ (samplesMs calls).max?,
      smallest ≤ estimator.smoothedRttMs ∧ estimator.smoothedRttMs ≤ largest
  /-- The variation is at most the largest sample. -/
  variation :
    ∀ largest ∈ (samplesMs calls).max?, estimator.rttVariationMs ≤ largest
  /-- The timeout is between its limits. -/
  rto : low ≤ estimator.cachedRtoMs ∧ estimator.cachedRtoMs ≤ high

/-- The estimator is sane behind a sequence of calls: the arithmetic has not
overflowed and the bounds hold, the last call has not shortened the timeout if
it was a timeout, and two timeouts that return true without a sample between
them are as far apart as the timeout that was last set before the second, unless
the interval of one of them ended at time zero. -/
structure Sane
    (low high : Nat)
    (configured : RetransmissionTimeoutEstimator)
    (calls : List Call) : Prop where
  bounded :
    ∃ estimator, configured.performAll calls = some estimator ∧
      Bounded low high estimator calls
  lengthens :
    ∀ before now, calls = before ++ [.onTimeout now] →
      ∀ earlier ∈ configured.performAll before,
        ∀ later ∈ configured.performAll calls,
          earlier.cachedRtoMs ≤ later.cachedRtoMs
  suppresses :
    ∀ before first middle second,
      calls = before ++ .onTimeout first :: middle ++ [.onTimeout second] →
      (∀ sample, .onRttSample sample ∉ middle) →
      configured.ReturnsTrue before first →
      configured.ReturnsTrue (before ++ .onTimeout first :: middle) second →
      ∀ estimator ∈
        configured.performAll (before ++ .onTimeout first :: middle),
        first + estimator.cachedRtoMs * nanosecondsPerMillisecond ≤ second ∨
          ∃ now ∈ first :: times middle,
            now + estimator.cachedRtoMs * nanosecondsPerMillisecond = 0

/-! ## One call -/

/-- The limits behind `Configure`. -/
structure Limits (low high : Nat) : Prop where
  positive : 1 ≤ low
  ordered : low ≤ high
  small : high < 2 ^ 32

/-- The estimator has these limits and keeps them. -/
structure Limited
    (low high : Nat) (estimator : RetransmissionTimeoutEstimator) : Prop where
  minRtoMs : estimator.minRtoMs = low
  maxRtoMs : estimator.maxRtoMs = high
  low_le : low ≤ estimator.cachedRtoMs
  le_high : estimator.cachedRtoMs ≤ high

/-- The averages respect every bound of the samples. -/
structure Averaged
    (estimator : RetransmissionTimeoutEstimator) (samples : List Nat) :
    Prop where
  hasRttSample : estimator.hasRttSample = false ↔ samples = []
  le_smoothed :
    samples ≠ [] → ∀ bound, (∀ sample ∈ samples, bound ≤ sample) →
      bound ≤ estimator.smoothedRttMs
  smoothed_le :
    samples ≠ [] → ∀ bound, (∀ sample ∈ samples, sample ≤ bound) →
      estimator.smoothedRttMs ≤ bound
  variation_le :
    samples ≠ [] → ∀ bound, (∀ sample ∈ samples, sample ≤ bound) →
      estimator.rttVariationMs ≤ bound

theorem limits_configure (minRtoMs maxRtoMs : BitVec 32) :
    Limits (lowLimit minRtoMs) (highLimit minRtoMs maxRtoMs) where
  positive := Nat.le_max_left _ _
  ordered := Nat.le_max_left _ _
  small := by
    have := minRtoMs.isLt
    have := maxRtoMs.isLt
    unfold highLimit lowLimit
    omega

theorem uint64_of_lt {value : Nat} (small : value < 2 ^ 64) :
    uint64 value = some value :=
  checkedUnsigned_of_lt small

theorem sampleMs_le
    {sample : Int}
    (short : sample ≤ 2 ^ 60 * nanosecondsPerMillisecond) :
    sampleMs sample ≤ 2 ^ 60 := by
  unfold sampleMs
  dsimp only
  split
  · next long =>
    have quotient :
        sample.tdiv nanosecondsPerMillisecond ≤
          (2 ^ 60 * nanosecondsPerMillisecond).tdiv
            nanosecondsPerMillisecond :=
      Int.tdiv_le_tdiv (by decide) short
    rw [Int.mul_tdiv_cancel _ (by decide)] at quotient
    omega
  · decide

section Clamp

variable {low high : Nat} {estimator : RetransmissionTimeoutEstimator}

/-- A clamped timeout is between the limits. -/
theorem clampRto_eq
    (limits : Limits low high)
    (minRtoMs : estimator.minRtoMs = low)
    (maxRtoMs : estimator.maxRtoMs = high)
    (rtoMs : Nat) :
    estimator.clampRto rtoMs = max low (min rtoMs high) := by
  have ordered := limits.ordered
  have small := limits.small
  have value : clamp rtoMs low high = max low (min rtoMs high) := by
    unfold clamp
    split
    · omega
    · split <;> omega
  rw [RetransmissionTimeoutEstimator.clampRto, minRtoMs, maxRtoMs, value]
  exact Nat.mod_eq_of_lt (by omega)

end Clamp

/-- `Configure` begins without samples and inside the limits. -/
theorem limited_configure
    (previous : RetransmissionTimeoutEstimator)
    (initialRtoMs minRtoMs maxRtoMs : BitVec 32) :
    Limited (lowLimit minRtoMs) (highLimit minRtoMs maxRtoMs)
      (previous.configure initialRtoMs minRtoMs maxRtoMs) := by
  have limits := limits_configure minRtoMs maxRtoMs
  have ordered := limits.ordered
  have clamped (estimator : RetransmissionTimeoutEstimator)
      (minimum : estimator.minRtoMs = lowLimit minRtoMs)
      (maximum : estimator.maxRtoMs = highLimit minRtoMs maxRtoMs) :
      lowLimit minRtoMs ≤ estimator.clampRto initialRtoMs.toNat ∧
        estimator.clampRto initialRtoMs.toNat ≤
          highLimit minRtoMs maxRtoMs := by
    rw [clampRto_eq limits minimum maximum]
    omega
  exact
    { minRtoMs := rfl
      maxRtoMs := rfl
      low_le := (clamped _ rfl rfl).1
      le_high := (clamped _ rfl rfl).2 }

theorem averaged_configure
    (previous : RetransmissionTimeoutEstimator)
    (initialRtoMs minRtoMs maxRtoMs : BitVec 32) :
    Averaged (previous.configure initialRtoMs minRtoMs maxRtoMs) [] where
  hasRttSample := iff_of_true rfl rfl
  le_smoothed := nofun
  smoothed_le := nofun
  variation_le := nofun

section OneCall

variable {low high : Nat} {estimator : RetransmissionTimeoutEstimator}
variable {samples : List Nat}

/-- Averaging overflows nowhere when all samples are at most `2 ^ 60`. -/
theorem Averaged.average
    (averaged : Averaged estimator samples)
    {sampleMs : Nat}
    (short : ∀ sample ∈ samples ++ [sampleMs], sample ≤ 2 ^ 60) :
    ∃ next, estimator.average sampleMs = some next ∧
      Averaged next (samples ++ [sampleMs]) ∧
      next.minRtoMs = estimator.minRtoMs ∧
      next.maxRtoMs = estimator.maxRtoMs := by
  have last {bound : Nat} (all : ∀ sample ∈ samples ++ [sampleMs],
      sample ≤ bound) : (∀ sample ∈ samples, sample ≤ bound) ∧
        sampleMs ≤ bound := by
    simpa [or_imp, forall_and] using all
  have least {bound : Nat} (all : ∀ sample ∈ samples ++ [sampleMs],
      bound ≤ sample) : (∀ sample ∈ samples, bound ≤ sample) ∧
        bound ≤ sampleMs := by
    simpa [or_imp, forall_and] using all
  cases has : estimator.hasRttSample with
  | false =>
      refine ⟨_, if_pos has, ?_, rfl, rfl⟩
      exact
        { hasRttSample := by simp
          le_smoothed := fun _ bound all => (least all).2
          smoothed_le := fun _ bound all => (last all).2
          variation_le := fun _ bound all =>
            (Nat.div_le_self _ _).trans (last all).2 }
  | true =>
      have nonempty : samples ≠ [] := fun none => by
        rw [averaged.hasRttSample.mpr none] at has
        nomatch has
      have smoothedLe := averaged.smoothed_le nonempty _ (last short).1
      have variationLe := averaged.variation_le nonempty _ (last short).1
      have sampleLe := (last short).2
      have deviationLe : estimator.deviation sampleMs ≤ 2 ^ 60 :=
        distance_le smoothedLe sampleLe
      have variationSumLe := weightedSum_le 3 variationLe deviationLe
      have smoothedSumLe := weightedSum_le 7 smoothedLe sampleLe
      refine
        ⟨{ estimator with
            rttVariationMs :=
              (3 * estimator.rttVariationMs + estimator.deviation sampleMs) / 4
            smoothedRttMs := (7 * estimator.smoothedRttMs + sampleMs) / 8 },
          ?_, ?_, rfl, rfl⟩
      · simp only [RetransmissionTimeoutEstimator.average, has]
        rw [if_neg nofun, uint64_of_lt (by omega), Option.bind_eq_bind,
          Option.bind_some, uint64_of_lt (by omega), Option.bind_some,
          uint64_of_lt (by omega), Option.bind_some, uint64_of_lt (by omega),
          Option.bind_some]
      · exact
          { hasRttSample := by simp [has]
            le_smoothed := fun _ bound all =>
              le_weightedAverage 7
                (averaged.le_smoothed nonempty bound (least all).1)
                (least all).2
            smoothed_le := fun _ bound all =>
              weightedAverage_le 7
                (averaged.smoothed_le nonempty bound (last all).1)
                (last all).2
            variation_le := fun _ bound all =>
              weightedAverage_le 3
                (averaged.variation_le nonempty bound (last all).1)
                (distance_le
                  (averaged.smoothed_le nonempty bound (last all).1)
                  (last all).2) }

/-- `OnRttSample` keeps the limits and the averages. -/
theorem Averaged.onRttSample
    (averaged : Averaged estimator samples)
    (limits : Limits low high)
    (limited : Limited low high estimator)
    {sample : Int}
    (short : ∀ ms ∈ samples ++ [sampleMs sample], ms ≤ 2 ^ 60) :
    ∃ next, estimator.onRttSample sample = some next ∧
      Limited low high next ∧
      Averaged next (samples ++ [sampleMs sample]) := by
  obtain ⟨next, average, nextAveraged, minRtoMs, maxRtoMs⟩ :=
    averaged.average short
  have nonempty : samples ++ [sampleMs sample] ≠ [] := by simp
  have smoothedLe := nextAveraged.smoothed_le nonempty _ short
  have variationLe := nextAveraged.variation_le nonempty _ short
  have ordered := limits.ordered
  have clamped (rtoMs : Nat) :=
    clampRto_eq limits (minRtoMs.trans limited.minRtoMs)
      (maxRtoMs.trans limited.maxRtoMs) rtoMs
  have granularity : clockGranularityMs = 1 := rfl
  refine
    ⟨{ next with
        cachedRtoMs :=
          next.clampRto
            (next.smoothedRttMs +
              max clockGranularityMs (4 * next.rttVariationMs))
        backoffSuppressedUntil := 0 }, ?_, ?_, ?_⟩
  · have margin :
        uint64 (4 * next.rttVariationMs) = some (4 * next.rttVariationMs) :=
      uint64_of_lt (by omega)
    simp only [RetransmissionTimeoutEstimator.onRttSample, average,
      Option.bind_eq_bind, Option.bind_some, margin]
    rw [uint64_of_lt (by omega), Option.bind_some]
  · exact
      { minRtoMs := minRtoMs.trans limited.minRtoMs
        maxRtoMs := maxRtoMs.trans limited.maxRtoMs
        low_le := by
          dsimp only
          rw [clamped]
          omega
        le_high := by
          dsimp only
          rw [clamped]
          omega }
  · exact { nextAveraged with }

/-- A timeout is suppressed before the interval has ended.  Otherwise it sets a
timeout that is no shorter, and an interval of that length. -/
theorem onTimeout_cases
    (limits : Limits low high)
    (limited : Limited low high estimator)
    {now : Int}
    (word : -2 ^ 63 ≤ now)
    (readable : now + high * nanosecondsPerMillisecond < 2 ^ 63) :
    (estimator.onTimeout now = some (false, estimator)) ∨
      (estimator.backoffSuppressedUntil = 0 ∨
          estimator.backoffSuppressedUntil ≤ now) ∧
        ∃ rtoMs, estimator.cachedRtoMs ≤ rtoMs ∧ low ≤ rtoMs ∧
          rtoMs ≤ high ∧
          estimator.onTimeout now =
            some
              (true,
                { estimator with
                  cachedRtoMs := rtoMs
                  backoffSuppressedUntil :=
                    now + rtoMs * nanosecondsPerMillisecond }) := by
  by_cases suppressed :
      estimator.backoffSuppressedUntil ≠ 0 ∧
        now < estimator.backoffSuppressedUntil
  · left
    rw [RetransmissionTimeoutEstimator.onTimeout, if_pos suppressed]
  · refine .inr ⟨by omega, estimator.clampRto (estimator.cachedRtoMs * 2), ?_⟩
    have ordered := limits.ordered
    have small := limits.small
    have low_le := limited.low_le
    have le_high := limited.le_high
    rw [clampRto_eq limits limited.minRtoMs limited.maxRtoMs]
    refine ⟨by omega, by omega, by omega, ?_⟩
    rw [RetransmissionTimeoutEstimator.onTimeout, if_neg suppressed,
      uint64_of_lt (by omega), Option.bind_eq_bind, Option.bind_some,
      clampRto_eq limits limited.minRtoMs limited.maxRtoMs]
    dsimp only
    have rtoLe : max low (min (estimator.cachedRtoMs * 2) high) ≤ high := by
      omega
    generalize max low (min (estimator.cachedRtoMs * 2) high) = rtoMs at rtoLe
    unfold nanosecondsPerMillisecond at readable ⊢
    have interval :
        int64 (rtoMs * 1000000) = some ((rtoMs : Int) * 1000000) :=
      checkedSigned_of_mem (by omega) (by omega)
    have suppressedUntil :
        int64 (now + rtoMs * 1000000) = some (now + (rtoMs : Int) * 1000000) :=
      checkedSigned_of_mem (by omega) (by omega)
    rw [interval, Option.bind_eq_bind, Option.bind_some, suppressedUntil,
      Option.bind_some]

end OneCall

/-! ## Sequences of calls -/

theorem samplesMs_append (first second : List Call) :
    samplesMs (first ++ second) = samplesMs first ++ samplesMs second :=
  List.filterMap_append

theorem times_append (first second : List Call) :
    times (first ++ second) = times first ++ times second :=
  List.filterMap_append

/-- Parts of admissible calls are admissible. -/
theorem Admissible.part
    {high : Nat} (first second : List Call)
    (admissible : Admissible high (first ++ second)) :
    Admissible high first ∧ Admissible high second := by
  have ordered := admissible.ordered
  rw [times_append, List.pairwise_append] at ordered
  have readable := admissible.readable
  simp only [times_append, List.mem_append] at readable
  exact
    ⟨{ samples := fun sample member =>
         admissible.samples sample (List.mem_append_left _ member)
       ordered := ordered.1
       readable := fun now member => readable now (.inl member) },
      { samples := fun sample member =>
          admissible.samples sample (List.mem_append_right _ member)
        ordered := ordered.2.1
        readable := fun now member => readable now (.inr member) }⟩

/-- The samples of admissible calls are at most `2 ^ 60`. -/
theorem Admissible.samplesMs_le
    {high : Nat} {calls : List Call}
    (admissible : Admissible high calls) :
    ∀ ms ∈ samplesMs calls, ms ≤ 2 ^ 60 := by
  intro ms member
  obtain ⟨call, called, taken⟩ := List.mem_filterMap.mp member
  cases call with
  | onRttSample sample =>
      obtain rfl := Option.some.inj taken
      exact sampleMs_le (admissible.samples sample called)
  | onTimeout now => nomatch taken

/-- What holds of the estimator behind some samples. -/
structure Kept
    (low high : Nat)
    (estimator : RetransmissionTimeoutEstimator)
    (samples : List Nat) : Prop where
  limited : Limited low high estimator
  averaged : Averaged estimator samples

namespace Kept

variable {low high : Nat} {estimator : RetransmissionTimeoutEstimator}
variable {samples : List Nat}

/-- One call overflows nowhere and keeps limits and averages. -/
theorem perform
    (kept : Kept low high estimator samples)
    (limits : Limits low high)
    {call : Call}
    (short : ∀ ms ∈ samples ++ samplesMs [call], ms ≤ 2 ^ 60)
    (readable : ∀ now ∈ times [call],
      -2 ^ 63 ≤ now ∧ now + high * nanosecondsPerMillisecond < 2 ^ 63) :
    ∃ next, estimator.perform call = some next ∧
      Kept low high next (samples ++ samplesMs [call]) := by
  cases call with
  | onRttSample sample =>
      obtain ⟨next, performed, limited, averaged⟩ :=
        kept.averaged.onRttSample limits kept.limited short
      exact ⟨next, performed, limited, averaged⟩
  | onTimeout now =>
      obtain ⟨word, early⟩ := readable now List.mem_cons_self
      have same : samples ++ samplesMs [.onTimeout now] = samples :=
        List.append_nil samples
      rw [same]
      rcases onTimeout_cases limits kept.limited word early with
        performed | ⟨_, rtoMs, _, low_le, le_high, performed⟩
      · refine ⟨estimator, ?_, kept⟩
        rw [RetransmissionTimeoutEstimator.perform, performed, Option.map_some]
      · refine
          ⟨_, by rw [RetransmissionTimeoutEstimator.perform, performed,
            Option.map_some], ?_, ?_⟩
        · exact { kept.limited with low_le := low_le, le_high := le_high }
        · exact { kept.averaged with }

/-- Admissible calls overflow nowhere, by induction on the calls. -/
theorem performAll
    (kept : Kept low high estimator samples)
    (limits : Limits low high)
    {calls : List Call}
    (admissible : Admissible high calls)
    (short : ∀ ms ∈ samples, ms ≤ 2 ^ 60) :
    ∃ last, estimator.performAll calls = some last ∧
      Kept low high last (samples ++ samplesMs calls) := by
  induction calls generalizing estimator samples with
  | nil => exact ⟨estimator, rfl, by simpa [samplesMs] using kept⟩
  | cons call calls inductionHypothesis =>
      obtain ⟨one, rest⟩ :=
        Admissible.part [call] calls admissible
      have shortNext : ∀ ms ∈ samples ++ samplesMs [call], ms ≤ 2 ^ 60 :=
        List.forall_mem_append.mpr ⟨short, one.samplesMs_le⟩
      obtain ⟨next, performed, keptNext⟩ :=
        kept.perform limits shortNext one.readable
      obtain ⟨last, continues, keptLast⟩ :=
        inductionHypothesis keptNext rest shortNext
      refine ⟨last, ?_, ?_⟩
      · rw [RetransmissionTimeoutEstimator.performAll, List.foldlM_cons,
          performed, Option.bind_eq_bind, Option.bind_some]
        exact continues
      · rw [List.append_assoc, ← samplesMs_append] at keptLast
        exact keptLast

end Kept

/-- The interval that the estimator waits for began at one of some times. -/
def WaitsSince
    (estimator : RetransmissionTimeoutEstimator) (begins : List Int) : Prop :=
  ∃ now ∈ begins,
    estimator.backoffSuppressedUntil =
      now + estimator.cachedRtoMs * nanosecondsPerMillisecond

section Suppression

variable {low high : Nat} {estimator : RetransmissionTimeoutEstimator}

/-- A timeout that returns true begins an interval. -/
theorem waitsSince_of_true
    (limits : Limits low high)
    (limited : Limited low high estimator)
    {now : Int} {after : RetransmissionTimeoutEstimator}
    (word : -2 ^ 63 ≤ now)
    (early : now + high * nanosecondsPerMillisecond < 2 ^ 63)
    (performed : estimator.onTimeout now = some (true, after)) :
    (estimator.backoffSuppressedUntil = 0 ∨
        estimator.backoffSuppressedUntil ≤ now) ∧
      WaitsSince after [now] := by
  rcases onTimeout_cases limits limited word early with
    suppressed | ⟨ended, rtoMs, _, _, _, same⟩
  · rw [suppressed] at performed
    nomatch performed
  · rw [same] at performed
    obtain rfl := (Prod.mk.inj (Option.some.inj performed)).2
    exact ⟨ended, now, List.mem_singleton_self now, rfl⟩

/-- Timeouts without a sample between them leave the estimator waiting for an
interval that one of them began, by induction on the calls. -/
theorem WaitsSince.performAll
    {begins : List Int}
    (waits : WaitsSince estimator begins)
    (limits : Limits low high)
    (limited : Limited low high estimator)
    {calls : List Call}
    (admissible : Admissible high calls)
    (noSample : ∀ sample, .onRttSample sample ∉ calls)
    {last : RetransmissionTimeoutEstimator}
    (performed : estimator.performAll calls = some last) :
    WaitsSince last (begins ++ times calls) := by
  induction calls generalizing estimator begins with
  | nil =>
      obtain rfl : estimator = last := Option.some.inj performed
      simpa [times] using waits
  | cons call calls inductionHypothesis =>
      obtain ⟨one, rest⟩ := Admissible.part [call] calls admissible
      have noSampleRest (sample : Int) : .onRttSample sample ∉ calls :=
        fun member => noSample sample (List.mem_cons_of_mem _ member)
      obtain ⟨next, performedOne, continues⟩ :=
        Option.bind_eq_some_iff.mp performed
      cases call with
      | onRttSample sample => exact absurd List.mem_cons_self (noSample sample)
      | onTimeout now =>
          obtain ⟨word, early⟩ := one.readable now List.mem_cons_self
          have split :
              begins ++ times (.onTimeout now :: calls) =
                (begins ++ [now]) ++ times calls := by
            simp [times, Call.time?]
          rw [split]
          rcases onTimeout_cases limits limited word early with
            same | ⟨_, rtoMs, _, low_le, le_high, same⟩
          · rw [RetransmissionTimeoutEstimator.perform, same,
              Option.map_some] at performedOne
            obtain rfl := Option.some.inj performedOne
            obtain ⟨began, member, until_⟩ := waits
            exact inductionHypothesis
              ⟨began, List.mem_append_left _ member, until_⟩ limited rest
              noSampleRest continues
          · rw [RetransmissionTimeoutEstimator.perform, same,
              Option.map_some] at performedOne
            have isNext := Option.some.inj performedOne
            have limitedNext : Limited low high next :=
              isNext ▸ { limited with low_le := low_le, le_high := le_high }
            have waitsNext : WaitsSince next (begins ++ [now]) :=
              ⟨now, List.mem_append_right _ (List.mem_singleton_self now), by
                rw [← isNext]⟩
            exact inductionHypothesis waitsNext limitedNext rest noSampleRest
              continues

end Suppression

/-! ## The whole life of an estimator -/

/-- Every bound that the samples have is a bound of the averages, so the smallest
and the largest sample are. -/
theorem Kept.bounded
    {low high : Nat} {estimator : RetransmissionTimeoutEstimator}
    {calls : List Call}
    (kept : Kept low high estimator (samplesMs calls)) :
    Bounded low high estimator calls := by
  have nonempty {ms : Nat} (member : ms ∈ samplesMs calls) :
      samplesMs calls ≠ [] := List.ne_nil_of_mem member
  exact
    { smoothed := fun smallest isSmallest largest isLargest => by
        obtain ⟨present, least⟩ := List.min?_eq_some_iff.mp isSmallest
        obtain ⟨_, greatest⟩ := List.max?_eq_some_iff.mp isLargest
        exact
          ⟨kept.averaged.le_smoothed (nonempty present) _ least,
            kept.averaged.smoothed_le (nonempty present) _ greatest⟩
      variation := fun largest isLargest => by
        obtain ⟨present, greatest⟩ := List.max?_eq_some_iff.mp isLargest
        exact kept.averaged.variation_le (nonempty present) _ greatest
      rto := ⟨kept.limited.low_le, kept.limited.le_high⟩ }

/-- Calls behind other calls. -/
theorem performAll_append
    (estimator : RetransmissionTimeoutEstimator) (first second : List Call) :
    estimator.performAll (first ++ second) =
      (estimator.performAll first).bind (·.performAll second) :=
  List.foldlM_append

theorem performAll_singleton
    (estimator : RetransmissionTimeoutEstimator) (call : Call) :
    estimator.performAll [call] = estimator.perform call := by
  rw [RetransmissionTimeoutEstimator.performAll, List.foldlM_cons,
    Option.bind_eq_bind]
  exact Option.bind_fun_some _

section Life

variable {low high : Nat} {configured : RetransmissionTimeoutEstimator}

/-- A timeout does not shorten the timeout. -/
theorem Kept.lengthens
    (kept : Kept low high configured [])
    (limits : Limits low high)
    {before : List Call} {now : Int}
    (admissible : Admissible high (before ++ [.onTimeout now]))
    {earlier later : RetransmissionTimeoutEstimator}
    (performed : configured.performAll before = some earlier)
    (performedAll :
      configured.performAll (before ++ [.onTimeout now]) = some later) :
    earlier.cachedRtoMs ≤ later.cachedRtoMs := by
  obtain ⟨first, last⟩ := admissible.part
  obtain ⟨reached, same, keptEarlier⟩ := kept.performAll limits first nofun
  obtain rfl := Option.some.inj (performed.symm.trans same)
  obtain ⟨word, early⟩ := last.readable now List.mem_cons_self
  rw [performAll_append, performed, Option.bind_some, performAll_singleton,
    RetransmissionTimeoutEstimator.perform] at performedAll
  rcases onTimeout_cases limits keptEarlier.limited word early with
    suppressed | ⟨_, rtoMs, longer, _, _, lengthened⟩
  · rw [suppressed] at performedAll
    obtain rfl := Option.some.inj performedAll
    exact le_rfl
  · rw [lengthened] at performedAll
    obtain rfl := Option.some.inj performedAll
    exact longer

/-- Two timeouts that return true without a sample between them. -/
theorem Kept.suppresses
    (kept : Kept low high configured [])
    (limits : Limits low high)
    {before middle : List Call} {first second : Int}
    (admissible :
      Admissible high
        (before ++ .onTimeout first :: middle ++ [.onTimeout second]))
    (noSample : ∀ sample, .onRttSample sample ∉ middle)
    (returnsFirst : configured.ReturnsTrue before first)
    (returnsSecond :
      configured.ReturnsTrue (before ++ .onTimeout first :: middle) second)
    {estimator : RetransmissionTimeoutEstimator}
    (performed :
      configured.performAll (before ++ .onTimeout first :: middle) =
        some estimator) :
    first + estimator.cachedRtoMs * nanosecondsPerMillisecond ≤ second ∨
      ∃ now ∈ first :: times middle,
        now + estimator.cachedRtoMs * nanosecondsPerMillisecond = 0 := by
  obtain ⟨untilSecond, atSecond⟩ := admissible.part
  obtain ⟨atBefore, fromFirst⟩ := untilSecond.part
  obtain ⟨atFirst, between⟩ := Admissible.part [_] _ fromFirst
  obtain ⟨firstWord, firstEarly⟩ := atFirst.readable first List.mem_cons_self
  obtain ⟨secondWord, secondEarly⟩ :=
    atSecond.readable second List.mem_cons_self
  obtain ⟨start, begun, performedBefore, trueFirst⟩ := returnsFirst
  obtain ⟨reached, ended, performedReached, trueSecond⟩ := returnsSecond
  obtain rfl := Option.some.inj (performedReached.symm.trans performed)
  obtain ⟨_, sameStart, keptStart⟩ := kept.performAll limits atBefore nofun
  obtain rfl := Option.some.inj (performedBefore.symm.trans sameStart)
  have performedFirst : start.perform (.onTimeout first) = some begun := by
    rw [RetransmissionTimeoutEstimator.perform, trueFirst, Option.map_some]
  have performedMiddle : begun.performAll middle = some reached := by
    rw [performAll_append, performedBefore, Option.bind_some,
      RetransmissionTimeoutEstimator.performAll, List.foldlM_cons,
      performedFirst] at performedReached
    exact performedReached
  obtain ⟨_, sameBegun, keptBegun⟩ :=
    keptStart.perform limits
      (List.forall_mem_append.mpr
        ⟨atBefore.samplesMs_le, atFirst.samplesMs_le⟩)
      atFirst.readable
  obtain rfl := Option.some.inj (performedFirst.symm.trans sameBegun)
  obtain ⟨_, sameReached, keptReached⟩ :=
    kept.performAll limits untilSecond nofun
  obtain rfl := Option.some.inj (performedReached.symm.trans sameReached)
  have waits :=
    (waitsSince_of_true limits keptStart.limited firstWord firstEarly
      trueFirst).2.performAll limits keptBegun.limited between noSample
      performedMiddle
  obtain ⟨began, member, waitsUntil⟩ := waits
  have later : first ≤ began := by
    have ordered := fromFirst.ordered
    rcases List.mem_cons.mp member with rfl | behind
    · exact le_rfl
    · exact (List.pairwise_cons.mp ordered).1 began behind
  have finished :=
    (waitsSince_of_true limits keptReached.limited secondWord secondEarly
      trueSecond).1
  rw [waitsUntil] at finished
  rcases finished with epoch | ended
  · exact .inr ⟨began, member, epoch⟩
  · exact .inl (by omega)

end Life

/-- Behind every `Configure`, admissible calls leave the estimator sane. -/
theorem sane_of_admissible
    (previous : RetransmissionTimeoutEstimator)
    (initialRtoMs minRtoMs maxRtoMs : BitVec 32)
    {calls : List Call}
    (admissible : Admissible (highLimit minRtoMs maxRtoMs) calls) :
    Sane (lowLimit minRtoMs) (highLimit minRtoMs maxRtoMs)
      (previous.configure initialRtoMs minRtoMs maxRtoMs) calls := by
  have limits := limits_configure minRtoMs maxRtoMs
  have kept :
      Kept (lowLimit minRtoMs) (highLimit minRtoMs maxRtoMs)
        (previous.configure initialRtoMs minRtoMs maxRtoMs) [] :=
    { limited := limited_configure previous initialRtoMs minRtoMs maxRtoMs
      averaged := averaged_configure previous initialRtoMs minRtoMs maxRtoMs }
  exact
    { bounded := by
        obtain ⟨estimator, performed, keptLast⟩ :=
          kept.performAll limits admissible nofun
        exact ⟨estimator, performed, keptLast.bounded⟩
      lengthens := fun before now split earlier performed later performedAll =>
        kept.lengthens limits (split ▸ admissible) performed
          (split ▸ performedAll)
      suppresses := fun before first middle second split noSample returnsFirst
          returnsSecond estimator performed =>
        kept.suppresses limits (split ▸ admissible) noSample returnsFirst
          returnsSecond performed }

/-- A timeout, another inside the interval, a sample, and one more timeout. -/
def sampleCalls : List Call :=
  [.onTimeout 1000000000, .onTimeout 1000500000, .onRttSample 80000000,
    .onTimeout 1040000000]

theorem sane_sampleCalls :
    Sane (lowLimit 50) (highLimit 50 1000)
      (({} : RetransmissionTimeoutEstimator).configure 50 50 1000)
      sampleCalls :=
  sane_of_admissible {} 50 50 1000
    { samples := fun sample member => by
        simp [sampleCalls] at member
        subst member
        decide
      ordered := by decide
      readable := by decide }

/-- An estimator with timeouts from 50 to 1000 milliseconds. -/
def sampleEstimator : RetransmissionTimeoutEstimator :=
  ({} : RetransmissionTimeoutEstimator).configure 50 50 1000

/-- An interval that ends at time zero suppresses nothing, and the end of an
interval may lie behind the last time that the clock can show. -/
theorem timeout_repeats_at_epoch :
    sampleEstimator.ReturnsTrue [] (-100000000) ∧
      sampleEstimator.ReturnsTrue [.onTimeout (-100000000)] (-100000000) ∧
      sampleEstimator.performAll [.onTimeout (2 ^ 63 - 1)] = none := by
  have first :
      sampleEstimator.onTimeout (-100000000) =
        some (true, { sampleEstimator with cachedRtoMs := 100 }) := by
    decide +kernel
  have second :
      ({ sampleEstimator with
          cachedRtoMs := 100 } : RetransmissionTimeoutEstimator).onTimeout
          (-100000000) =
        some
          (true,
            { sampleEstimator with
              cachedRtoMs := 200
              backoffSuppressedUntil := 100000000 }) := by
    decide +kernel
  have between :
      sampleEstimator.performAll [.onTimeout (-100000000)] =
        some { sampleEstimator with cachedRtoMs := 100 } := by
    rw [performAll_singleton, RetransmissionTimeoutEstimator.perform, first,
      Option.map_some]
  have overflows :
      sampleEstimator.performAll [.onTimeout (2 ^ 63 - 1)] = none := by
    decide +kernel
  exact ⟨⟨_, _, rfl, first⟩, ⟨_, _, between, second⟩, overflows⟩

end TimeoutEstimation
end MultiSocketRudp
