import Mathlib
import MultiSocketRudp.Lib.PeriodicTimers
import MultiSocketRudp.Lib.TransitionSystem

/-!
# The ticker and its timer events

`RegisterTimerEvent` puts an event into the map at once.  `UnregisterTimerEvent`
only notes its id, and the next tick removes what is in the map under it.  Beside
the ticker the model keeps periodic timers as they should be.  A call is made at
the time of the last tick, which is the time that it reads.

`RegisterTimerEvent` gives `SetNextTick` the time that is one interval ahead, and
`SetNextTick` adds the interval once more.
-/

namespace MultiSocketRudp
namespace Ticker

open TransitionSystems PeriodicTimers

/-! ## The ticker -/

/-- `TimerEventId`. -/
abbrev TimerEventId := BitVec 16

/-- What does not change in a `TimerEvent`. -/
structure TimerEvent where
  timerEventId : TimerEventId
  intervalMs : BitVec 32
  deriving DecidableEq, Repr

/-- The time in milliseconds, read from a clock that counts nanoseconds in a
signed word. -/
def clockLimit : Nat := 2 ^ 63 / 10 ^ 6

/-- The ticker, and the events that have been created for it. -/
structure State where
  /-- The events, in the order in which they were created. -/
  events : List TimerEvent := []
  /-- `nextTick` of each event. -/
  nextTick : Nat → Nat := fun _ => 0
  timerEventIdGenerator : TimerEventId := 1
  nowMs : Nat
  /-- The events in the map, under their ids. -/
  timerEvents : List (TimerEventId × Nat) := []
  unregisterTargetList : List TimerEventId := []
  /-- What the last tick has fired. -/
  fireTargets : List Nat := []
  /-- The timers as they should be. -/
  timers : Timers Nat

namespace State

/-- `GetTimerEventId` of an event. -/
def eventId (state : State) (event : Nat) : TimerEventId :=
  (state.events[event]?.map TimerEvent.timerEventId).getD 0

/-- `intervalMs` of an event. -/
def interval (state : State) (event : Nat) : Nat :=
  (state.events[event]?.map fun event => event.intervalMs.toNat).getD 0

/-- `TimerEvent::SetNextTick`. -/
def setNextTick (state : State) (event nowTickMs : Nat) : State :=
  { state with
    nextTick := Function.update state.nextTick event
      ((nowTickMs + state.interval event) % 2 ^ 64) }

end State

/-- A call, or a tick. -/
inductive Label
  | create (intervalMs : BitVec 32)
  /-- The call for an event, or for a null pointer. -/
  | registerTimerEvent (eventObject : Option Nat)
  | unregisterTimerEvent (timerEventId : TimerEventId)
  | tick (time : Nat)
  deriving DecidableEq, Repr

/-- `TimerEventCreator::Create`. -/
def create (state : State) (intervalMs : BitVec 32) : State :=
  { state with
    events := state.events ++ [⟨state.timerEventIdGenerator, intervalMs⟩]
    timerEventIdGenerator := state.timerEventIdGenerator + 1 }

/-- `timerEvents.emplace`: nothing happens when the key is in the map. -/
def emplace
    (timerEvents : List (TimerEventId × Nat))
    (timerEventId : TimerEventId) (event : Nat) :
    List (TimerEventId × Nat) :=
  if timerEventId ∈ timerEvents.map Prod.fst then timerEvents
  else timerEvents ++ [(timerEventId, event)]

/-- `Ticker::RegisterTimerEvent`. -/
def registerTimerEvent (state : State) (event : Nat) : State :=
  let now := (state.nowMs + state.interval event) % 2 ^ 64
  let state := state.setNextTick event now
  { state with
    timerEvents := emplace state.timerEvents (state.eventId event) event
    timers := state.timers.register state.interval event }

/-- `Ticker::UnregisterTimerEvent`. -/
def unregisterTimerEvent (state : State) (timerEventId : TimerEventId) : State :=
  { state with
    unregisterTargetList :=
      if timerEventId ∈ state.unregisterTargetList then
        state.unregisterTargetList
      else state.unregisterTargetList ++ [timerEventId]
    timers := state.timers.unregister fun event =>
      state.eventId event = timerEventId }

/-- `Ticker::UnregisterTimerEventImpl`. -/
def unregisterTimerEventImpl (state : State) : State :=
  { state with
    timerEvents := state.timerEvents.filter fun entry =>
      entry.1 ∉ state.unregisterTargetList
    unregisterTargetList := [] }

/-- One round of `Ticker::UpdateTick`. -/
def updateTick (state : State) (time : Nat) : State :=
  let state := unregisterTimerEventImpl { state with nowMs := time }
  let fireTargets := (state.timerEvents.filter fun entry =>
    state.nextTick entry.2 ≤ state.nowMs).map Prod.snd
  let state := fireTargets.foldl
    (fun state event => state.setNextTick event state.nowMs) state
  { state with
    fireTargets
    timers := state.timers.tick state.interval time }

/-- One call, or a tick at a time that is not earlier than the last one. -/
def step (state : State) : Label → Option State
  | .create intervalMs => some (create state intervalMs)
  | .registerTimerEvent none => some state
  | .registerTimerEvent (some event) =>
      if event < state.events.length then some (registerTimerEvent state event)
      else none
  | .unregisterTimerEvent timerEventId =>
      some (unregisterTimerEvent state timerEventId)
  | .tick time =>
      if state.nowMs ≤ time ∧ time < clockLimit then
        some (updateTick state time)
      else none

/-- A ticker that has been started. -/
def initial (time : Nat) : State where
  nowMs := time
  timers := { now := time }

/-- Runs of a ticker from its start. -/
def system : TransitionSystem State Label where
  Initial state := ∃ time < clockLimit, state = initial time
  step := step

/-! ## What the ticker promises -/

/-- An event is in the map, and no tick is going to remove it. -/
def State.IsRegistered (state : State) (event : Nat) : Prop :=
  (state.eventId event, event) ∈ state.timerEvents ∧
    state.eventId event ∉ state.unregisterTargetList

/-- The ticker has fired what should have been fired, once, and the events that
should be registered are. -/
structure ImplementsTimers (state : State) : Prop where
  fires : ∀ event, event ∈ state.fireTargets ↔ state.timers.fired event = true
  once : state.fireTargets.Nodup
  registers : ∀ event, state.IsRegistered event ↔
    (state.timers.registered event).isSome = true

/-- An event has not fired since it was registered, one interval has passed by a
time, and a second one has not. -/
def State.isOverdue (state : State) (time event : Nat) : Bool :=
  match state.timers.registered event with
  | some registered =>
      !registered.hasFired && registered.due ≤ time &&
        time < registered.due + state.interval event
  | none => false

/-- An event is registered when its id is neither another event's in the map nor
to be removed by the next tick, and no tick comes between one and two intervals
after the registration of an event that has not fired. -/
def Meets (state : State) : Label → Prop
  | .registerTimerEvent (some event) =>
      state.eventId event ∉ state.unregisterTargetList ∧
        ∀ entry ∈ state.timerEvents,
          entry.1 = state.eventId event → entry.2 = event
  | .tick time =>
      ∀ event < state.events.length, state.isOverdue time event = false
  | .create _ | .registerTimerEvent none | .unregisterTimerEvent _ => True

instance (state : State) (label : Label) : Decidable (Meets state label) := by
  cases label with
  | create => exact .isTrue trivial
  | registerTimerEvent eventObject =>
      cases eventObject <;> unfold Meets <;> infer_instance
  | unregisterTimerEvent => exact .isTrue trivial
  | tick => unfold Meets; infer_instance

/-! ## The invariant -/

/-- The map and the timers agree. -/
structure Kept (state : State) : Prop where
  implements : ImplementsTimers state
  entries : ∀ entry ∈ state.timerEvents,
    entry.2 < state.events.length ∧ state.eventId entry.2 = entry.1
  unique : (state.timerEvents.map Prod.fst).Nodup
  nextTick : ∀ event registered,
    state.timers.registered event = some registered →
    state.nextTick event = registered.due +
      if registered.hasFired then 0 else state.interval event
  now : state.timers.now = state.nowMs
  nowMs : state.nowMs < clockLimit

theorem initial_kept {time : Nat} (inRange : time < clockLimit) :
    Kept (initial time) where
  implements :=
    { fires := fun _ => iff_of_false nofun nofun
      once := .nil
      registers := fun _ => iff_of_false (fun registered => nomatch registered.1)
        nofun }
  entries := nofun
  unique := .nil
  nextTick := nofun
  now := rfl
  nowMs := inRange

/-- An interval is a word of 32 bits. -/
theorem State.interval_lt (state : State) (event : Nat) :
    state.interval event < 2 ^ 32 := by
  rw [State.interval]
  cases state.events[event]? with
  | none => exact Nat.two_pow_pos 32
  | some event => exact event.intervalMs.isLt

/-- No time wraps around. -/
theorem nextTick_mod {time more : Nat}
    (inRange : time < clockLimit) (small : more < 2 ^ 40) :
    (time + more) % 2 ^ 64 = time + more := by
  have limit : clockLimit < 2 ^ 44 := by decide
  exact Nat.mod_eq_of_lt (by omega)

/-- A registered event has been created. -/
theorem Kept.created
    {state : State} (kept : Kept state) {event : Nat}
    (registered : state.IsRegistered event) :
    event < state.events.length :=
  (kept.entries _ registered.1).1

/-! ## Calls -/

section Calls

variable {state : State}

theorem create_eventId
    (intervalMs : BitVec 32) {event : Nat}
    (created : event < state.events.length) :
    (create state intervalMs).eventId event = state.eventId event := by
  simp [State.eventId, create, List.getElem?_append_left created]

theorem create_interval
    (intervalMs : BitVec 32) {event : Nat}
    (created : event < state.events.length) :
    (create state intervalMs).interval event = state.interval event := by
  simp [State.interval, create, List.getElem?_append_left created]

/-- The events of the map are the same. -/
theorem Kept.create_isRegistered
    (kept : Kept state) (intervalMs : BitVec 32) (event : Nat) :
    (create state intervalMs).IsRegistered event ↔
      state.IsRegistered event := by
  constructor
  · intro registered
    have created := (kept.entries _ registered.1).1
    rw [State.IsRegistered, create_eventId intervalMs created] at registered
    exact registered
  · intro registered
    rw [State.IsRegistered,
      create_eventId intervalMs (kept.created registered)]
    exact registered

theorem Kept.create
    (kept : Kept state) (intervalMs : BitVec 32) :
    Kept (create state intervalMs) :=
  { kept with
    implements :=
      { fires := kept.implements.fires
        once := kept.implements.once
        registers := fun event =>
          (kept.create_isRegistered intervalMs event).trans
            (kept.implements.registers event) }
    entries := fun entry among => by
      obtain ⟨created, same⟩ := kept.entries entry among
      refine ⟨?_, by rw [create_eventId intervalMs created, same]⟩
      simpa [Ticker.create] using Nat.lt_succ_of_lt created
    nextTick := fun event registered found => by
      have created := kept.created
        ((kept.implements.registers event).mpr (by
          rw [show state.timers.registered event = some registered from found]
          rfl))
      rw [create_interval intervalMs created]
      exact kept.nextTick event registered found }

/-- Unless another event has the id, the event is in the map behind the call. -/
theorem mem_emplace
    {timerEvents : List (TimerEventId × Nat)}
    {timerEventId : TimerEventId} {event : Nat}
    (free : ∀ entry ∈ timerEvents, entry.1 = timerEventId → entry.2 = event)
    (entry : TimerEventId × Nat) :
    entry ∈ emplace timerEvents timerEventId event ↔
      entry ∈ timerEvents ∨ entry = (timerEventId, event) := by
  rw [emplace]
  split_ifs with used
  · refine (or_iff_left_of_imp fun same => ?_).symm
    obtain ⟨present, among, id⟩ := List.mem_map.mp used
    have whole : present = (timerEventId, event) :=
      Prod.ext id (free present among id)
    exact same ▸ whole ▸ among
  · simp

theorem emplace_unique
    {timerEvents : List (TimerEventId × Nat)}
    (unique : (timerEvents.map Prod.fst).Nodup)
    (timerEventId : TimerEventId) (event : Nat) :
    ((emplace timerEvents timerEventId event).map Prod.fst).Nodup := by
  rw [emplace]
  split_ifs with used
  · exact unique
  · rw [List.map_append]
    exact unique.append (List.nodup_singleton _)
      (List.disjoint_singleton.mpr used)

theorem registerTimerEvent_timerEvents (event : Nat) :
    (registerTimerEvent state event).timerEvents =
      emplace state.timerEvents (state.eventId event) event := rfl

theorem registerTimerEvent_timers (event : Nat) :
    (registerTimerEvent state event).timers =
      state.timers.register state.interval event := rfl

theorem registerTimerEvent_isRegistered
    {event : Nat}
    (meets : Meets state (.registerTimerEvent (some event))) (other : Nat) :
    (registerTimerEvent state event).IsRegistered other ↔
      state.IsRegistered other ∨ other = event := by
  obtain ⟨stays, free⟩ := meets
  rw [State.IsRegistered, registerTimerEvent_timerEvents, mem_emplace free,
    Prod.mk.injEq]
  constructor
  · rintro ⟨among | ⟨-, same⟩, stays⟩
    · exact .inl ⟨among, stays⟩
    · exact .inr same
  · rintro (registered | rfl)
    · exact ⟨.inl registered.1, registered.2⟩
    · exact ⟨.inr ⟨rfl, rfl⟩, stays⟩

theorem Kept.registerTimerEvent
    (kept : Kept state) {event : Nat}
    (created : event < state.events.length)
    (meets : Meets state (.registerTimerEvent (some event))) :
    Kept (registerTimerEvent state event) := by
  have free := meets.2
  have small := state.interval_lt event
  have once : (state.nowMs + state.interval event) % 2 ^ 64 =
      state.nowMs + state.interval event :=
    nextTick_mod kept.nowMs (by omega)
  have twice : (state.nowMs + (state.interval event + state.interval event)) %
      2 ^ 64 = state.nowMs + (state.interval event + state.interval event) :=
    nextTick_mod kept.nowMs (by omega)
  exact
    { implements :=
        { fires := kept.implements.fires
          once := kept.implements.once
          registers := fun other => by
            rw [registerTimerEvent_isRegistered meets,
              kept.implements.registers, registerTimerEvent_timers]
            by_cases same : other = event <;> simp [same] }
      entries := fun entry among => by
        rcases (mem_emplace free entry).mp among with among | rfl
        · exact kept.entries entry among
        · exact ⟨created, rfl⟩
      unique := emplace_unique kept.unique _ _
      nextTick := fun other registered found => by
        rw [registerTimerEvent_timers] at found
        by_cases same : other = event
        · subst same
          rw [Timers.registered_register_self] at found
          obtain rfl := (Option.some.inj found).symm
          change Function.update state.nextTick other _ other = _
          rw [Function.update_self, once]
          change (state.nowMs + state.interval other + state.interval other) %
            2 ^ 64 = state.timers.now + state.interval other +
              state.interval other
          rw [Nat.add_assoc, twice, kept.now, Nat.add_assoc]
        · rw [Timers.registered_register_of_ne same] at found
          change Function.update state.nextTick event _ other = _
          rw [Function.update_of_ne same]
          exact kept.nextTick other registered found
      now := kept.now
      nowMs := kept.nowMs }

theorem mem_unregisterTargetList (timerEventId other : TimerEventId) :
    other ∈ (unregisterTimerEvent state timerEventId).unregisterTargetList ↔
      other ∈ state.unregisterTargetList ∨ other = timerEventId := by
  rw [unregisterTimerEvent]
  dsimp only
  split_ifs with listed
  · exact (or_iff_left_of_imp fun same => same ▸ listed).symm
  · simp

theorem unregisterTimerEvent_isRegistered
    (timerEventId : TimerEventId) (event : Nat) :
    (unregisterTimerEvent state timerEventId).IsRegistered event ↔
      state.eventId event ≠ timerEventId ∧ state.IsRegistered event := by
  rw [State.IsRegistered, mem_unregisterTargetList]
  constructor
  · rintro ⟨among, stays⟩
    exact ⟨fun same => stays (.inr same), among,
      fun listed => stays (.inl listed)⟩
  · rintro ⟨different, among, stays⟩
    exact ⟨among, fun either => either.elim stays different⟩

theorem Kept.unregisterTimerEvent
    (kept : Kept state) (timerEventId : TimerEventId) :
    Kept (unregisterTimerEvent state timerEventId) where
  implements :=
    { fires := kept.implements.fires
      once := kept.implements.once
      registers := fun event => by
        rw [show (Ticker.unregisterTimerEvent state timerEventId).timers =
          state.timers.unregister fun event =>
            state.eventId event = timerEventId from rfl,
          Timers.isSome_registered_unregister, ← kept.implements.registers,
          decide_eq_false_iff_not, unregisterTimerEvent_isRegistered] }
  entries := kept.entries
  unique := kept.unique
  nextTick event registered found := by
    refine kept.nextTick event registered ?_
    exact (Option.ite_none_left_eq_some.mp found).2
  now := kept.now
  nowMs := kept.nowMs

/-- A loop of `SetNextTick` over some events. -/
theorem foldl_setNextTick
    (fired : List Nat) (state : State) :
    fired.foldl (fun state event => state.setNextTick event state.nowMs) state =
      { state with
        nextTick := fun event =>
          if event ∈ fired then (state.nowMs + state.interval event) % 2 ^ 64
          else state.nextTick event } := by
  induction fired generalizing state with
  | nil => simp
  | cons first fired inductionHypothesis =>
      rw [List.foldl_cons, inductionHypothesis]
      simp only [State.setNextTick, List.mem_cons]
      congr 1
      funext event
      by_cases same : event = first
      · subst same
        simp [State.interval]
      · simp [same, State.interval]

/-- The events that a tick fires. -/
def targets (state : State) (time : Nat) : List Nat :=
  ((unregisterTimerEventImpl state).timerEvents.filter fun entry =>
    state.nextTick entry.2 ≤ time).map Prod.snd

theorem updateTick_eq (state : State) (time : Nat) :
    updateTick state time =
      { state with
        nowMs := time
        timerEvents := (unregisterTimerEventImpl state).timerEvents
        unregisterTargetList := []
        nextTick := fun event =>
          if event ∈ targets state time then
            (time + state.interval event) % 2 ^ 64
          else state.nextTick event
        fireTargets := targets state time
        timers := state.timers.tick state.interval time } := by
  rw [updateTick]
  simp only [foldl_setNextTick]
  rfl

/-- What is registered is what the tick leaves in the map. -/
theorem mem_unregisterTimerEventImpl
    (entry : TimerEventId × Nat) :
    entry ∈ (unregisterTimerEventImpl state).timerEvents ↔
      entry ∈ state.timerEvents ∧ entry.1 ∉ state.unregisterTargetList := by
  simp [unregisterTimerEventImpl]

theorem updateTick_isRegistered (time event : Nat) :
    (updateTick state time).IsRegistered event ↔ state.IsRegistered event := by
  rw [updateTick_eq]
  refine (and_iff_left List.not_mem_nil).trans ?_
  exact mem_unregisterTimerEventImpl _

theorem Kept.mem_targets
    (kept : Kept state) (time event : Nat) :
    event ∈ targets state time ↔
      state.IsRegistered event ∧ state.nextTick event ≤ time := by
  simp only [targets, List.mem_map, List.mem_filter, decide_eq_true_eq,
    mem_unregisterTimerEventImpl]
  constructor
  · rintro ⟨entry, ⟨⟨among, stays⟩, fires⟩, rfl⟩
    rw [State.IsRegistered, (kept.entries entry among).2]
    exact ⟨⟨among, stays⟩, fires⟩
  · rintro ⟨⟨among, stays⟩, fires⟩
    exact ⟨_, ⟨⟨among, stays⟩, fires⟩, rfl⟩

/-- No event has two entries. -/
theorem Kept.targets_nodup (kept : Kept state) (time : Nat) :
    (targets state time).Nodup := by
  have subset : ∀ entry ∈ (unregisterTimerEventImpl state).timerEvents.filter
      (fun entry => state.nextTick entry.2 ≤ time),
      entry ∈ state.timerEvents := fun entry among =>
    ((mem_unregisterTimerEventImpl entry).mp (List.mem_of_mem_filter among)).1
  refine List.Nodup.map_on (fun first among second among' same => ?_)
    ((kept.unique.of_map.filter _).filter _)
  refine Prod.ext ?_ same
  rw [← (kept.entries first (subset first among)).2,
    ← (kept.entries second (subset second among')).2, same]

/-- The events that a tick fires are the timers that are due. -/
theorem Kept.targets_due
    (kept : Kept state) {time : Nat}
    (meets : Meets state (.tick time)) (event : Nat) :
    event ∈ targets state time ↔ state.timers.isDue time event = true := by
  rw [kept.mem_targets, Timers.isDue_iff, kept.implements.registers,
    Option.isSome_iff_exists]
  constructor
  · rintro ⟨⟨registered, found⟩, fires⟩
    refine ⟨registered, found, ?_⟩
    rw [kept.nextTick event registered found] at fires
    omega
  · rintro ⟨registered, found, due⟩
    refine ⟨⟨registered, found⟩, ?_⟩
    have created := kept.created ((kept.implements.registers event).mpr (by
      rw [found]
      rfl))
    have timely := meets event created
    rw [kept.nextTick event registered found]
    rw [State.isOverdue, found] at timely
    cases fired : registered.hasFired with
    | true => simpa using due
    | false => simpa [fired, due] using timely

theorem Kept.updateTick
    (kept : Kept state) {time : Nat}
    (inRange : time < clockLimit)
    (meets : Meets state (.tick time)) :
    Kept (updateTick state time) where
  implements :=
    { fires := by
        rw [updateTick_eq]
        exact kept.targets_due meets
      once := by
        rw [updateTick_eq]
        exact kept.targets_nodup time
      registers := fun event => by
        rw [updateTick_isRegistered, kept.implements.registers]
        rw [updateTick_eq]
        dsimp only
        rw [Timers.isSome_registered_tick] }
  entries := by
    rw [updateTick_eq]
    exact fun entry among => kept.entries entry
      ((mem_unregisterTimerEventImpl entry).mp among).1
  unique := by
    rw [updateTick_eq]
    exact kept.unique.sublist (List.filter_sublist.map Prod.fst)
  nextTick event registered found := by
    have due := kept.targets_due meets event
    rw [updateTick_eq] at found ⊢
    change (state.timers.tick state.interval time).registered event = _ at found
    change (if _ then _ else _) = registered.due + if _ then 0 else
      state.interval event
    by_cases fires : event ∈ targets state time
    · rw [Timers.registered_tick_of_isDue (due.mp fires)] at found
      obtain rfl := (Option.some.inj found).symm
      have small := state.interval_lt event
      have fits : (time + state.interval event) % 2 ^ 64 =
          time + state.interval event :=
        nextTick_mod inRange (by omega)
      rw [if_pos fires, fits]
      rfl
    · rw [Timers.registered_tick_of_not_isDue fun timely =>
        fires (due.mpr timely)] at found
      rw [if_neg fires]
      exact kept.nextTick event registered found
  now := by
    rw [updateTick_eq]
    rfl
  nowMs := by
    rw [updateTick_eq]
    exact inRange

end Calls

/-- In every run whose steps meet the condition, the ticker implements its
timers. -/
theorem implements_timers
    {state : State}
    (reached : system.GuardedReachable Meets state) :
    ImplementsTimers state := by
  have kept : Kept state := reached.invariant
    (fun _ begins => by
      obtain ⟨time, inRange, rfl⟩ := begins
      exact initial_kept inRange)
    fun state label next _ kept meets moves => by
      cases label with
      | create intervalMs => exact Option.some.inj moves ▸ kept.create intervalMs
      | registerTimerEvent eventObject =>
          cases eventObject with
          | none => exact Option.some.inj moves ▸ kept
          | some event =>
              simp only [system, step, Option.ite_none_right_eq_some,
                Option.some.injEq] at moves
              exact moves.2 ▸ kept.registerTimerEvent moves.1 meets
      | unregisterTimerEvent timerEventId =>
          exact Option.some.inj moves ▸ kept.unregisterTimerEvent timerEventId
      | tick time =>
          simp only [system, step, Option.ite_none_right_eq_some,
            Option.some.injEq] at moves
          exact moves.2 ▸ kept.updateTick moves.1.2 meets
  exact kept.implements

/-- An event with an interval of ten is registered at 100, and the ticks after its
registration come at 105, 120 and 130. -/
def timelyCalls : List Label :=
  [.create 10, .registerTimerEvent (some 0), .tick 105, .tick 120, .tick 130]

/-- The state behind these calls. -/
def timelyState : State :=
  (system.guardedRun Meets (initial 100) timelyCalls).getD (initial 100)

theorem timelyState_implements_timers : ImplementsTimers timelyState :=
  implements_timers (.guardedRun (.initial ⟨100, by decide, rfl⟩)
    (show system.guardedRun Meets (initial 100) timelyCalls = some timelyState
      from rfl))

/-- A tick comes one interval after the registration. -/
def overdueCalls : List Label :=
  [.create 10, .registerTimerEvent (some 0), .tick 110]

/-- The state behind these calls. -/
def overdueState : State :=
  (system.run (initial 100) overdueCalls).getD (initial 100)

/-- The tick fires nothing. -/
theorem overdueState_skips_event :
    ¬ ∀ state, system.Reachable state → ImplementsTimers state := by
  intro holds
  have implements := holds overdueState (.run
    (.initial ⟨100, by decide, rfl⟩)
    (show system.run (initial 100) overdueCalls = some overdueState from rfl))
  exact absurd ((implements.fires 0).mpr rfl) (by decide)

end Ticker
end MultiSocketRudp
