import MultiSocketRudp.Lib.TransitionSystem
import Mathlib.Data.List.Basic
import Mathlib.Logic.Function.Basic
import Mathlib.Tactic.Common

/-!
# The logger

Any thread may write a log: it is put into a queue, and an event wakes the logger
thread, which takes over the whole queue and writes it to the file.  Servers and
clients share one logger thread; the first one starts it and the last one stops
it.  A second event stops the thread, which then writes what it finds in the
queue.  What comes later is written by the next thread or by the destructor.

The log event resets itself when it wakes the thread; the other one stays set.
The calls that start and stop the thread follow one another, and the destructor
runs after them; writers run beside all of that.
-/

namespace MultiSocketRudp
namespace Logger

open TransitionSystems

/-- An event, or a handle that is still null. -/
abbrev Event := Option Bool

/-- `SetEvent`, which does nothing without a handle. -/
def setEvent : Event → Event :=
  Option.map fun _ => true

/-- Where the logger thread stands. -/
inductive Worker (Log : Type)
  /-- Not started, or ended. -/
  | absent
  /-- In `WaitForMultipleObjects`. -/
  | waiting
  /-- The log event or the stop event has woken it. -/
  | woken (stop : Bool)
  /-- In `WriteLogImpl`, with what is left of `copyLogWaitingQueue`. -/
  | writing (copyLogWaitingQueue : List Log) (stop : Bool)
  deriving DecidableEq, Repr

/-- Where the calls stand that start, stop and destroy the logger. -/
inductive Control (Log : Type)
  | outside
  /-- `RunLoggerThread` is about to create the events. -/
  | creating
  /-- It is about to start the thread. -/
  | starting
  /-- `StopLoggerThread` is about to set the stop event. -/
  | stopping
  /-- It waits for the thread. -/
  | joining
  /-- The destructor is about to take over the queue. -/
  | destroying
  /-- It writes what is left of `remainingLogs`. -/
  | flushing (remainingLogs : List Log)
  | destroyed
  deriving DecidableEq, Repr

/-- The logger and its threads, together with what has happened. -/
structure State (Log : Type) where
  isAlive : Bool
  currentConnectedClientCount : Int
  /-- `loggerEventHandles[0]`. -/
  logEvent : Event
  /-- `loggerEventHandles[1]`. -/
  stopEvent : Event
  /-- The writer that holds the lock; it is about to set the log event. -/
  logQueueLock : Option Nat
  logWaitingQueue : List Log
  worker : Worker Log
  control : Control Log
  /-- The logs of the calls that have found the logger alive. -/
  writers : Nat → Option Log
  /-- The lines of the file. -/
  logFileStream : List Log
  /-- Logs in the order in which they were queued. -/
  accepted : List Log
  /-- Logs that were in the queue when the events were created. -/
  unsignalled : Nat
  /-- Logs that were queued before the last stop, or before the destructor. -/
  promised : Nat

/-- The atomic steps. -/
inductive Label (Log : Type)
  /-- `WriteLog` finds the logger alive. -/
  | writeLog (thread : Nat) (logObject : Log)
  /-- It takes the lock and queues the log. -/
  | push (thread : Nat)
  /-- It sets the log event and releases the lock. -/
  | setLogEvent
  /-- The logger thread wakes up. -/
  | wake
  /-- It takes over the queue. -/
  | swap
  | writeLogToFile
  /-- `WriteLogImpl` returns; the thread waits again or ends. -/
  | writeLogImplReturns
  | runLoggerThread
  | createEvents
  | startThread
  | stopLoggerThread
  | setStopEvent
  | join
  /-- The destructor resets `isAlive`. -/
  | destroy
  | swapRemaining
  | writeRemaining
  | close

variable {Log : Type}

/-- One atomic step. -/
def step (state : State Log) : Label Log → Option (State Log)
  | .writeLog thread logObject =>
      if state.isAlive = true ∧ state.writers thread = none ∧
          state.logQueueLock ≠ some thread then
        some
          { state with
            writers := Function.update state.writers thread (some logObject) }
      else none
  | .push thread =>
      match state.logQueueLock, state.writers thread with
      | none, some logObject =>
          some
            { state with
              logQueueLock := some thread
              logWaitingQueue := state.logWaitingQueue ++ [logObject]
              writers := Function.update state.writers thread none
              accepted := state.accepted ++ [logObject] }
      | _, _ => none
  | .setLogEvent =>
      state.logQueueLock.map fun _ =>
        { state with
          logQueueLock := none
          logEvent := setEvent state.logEvent }
  | .wake =>
      match state.worker with
      | .waiting =>
          -- Of two events that are set, the log event counts.
          if state.logEvent = some true then
            some
              { state with logEvent := some false, worker := .woken false }
          else if state.stopEvent = some true then
            some { state with worker := .woken true }
          else none
      | _ => none
  | .swap =>
      match state.worker, state.logQueueLock with
      | .woken stop, none =>
          some
            { state with
              logWaitingQueue := []
              worker := .writing state.logWaitingQueue stop
              unsignalled := 0 }
      | _, _ => none
  | .writeLogToFile =>
      match state.worker with
      | .writing (logObject :: copyLogWaitingQueue) stop =>
          some
            { state with
              worker := .writing copyLogWaitingQueue stop
              logFileStream := state.logFileStream ++ [logObject] }
      | _ => none
  | .writeLogImplReturns =>
      match state.worker with
      | .writing [] stop =>
          some { state with worker := if stop then .absent else .waiting }
      | _ => none
  | .runLoggerThread =>
      match state.control with
      | .outside =>
          some
            { state with
              currentConnectedClientCount :=
                state.currentConnectedClientCount + 1
              control :=
                if state.currentConnectedClientCount > 0 then .outside
                else .creating }
      | _ => none
  | .createEvents =>
      match state.control with
      | .creating =>
          some
            { state with
              logEvent := some false
              stopEvent := some false
              control := .starting
              unsignalled := state.logWaitingQueue.length }
      | _ => none
  | .startThread =>
      -- A thread that is still there would have to be waited for.
      match state.control, state.worker with
      | .starting, .absent =>
          some { state with worker := .waiting, control := .outside }
      | _, _ => none
  | .stopLoggerThread =>
      match state.control with
      | .outside =>
          some
            { state with
              currentConnectedClientCount :=
                state.currentConnectedClientCount - 1
              control :=
                if state.currentConnectedClientCount ≠ 1 then .outside
                else .stopping }
      | _ => none
  | .setStopEvent =>
      match state.control with
      | .stopping =>
          some
            { state with
              stopEvent := setEvent state.stopEvent
              control := .joining
              promised := state.accepted.length }
      | _ => none
  | .join =>
      match state.control, state.worker with
      | .joining, .absent => some { state with control := .outside }
      | _, _ => none
  | .destroy =>
      match state.control with
      | .outside =>
          some
            { state with
              isAlive := false
              control := .destroying
              promised := state.accepted.length }
      | _ => none
  | .swapRemaining =>
      match state.control, state.logQueueLock with
      | .destroying, none =>
          some
            { state with
              logWaitingQueue := []
              control := .flushing state.logWaitingQueue
              unsignalled := 0 }
      | _, _ => none
  | .writeRemaining =>
      match state.control with
      | .flushing (logObject :: remainingLogs) =>
          some
            { state with
              control := .flushing remainingLogs
              logFileStream := state.logFileStream ++ [logObject] }
      | _ => none
  | .close =>
      match state.control with
      | .flushing [] => some { state with control := .destroyed }
      | _ => none

/-- The logger has been constructed. -/
def initial : State Log where
  isAlive := true
  currentConnectedClientCount := 0
  logEvent := none
  stopEvent := none
  logQueueLock := none
  logWaitingQueue := []
  worker := .absent
  control := .outside
  writers _ := none
  logFileStream := []
  accepted := []
  unsignalled := 0
  promised := 0

/-- The runs of the logger. -/
def system (Log : Type) : TransitionSystem (State Log) (Label Log) where
  Initial state := state = initial
  step := step

/-- Every `StopLoggerThread` belongs to a `RunLoggerThread`, the 16-bit counter does
not overflow, and the destructor comes after all of them. -/
def Balanced (state : State Log) (label : Label Log) : Prop :=
  match label with
  | .runLoggerThread => state.currentConnectedClientCount < 32767
  | .stopLoggerThread => 1 ≤ state.currentConnectedClientCount
  | .destroy => state.currentConnectedClientCount = 0
  | _ => True

instance (state : State Log) (label : Label Log) :
    Decidable (Balanced state label) :=
  match label with
  | .runLoggerThread => Int.decLt _ _
  | .stopLoggerThread => Int.decLe _ _
  | .destroy => Int.instDecidableEq _ _
  | .writeLog _ _ | .push _ | .setLogEvent | .wake | .swap | .writeLogToFile
  | .writeLogImplReturns | .createEvents | .startThread | .setStopEvent
  | .join | .swapRemaining | .writeRemaining | .close => .isTrue trivial

/-- What the logger thread has taken over and not yet written. -/
def Worker.copy : Worker Log → List Log
  | .writing copyLogWaitingQueue _ => copyLogWaitingQueue
  | .absent | .waiting | .woken _ => []

/-- What the destructor has taken over and not yet written. -/
def Control.remaining : Control Log → List Log
  | .flushing remainingLogs => remainingLogs
  | _ => []

/-- No call of `StopLoggerThread` is under way, and the destructor has not begun or
has ended. -/
def Control.settled : Control Log → Bool
  | .outside | .creating | .starting | .stopping | .destroyed => true
  | .joining | .destroying | .flushing _ => false

/-- What the logger promises. -/
structure Faithful (state : State Log) : Prop where
  /-- Every log is written, taken over or queued, once and in its order. -/
  nothing_lost :
    state.logFileStream ++ state.worker.copy ++ state.control.remaining ++
      state.logWaitingQueue = state.accepted
  /-- While the thread waits for an event that is not set, the queue has only logs
  from before the events were created. -/
  signalled : state.worker = .waiting → state.logEvent = some false →
    state.logQueueLock = none →
      state.logWaitingQueue.length ≤ state.unsignalled
  /-- When `StopLoggerThread` or the destructor has ended, what was queued before it
  is in the file. -/
  flushed : state.control.settled = true →
    state.accepted.take state.promised <+: state.logFileStream

/-! ## The invariant -/

/-- The thread has seen the stop event. -/
def Worker.stops : Worker Log → Bool
  | .woken stop | .writing _ stop => stop
  | .absent | .waiting => false

/-- The logger thread is there, and nobody has stopped it. -/
structure Running (worker : Worker Log) (stopEvent : Event) : Prop where
  present : worker ≠ .absent
  unstopped : worker.stops = false
  unset : stopEvent = some false

/-- What holds of the counter and the thread while the calls stand somewhere. -/
def Controlled
    (control : Control Log) (count : Int)
    (worker : Worker Log) (stopEvent : Event) : Prop :=
  match control with
  | .outside =>
      0 ≤ count ∧ (count = 0 → worker = .absent) ∧
        (count ≠ 0 → Running worker stopEvent)
  | .creating => count = 1 ∧ worker = .absent
  | .starting => count = 1 ∧ worker = .absent ∧ stopEvent = some false
  | .stopping => count = 0 ∧ Running worker stopEvent
  | .joining => count = 0 ∧ stopEvent = some true
  | .destroying | .flushing _ | .destroyed => count = 0 ∧ worker = .absent

/-- While someone is counted, the thread runs. -/
theorem controlled_of_running
    {count : Int} {worker : Worker Log} {stopEvent : Event}
    (counted : 0 < count)
    (running : Running worker stopEvent) :
    Controlled .outside count worker stopEvent :=
  ⟨by omega, fun none => by omega, fun _ => running⟩

/-- The number of logs that are in the file when the call that has been promised
them ends, as far as that is decided. -/
def secured (control : Control Log) (worker : Worker Log) (written : Nat) :
    Option Nat :=
  match control with
  | .joining =>
      match worker with
      | .absent => some written
      | .writing copy true => some (written + copy.length)
      | .waiting | .woken _ | .writing _ false => none
  | .destroying => none
  | .flushing remaining => some (written + remaining.length)
  | .outside | .creating | .starting | .stopping | .destroyed => some written

/-- Logs are accounted for, and the log event is set for those in the queue. -/
structure Invariant (state : State Log) : Prop where
  nothing_lost :
    state.logFileStream ++ state.worker.copy ++ state.control.remaining ++
      state.logWaitingQueue = state.accepted
  controlled :
    Controlled state.control state.currentConnectedClientCount state.worker
      state.stopEvent
  signalled : state.logEvent = some false →
    state.logWaitingQueue.length ≤ state.unsignalled ∨
      state.logQueueLock ≠ none ∨ ∃ stop, state.worker = .woken stop
  promised : state.promised ≤ state.accepted.length
  flushed : ∀ number,
    secured state.control state.worker state.logFileStream.length =
      some number → state.promised ≤ number

namespace Invariant

variable {state next : State Log}

theorem initial : Invariant (Logger.initial : State Log) where
  nothing_lost := rfl
  controlled := ⟨Int.le_refl _, fun _ => rfl, fun counted => absurd rfl counted⟩
  signalled unset := nomatch unset
  promised := Nat.le_refl _
  flushed _ _ := Nat.zero_le _

/-- While the thread is there, the calls are outside, stopping or joining. -/
theorem control_of_present
    (holds : Invariant state)
    (present : state.worker ≠ .absent) :
    Running state.worker state.stopEvent ∧
        (state.control = .outside ∨ state.control = .stopping) ∨
      state.control = .joining ∧ state.stopEvent = some true := by
  have controlled := holds.controlled
  unfold Controlled at controlled
  split at controlled
  next outside =>
    obtain ⟨-, absent, running⟩ := controlled
    exact .inl ⟨running fun none => present (absent none), .inl outside⟩
  next => exact absurd controlled.2 present
  next => exact absurd controlled.2.1 present
  next stopping => exact .inl ⟨controlled.2, .inr stopping⟩
  next joining => exact .inr ⟨joining, controlled.2⟩
  next => exact absurd controlled.2 present
  next => exact absurd controlled.2 present
  next => exact absurd controlled.2 present

/-- Then the destructor has taken nothing. -/
theorem remaining_of_present
    (holds : Invariant state)
    (present : state.worker ≠ .absent) :
    state.control.remaining = [] := by
  rcases holds.control_of_present present with
    ⟨-, outside | stopping⟩ | ⟨joining, -⟩
  · rw [outside]
    rfl
  · rw [stopping]
    rfl
  · rw [joining]
    rfl

/-- A thread that stops has been told to. -/
theorem joining_of_stops
    (holds : Invariant state)
    (stops : state.worker.stops = true) :
    state.control = .joining ∧ state.stopEvent = some true := by
  have present : state.worker ≠ .absent := by
    intro absent
    rw [absent] at stops
    cases stops
  rcases holds.control_of_present present with ⟨running, -⟩ | joining
  · exact absurd stops (by simp [running.unstopped])
  · exact joining

/-- The thread moves on. -/
theorem controlled_withWorker
    (holds : Invariant state)
    (present : state.worker ≠ .absent)
    {worker : Worker Log}
    (stays : worker ≠ .absent)
    (stops : worker.stops = true → state.stopEvent = some true) :
    Controlled state.control state.currentConnectedClientCount worker
      state.stopEvent := by
  have controlled := holds.controlled
  have goesOn (running : Running state.worker state.stopEvent) :
      Running worker state.stopEvent := by
    refine ⟨stays, ?_, running.unset⟩
    cases told : worker.stops with
    | false => rfl
    | true => cases running.unset.symm.trans (stops told)
  rcases holds.control_of_present present with
    ⟨running, outside | stopping⟩ | ⟨joining, -⟩
  · rw [outside] at controlled ⊢
    exact ⟨controlled.1, fun none => absurd (controlled.2.1 none) present,
      fun _ => goesOn running⟩
  · rw [stopping] at controlled ⊢
    exact ⟨controlled.1, goesOn running⟩
  · rw [joining] at controlled ⊢
    exact controlled

/-- Then only a call that waits for the thread can still gain by what it does. -/
theorem flushed_withWorker
    (holds : Invariant state)
    (present : state.worker ≠ .absent)
    {worker : Worker Log} {written : Nat}
    (longer : state.logFileStream.length ≤ written)
    (joining : state.control = .joining → ∀ number,
      secured .joining worker written = some number →
        state.promised ≤ number) :
    ∀ number, secured state.control worker written = some number →
      state.promised ≤ number := by
  have flushed := holds.flushed
  rcases holds.control_of_present present with
    ⟨-, outside | stopping⟩ | ⟨stands, -⟩
  · rw [outside] at flushed ⊢
    rintro _ ⟨⟩
    exact Nat.le_trans (flushed _ rfl) longer
  · rw [stopping] at flushed ⊢
    rintro _ ⟨⟩
    exact Nat.le_trans (flushed _ rfl) longer
  · rw [stands]
    exact joining stands

/-- A writer queues a log. -/
theorem push
    (holds : Invariant state)
    (thread : Nat) (logObject : Log) :
    Invariant
      { state with
        logQueueLock := some thread
        logWaitingQueue := state.logWaitingQueue ++ [logObject]
        writers := Function.update state.writers thread none
        accepted := state.accepted ++ [logObject] } :=
  { holds with
    nothing_lost := by
      rw [← List.append_assoc, holds.nothing_lost]
    signalled := fun _ => .inr (.inl nofun)
    promised := by
      rw [List.length_append]
      exact Nat.le_add_right_of_le holds.promised }

/-- It sets the log event. -/
theorem setLogEvent (holds : Invariant state) :
    Invariant
      { state with
        logQueueLock := none
        logEvent := setEvent state.logEvent } :=
  { holds with
    signalled := by
      intro unset
      cases event : state.logEvent with
      | none =>
          rw [event] at unset
          cases unset
      | some isSet =>
          rw [event] at unset
          cases unset }

/-- One of the events wakes the thread. -/
theorem wake
    (holds : Invariant state)
    (waits : state.worker = .waiting)
    {stop : Bool}
    (told : stop = true → state.stopEvent = some true)
    (logEvent : Event) :
    Invariant { state with logEvent, worker := .woken stop } := by
  have present : state.worker ≠ .absent := by
    rw [waits]
    rintro ⟨⟩
  exact
    { holds with
      nothing_lost := by
        have nothing_lost := holds.nothing_lost
        rwa [waits] at nothing_lost
      controlled := holds.controlled_withWorker present (by rintro ⟨⟩) told
      signalled := fun _ => .inr (.inr ⟨stop, rfl⟩)
      flushed := holds.flushed_withWorker present (Nat.le_refl _)
        (by rintro - _ ⟨⟩) }

/-- The thread takes over the queue. -/
theorem swap
    (holds : Invariant state)
    {stop : Bool}
    (woken : state.worker = .woken stop) :
    Invariant
      { state with
        logWaitingQueue := []
        worker := .writing state.logWaitingQueue stop
        unsignalled := 0 } := by
  have present : state.worker ≠ .absent := by
    rw [woken]
    rintro ⟨⟩
  have none := holds.remaining_of_present present
  have nothing_lost := holds.nothing_lost
  rw [woken, none] at nothing_lost
  simp only [Worker.copy, List.append_nil] at nothing_lost
  exact
    { holds with
      nothing_lost := by
        rw [none, ← nothing_lost]
        simp [Worker.copy]
      controlled := holds.controlled_withWorker present (by rintro ⟨⟩)
        fun stops => (holds.joining_of_stops (woken ▸ stops)).2
      signalled := fun _ => .inl (Nat.le_refl _)
      flushed := by
        refine holds.flushed_withWorker present (Nat.le_refl _) ?_
        intro _ number taken
        cases stop with
        | false => cases taken
        | true =>
            obtain rfl := Option.some.inj taken
            rw [← List.length_append, nothing_lost]
            exact holds.promised }

/-- The thread writes a log. -/
theorem writeLogToFile
    (holds : Invariant state)
    {logObject : Log} {copyLogWaitingQueue : List Log} {stop : Bool}
    (writes :
      state.worker = .writing (logObject :: copyLogWaitingQueue) stop) :
    Invariant
      { state with
        worker := .writing copyLogWaitingQueue stop
        logFileStream := state.logFileStream ++ [logObject] } := by
  have present : state.worker ≠ .absent := by
    rw [writes]
    rintro ⟨⟩
  exact
    { holds with
      nothing_lost := by
        rw [← holds.nothing_lost, writes]
        simp [Worker.copy]
      controlled := holds.controlled_withWorker present (by rintro ⟨⟩)
        fun stops => (holds.joining_of_stops (writes ▸ stops)).2
      signalled := by
        intro unset
        refine (holds.signalled unset).imp_right (Or.imp_right ?_)
        rintro ⟨stop, woken⟩
        cases writes.symm.trans woken
      flushed := by
        refine holds.flushed_withWorker present (by simp) ?_
        intro joining number taken
        cases stop with
        | false => cases taken
        | true =>
            have flushed := holds.flushed
            rw [joining, writes] at flushed
            obtain rfl := Option.some.inj taken
            refine Nat.le_trans (flushed _ rfl) ?_
            simp only [List.length_append, List.length_cons, List.length_nil]
            omega }

/-- The thread has written everything. -/
theorem writeLogImplReturns
    (holds : Invariant state)
    {stop : Bool}
    (written : state.worker = .writing [] stop) :
    Invariant
      { state with worker := if stop then .absent else .waiting } := by
  have present : state.worker ≠ .absent := by
    rw [written]
    rintro ⟨⟩
  have signalled : state.logEvent = some false →
      state.logWaitingQueue.length ≤ state.unsignalled ∨
        state.logQueueLock ≠ none := by
    intro unset
    rcases holds.signalled unset with few | locked | ⟨_, woken⟩
    · exact .inl few
    · exact .inr locked
    · cases written.symm.trans woken
  have nothing_lost := holds.nothing_lost
  rw [written] at nothing_lost
  cases stop with
  | false =>
      exact
        { holds with
          nothing_lost
          controlled := holds.controlled_withWorker present (by rintro ⟨⟩)
            (by rintro ⟨⟩)
          signalled := fun unset => (signalled unset).imp_right .inl
          flushed := holds.flushed_withWorker present (Nat.le_refl _)
            (by rintro - _ ⟨⟩) }
  | true =>
      have joining := holds.joining_of_stops (by rw [written]; rfl)
      have controlled := holds.controlled
      have flushed := holds.flushed
      rw [joining.1] at controlled flushed
      rw [written] at flushed
      exact
        { holds with
          nothing_lost
          controlled := by
            rw [joining.1]
            exact controlled
          signalled := fun unset => (signalled unset).imp_right .inl
          flushed := by
            rw [joining.1]
            exact flushed }

/-- `RunLoggerThread` is called. -/
theorem runLoggerThread
    (holds : Invariant state)
    (outside : state.control = .outside) :
    Invariant
      { state with
        currentConnectedClientCount := state.currentConnectedClientCount + 1
        control :=
          if state.currentConnectedClientCount > 0 then .outside
          else .creating } := by
  have nothing_lost := holds.nothing_lost
  have flushed := holds.flushed
  rw [outside] at nothing_lost flushed
  obtain ⟨positive, absent, running⟩ :
      0 ≤ state.currentConnectedClientCount ∧
        (state.currentConnectedClientCount = 0 → state.worker = .absent) ∧
        (state.currentConnectedClientCount ≠ 0 →
          Running state.worker state.stopEvent) := by
    have controlled := holds.controlled
    rwa [outside] at controlled
  by_cases counted : state.currentConnectedClientCount > 0
  · rw [if_pos counted]
    exact
      { holds with
        nothing_lost
        controlled :=
          have more : 0 < state.currentConnectedClientCount + 1 := by omega
          controlled_of_running more (running (by omega))
        flushed }
  · rw [if_neg counted]
    have none : state.currentConnectedClientCount = 0 := by omega
    exact
      { holds with
        nothing_lost
        controlled := ⟨by rw [none]; rfl, absent none⟩
        flushed }

/-- The events are created. -/
theorem createEvents
    (holds : Invariant state)
    (creating : state.control = .creating) :
    Invariant
      { state with
        logEvent := some false
        stopEvent := some false
        control := .starting
        unsignalled := state.logWaitingQueue.length } := by
  have nothing_lost := holds.nothing_lost
  have controlled := holds.controlled
  have flushed := holds.flushed
  rw [creating] at nothing_lost controlled flushed
  exact
    { holds with
      nothing_lost
      controlled := ⟨controlled.1, controlled.2, rfl⟩
      signalled := fun _ => .inl (Nat.le_refl _)
      flushed }

/-- The thread is started. -/
theorem startThread
    (holds : Invariant state)
    (starting : state.control = .starting)
    (absent : state.worker = .absent) :
    Invariant { state with worker := .waiting, control := .outside } := by
  have nothing_lost := holds.nothing_lost
  have controlled := holds.controlled
  have flushed := holds.flushed
  rw [starting] at nothing_lost controlled flushed
  rw [absent] at nothing_lost
  obtain ⟨one, -, unset⟩ := controlled
  exact
    { holds with
      nothing_lost
      controlled :=
        have counted : 0 < state.currentConnectedClientCount := by omega
        controlled_of_running counted ⟨by rintro ⟨⟩, rfl, unset⟩
      signalled := by
        intro unset
        refine (holds.signalled unset).imp_right (Or.imp_right ?_)
        rintro ⟨stop, woken⟩
        cases absent.symm.trans woken
      flushed }

/-- `StopLoggerThread` is called. -/
theorem stopLoggerThread
    (holds : Invariant state)
    (outside : state.control = .outside)
    (started : 1 ≤ state.currentConnectedClientCount) :
    Invariant
      { state with
        currentConnectedClientCount := state.currentConnectedClientCount - 1
        control :=
          if state.currentConnectedClientCount ≠ 1 then .outside
          else .stopping } := by
  have nothing_lost := holds.nothing_lost
  have flushed := holds.flushed
  rw [outside] at nothing_lost flushed
  have running : Running state.worker state.stopEvent := by
    have controlled := holds.controlled
    rw [outside] at controlled
    exact controlled.2.2 (by omega)
  by_cases last : state.currentConnectedClientCount = 1
  · rw [if_neg (not_not_intro last)]
    exact
      { holds with
        nothing_lost
        controlled :=
          have none : state.currentConnectedClientCount - 1 = 0 := by omega
          ⟨none, running⟩
        flushed }
  · rw [if_pos last]
    exact
      { holds with
        nothing_lost
        controlled :=
          have left : 0 < state.currentConnectedClientCount - 1 := by omega
          controlled_of_running left running
        flushed }

/-- The stop event is set. -/
theorem setStopEvent
    (holds : Invariant state)
    (stopping : state.control = .stopping) :
    Invariant
      { state with
        stopEvent := setEvent state.stopEvent
        control := .joining
        promised := state.accepted.length } := by
  have nothing_lost := holds.nothing_lost
  have controlled := holds.controlled
  rw [stopping] at nothing_lost controlled
  obtain ⟨none, running⟩ := controlled
  exact
    { holds with
      nothing_lost
      controlled := ⟨none, by rw [running.unset]; rfl⟩
      promised := Nat.le_refl _
      flushed := by
        intro number taken
        have present := running.present
        have unstopped := running.unstopped
        unfold secured at taken
        cases worker : state.worker with
        | absent => exact absurd worker present
        | waiting =>
            rw [worker] at taken
            cases taken
        | woken stop =>
            rw [worker] at taken
            cases taken
        | writing copy stop =>
            rw [worker] at taken unstopped
            obtain rfl : stop = false := unstopped
            cases taken }

/-- The thread has ended. -/
theorem join
    (holds : Invariant state)
    (joining : state.control = .joining)
    (absent : state.worker = .absent) :
    Invariant { state with control := .outside } := by
  have nothing_lost := holds.nothing_lost
  have controlled := holds.controlled
  have flushed := holds.flushed
  rw [joining] at nothing_lost controlled flushed
  rw [absent] at flushed
  exact
    { holds with
      nothing_lost
      controlled := ⟨Int.le_of_eq controlled.1.symm,
        fun _ => absent, fun counted => absurd controlled.1 counted⟩
      flushed }

/-- The destructor begins. -/
theorem destroy
    (holds : Invariant state)
    (outside : state.control = .outside)
    (none : state.currentConnectedClientCount = 0) :
    Invariant
      { state with
        isAlive := false
        control := .destroying
        promised := state.accepted.length } := by
  have nothing_lost := holds.nothing_lost
  have controlled := holds.controlled
  rw [outside] at nothing_lost controlled
  exact
    { holds with
      nothing_lost
      controlled := ⟨none, controlled.2.1 none⟩
      promised := Nat.le_refl _
      flushed := by rintro _ ⟨⟩ }

/-- It takes over the queue. -/
theorem swapRemaining
    (holds : Invariant state)
    (destroying : state.control = .destroying) :
    Invariant
      { state with
        logWaitingQueue := []
        control := .flushing state.logWaitingQueue
        unsignalled := 0 } := by
  have nothing_lost := holds.nothing_lost
  have controlled := holds.controlled
  rw [destroying] at nothing_lost controlled
  rw [controlled.2] at nothing_lost
  simp only [Worker.copy, Control.remaining, List.append_nil] at nothing_lost
  exact
    { holds with
      nothing_lost := by
        rw [controlled.2, ← nothing_lost]
        simp [Worker.copy, Control.remaining]
      controlled
      signalled := fun _ => .inl (Nat.le_refl _)
      flushed := by
        rintro _ ⟨⟩
        rw [← List.length_append, nothing_lost]
        exact holds.promised }

/-- It writes a log. -/
theorem writeRemaining
    (holds : Invariant state)
    {logObject : Log} {remainingLogs : List Log}
    (flushing : state.control = .flushing (logObject :: remainingLogs)) :
    Invariant
      { state with
        control := .flushing remainingLogs
        logFileStream := state.logFileStream ++ [logObject] } := by
  have nothing_lost := holds.nothing_lost
  have controlled := holds.controlled
  have flushed := holds.flushed
  rw [flushing] at nothing_lost controlled flushed
  rw [controlled.2] at nothing_lost
  exact
    { holds with
      nothing_lost := by
        rw [controlled.2, ← nothing_lost]
        simp [Worker.copy, Control.remaining]
      controlled
      flushed := by
        rintro _ ⟨⟩
        refine Nat.le_trans (flushed _ rfl) ?_
        simp only [List.length_append, List.length_cons, List.length_nil]
        omega }

/-- The destructor ends. -/
theorem close
    (holds : Invariant state)
    (flushing : state.control = .flushing []) :
    Invariant { state with control := .destroyed } := by
  have nothing_lost := holds.nothing_lost
  have controlled := holds.controlled
  have flushed := holds.flushed
  rw [flushing] at nothing_lost controlled flushed
  exact { holds with nothing_lost, controlled, flushed }

/-- Every step keeps the invariant. -/
theorem step
    {label : Label Log}
    (holds : Invariant state)
    (balanced : Balanced state label)
    (moves : Logger.step state label = some next) :
    Invariant next := by
  cases label with
  | writeLog thread logObject =>
      simp only [Logger.step, Option.ite_none_right_eq_some,
        Option.some.injEq] at moves
      obtain ⟨-, rfl⟩ := moves
      exact { holds with }
  | push thread =>
      simp only [Logger.step] at moves
      split at moves
      next logObject _ _ =>
        obtain rfl := Option.some.inj moves
        exact holds.push thread logObject
      next => cases moves
  | setLogEvent =>
      obtain ⟨_, -, rfl⟩ := Option.map_eq_some_iff.mp moves
      exact holds.setLogEvent
  | wake =>
      simp only [Logger.step] at moves
      split at moves
      next waits =>
        split at moves
        · obtain rfl := Option.some.inj moves
          exact holds.wake waits (by rintro ⟨⟩) _
        · obtain ⟨told, moves⟩ := Option.ite_none_right_eq_some.mp moves
          obtain rfl := Option.some.inj moves
          exact holds.wake waits (fun _ => told) _
      next => cases moves
  | swap =>
      simp only [Logger.step] at moves
      split at moves
      next woken _ =>
        obtain rfl := Option.some.inj moves
        exact holds.swap woken
      next => cases moves
  | writeLogToFile =>
      simp only [Logger.step] at moves
      split at moves
      next writes =>
        obtain rfl := Option.some.inj moves
        exact holds.writeLogToFile writes
      next => cases moves
  | writeLogImplReturns =>
      simp only [Logger.step] at moves
      split at moves
      next written =>
        obtain rfl := Option.some.inj moves
        exact holds.writeLogImplReturns written
      next => cases moves
  | runLoggerThread =>
      simp only [Logger.step] at moves
      split at moves
      next outside =>
        obtain rfl := Option.some.inj moves
        exact holds.runLoggerThread outside
      next => cases moves
  | createEvents =>
      simp only [Logger.step] at moves
      split at moves
      next creating =>
        obtain rfl := Option.some.inj moves
        exact holds.createEvents creating
      next => cases moves
  | startThread =>
      simp only [Logger.step] at moves
      split at moves
      next starting absent =>
        obtain rfl := Option.some.inj moves
        exact holds.startThread starting absent
      next => cases moves
  | stopLoggerThread =>
      simp only [Logger.step] at moves
      split at moves
      next outside =>
        obtain rfl := Option.some.inj moves
        exact holds.stopLoggerThread outside balanced
      next => cases moves
  | setStopEvent =>
      simp only [Logger.step] at moves
      split at moves
      next stopping =>
        obtain rfl := Option.some.inj moves
        exact holds.setStopEvent stopping
      next => cases moves
  | join =>
      simp only [Logger.step] at moves
      split at moves
      next joining absent =>
        obtain rfl := Option.some.inj moves
        exact holds.join joining absent
      next => cases moves
  | destroy =>
      simp only [Logger.step] at moves
      split at moves
      next outside =>
        obtain rfl := Option.some.inj moves
        exact holds.destroy outside balanced
      next => cases moves
  | swapRemaining =>
      simp only [Logger.step] at moves
      split at moves
      next destroying _ =>
        obtain rfl := Option.some.inj moves
        exact holds.swapRemaining destroying
      next => cases moves
  | writeRemaining =>
      simp only [Logger.step] at moves
      split at moves
      next flushing =>
        obtain rfl := Option.some.inj moves
        exact holds.writeRemaining flushing
      next => cases moves
  | close =>
      simp only [Logger.step] at moves
      split at moves
      next flushing =>
        obtain rfl := Option.some.inj moves
        exact holds.close flushing
      next => cases moves

/-- The invariant gives the promise. -/
theorem faithful (holds : Invariant state) : Faithful state where
  nothing_lost := holds.nothing_lost
  signalled waits unset unlocked := by
    rcases holds.signalled unset with few | locked | ⟨_, woken⟩
    · exact few
    · exact absurd unlocked locked
    · cases waits.symm.trans woken
  flushed settled := by
    have written : state.logFileStream <+: state.accepted := by
      rw [← holds.nothing_lost, List.append_assoc, List.append_assoc]
      exact List.prefix_append _ _
    have reached : state.promised ≤ state.logFileStream.length := by
      refine holds.flushed _ ?_
      cases control : state.control <;> rw [control] at settled <;>
        first | rfl | cases settled
    rw [List.prefix_iff_eq_take.mp written]
    exact List.take_prefix_take_left reached

end Invariant

/-- In every balanced run, for any writers, every log is in the file, taken over or
in the queue, once and in its order; the thread does not wait while a log that was
signalled is in the queue; and when a stop or the destructor has ended, everything
that was queued before it is in the file. -/
theorem faithful_of_balanced
    {state : State Log}
    (reached : (system Log).GuardedReachable Balanced state) :
    Faithful state := by
  refine Invariant.faithful (reached.invariant ?_ ?_)
  · rintro _ rfl
    exact Invariant.initial
  · intro before label after _ holds balanced moves
    exact holds.step balanced moves

/-! ## A log after the stop -/

/-- A log is written by the thread, one is queued while the thread stops, and the
destructor writes the latter. -/
def lateLog : List (Label Nat) :=
  [.runLoggerThread, .createEvents, .startThread, .writeLog 0 7, .push 0,
    .setLogEvent, .wake, .swap, .writeLogToFile, .writeLogImplReturns,
    .stopLoggerThread, .setStopEvent, .wake, .swap, .writeLog 1 8, .push 1,
    .setLogEvent, .writeLogImplReturns, .join, .destroy, .swapRemaining,
    .writeRemaining, .close]

/-- The state after it. -/
def lateLogWritten : State Nat :=
  ((system Nat).run initial lateLog).getD initial

theorem guardedRun_lateLog :
    (system Nat).guardedRun Balanced initial lateLog = some lateLogWritten :=
  rfl

example : lateLogWritten.logFileStream = [7, 8] := rfl

theorem faithful_of_balanced_lateLogWritten : Faithful lateLogWritten :=
  faithful_of_balanced
    (TransitionSystem.GuardedReachable.guardedRun (.initial rfl)
      guardedRun_lateLog)

end Logger
end MultiSocketRudp
