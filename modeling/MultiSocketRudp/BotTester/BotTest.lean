import MultiSocketRudp.Lib.Dictionary
import MultiSocketRudp.Lib.TransitionSystem
import Mathlib.Data.Fin.Basic

/-!
# A bot test

`StartBotTest` creates the sessions of a test one by one, assigns their
`OnSessionDisconnected`, enters them into `sessionDictionary` and marks the setup
as complete.  A session is alive from its construction, so its `Cleanup` can run
at any time.  `BotTestCompletionTracker` counts the calls of
`OnSessionDisconnected` and completes the test when all bots are gone.

Every access to a shared field and every lock section is one step, except for the
section of `StopBotTest`, which runs `Cleanup` of the sessions under its lock.
When `Cleanup` is called, which ids the sessions get, when the broker refuses and
when another test uses the dictionary, is left open.
-/

namespace MultiSocketRudp
namespace BotTester
namespace BotTest

open TransitionSystems Dictionary

/-- `SessionIdType`. -/
abbrev SessionId := Nat

/-! ## The tracker -/

/-- `ActiveState`, `CompletedState` and `CancelledState`. -/
inductive TrackerState
  | active
  | completed
  | cancelled
  deriving DecidableEq, Repr

/-- `BotTestCompletionTracker`. -/
structure BotTestCompletionTracker where
  disconnectedBotCount : Nat
  isSetupComplete : Bool
  state : TrackerState
  /-- How often `onCompleted` has been called. -/
  completions : Nat
  deriving DecidableEq, Repr

/-- Where a call of `TryComplete` stands. -/
inductive TryComplete
  /-- About to read `isSetupComplete`. -/
  | testing
  /-- About to read `disconnectedBotCount`. -/
  | counting
  /-- About to compare and swap `state`. -/
  | swapping
  /-- About to call `onCompleted`. -/
  | notifying
  deriving DecidableEq, Repr

namespace BotTestCompletionTracker

/-- `Cancel`. -/
def cancel (tracker : BotTestCompletionTracker) : BotTestCompletionTracker :=
  if tracker.state = .active then { tracker with state := .cancelled }
  else tracker

/-- The next step of `TryComplete`, and where the call stands unless it has
returned. -/
def tryComplete
    (tracker : BotTestCompletionTracker) (expectedBotCount : Nat) :
    TryComplete → BotTestCompletionTracker × Option TryComplete
  | .testing =>
      (tracker, if tracker.isSetupComplete then some .counting else none)
  | .counting =>
      (tracker,
        if tracker.disconnectedBotCount = expectedBotCount then some .swapping
        else none)
  | .swapping =>
      if tracker.state = .active then
        ({ tracker with state := .completed }, some .notifying)
      else (tracker, none)
  | .notifying =>
      ({ tracker with completions := tracker.completions + 1 }, none)

end BotTestCompletionTracker

/-! ## Sessions -/

/-- Where the `Cleanup` of a session stands. -/
inductive Cleanup
  | outside
  /-- About to capture the session id. -/
  | begun
  /-- About to reset the session id. -/
  | captured (sessionId : SessionId)
  /-- About to look for `OnSessionDisconnected`. -/
  | reset (sessionId : SessionId)
  /-- The callback is about to remove the id from the dictionary. -/
  | removing (sessionId : SessionId)
  /-- `MarkDisconnected` is about to increment the count. -/
  | removed
  | completing (pc : TryComplete)
  /-- `Cleanup` has returned, with the callback called or not. -/
  | finished (reported : Bool)
  deriving DecidableEq, Repr

/-- A session of the test. -/
structure Session where
  created : Bool
  sessionId : SessionId
  /-- `OnSessionDisconnected` has been assigned. -/
  hasHandler : Bool
  cleanup : Cleanup
  deriving DecidableEq, Repr

/-! ## The threads -/

/-- Where `StartBotTest` stands. -/
inductive Setup (numOfBot : Nat)
  /-- About to get this session from the broker, or to mark the setup. -/
  | requesting (index : Nat)
  /-- About to assign the callback. -/
  | assigning (bot : Fin numOfBot)
  /-- About to enter the session into the dictionary. -/
  | adding (bot : Fin numOfBot)
  /-- Inside `MarkSetupComplete`. -/
  | completing (pc : TryComplete)
  | finished
  /-- The broker has refused, or a call has thrown. -/
  | failed
  deriving DecidableEq, Repr

/-- Where `StopBotTest` stands. -/
inductive Stop (numOfBot : Nat)
  | outside
  /-- About to take the lock. -/
  | cancelled
  /-- Under the lock, with these sessions left. -/
  | locked (bots : List (Fin numOfBot))
  /-- Inside the `Cleanup` of this session. -/
  | disconnecting (bot : Fin numOfBot) (bots : List (Fin numOfBot))
  deriving DecidableEq, Repr

/-- `StopBotTest` keeps this session out of the dictionary lock, which it takes
again itself. -/
def Stop.blocks {numOfBot : Nat} (bot : Fin numOfBot) : Stop numOfBot → Bool
  | .outside | .cancelled => false
  | .locked _ => true
  | .disconnecting present _ => decide (present ≠ bot)

/-- `StopBotTest` has the dictionary lock. -/
def Stop.hasLock {numOfBot : Nat} : Stop numOfBot → Bool
  | .outside | .cancelled => false
  | .locked _ | .disconnecting _ _ => true

/-- A test with its sessions. -/
structure State (numOfBot : Nat) where
  tracker : BotTestCompletionTracker
  sessions : Fin numOfBot → Session
  /-- The entries of `sessionDictionary` that are sessions of this test. -/
  sessionDictionary : List (SessionId × Fin numOfBot)
  setup : Setup numOfBot
  stop : Stop numOfBot
  /-- `Cancel` has been called. -/
  cancelCalled : Bool

/-- One step of one thread. -/
inductive Label (numOfBot : Nat)
  /-- The broker hands out a session. -/
  | create (sessionId : SessionId)
  /-- It does not. -/
  | refuse
  /-- `StartBotTest` moves on; `Add` throws for the key of another test or not. -/
  | setup (throws : Bool)
  /-- A thread calls `Cleanup` of the session first. -/
  | disconnect (bot : Fin numOfBot)
  | cleanup (bot : Fin numOfBot)
  /-- A newer test calls `Cancel`. -/
  | cancel
  | stop
  /-- Another test removes or replaces the entry of a key. -/
  | replace (sessionId : SessionId)
  deriving DecidableEq, Repr

variable {numOfBot : Nat}

namespace State

/-- A session changes. -/
def setSession
    (state : State numOfBot) (bot : Fin numOfBot) (session : Session) :
    State numOfBot :=
  { state with sessions := Function.update state.sessions bot session }

/-- `Cleanup` of a session moves on. -/
def setCleanup
    (state : State numOfBot) (bot : Fin numOfBot) (cleanup : Cleanup) :
    State numOfBot :=
  state.setSession bot { state.sessions bot with cleanup := cleanup }

/-- The tracker is cancelled. -/
def cancelTracker (state : State numOfBot) : State numOfBot :=
  { state with tracker := state.tracker.cancel, cancelCalled := true }

/-- The next step of `StartBotTest`. -/
def setupStep (state : State numOfBot) (throws : Bool) :
    Option (State numOfBot) :=
  match state.setup with
  | .requesting index =>
      if index = numOfBot then
        some { state with
          tracker := { state.tracker with isSetupComplete := true }
          setup := .completing .testing }
      else none
  | .assigning bot =>
      some { state.setSession bot
          { state.sessions bot with hasHandler := true } with
        setup := .adding bot }
  | .adding bot =>
      if state.stop.hasLock then none
      else if throws ||
          (lookup Prod.fst state.sessionDictionary
            (state.sessions bot).sessionId).isSome then
        some { state with setup := .failed }
      else
        some { state with
          sessionDictionary :=
            ((state.sessions bot).sessionId, bot) :: state.sessionDictionary
          setup := .requesting (bot + 1) }
  | .completing pc =>
      let (tracker, after) := state.tracker.tryComplete numOfBot pc
      some { state with
        tracker := tracker
        setup := after.elim .finished .completing }
  | .finished | .failed => none

/-- The next step of the `Cleanup` of a session. -/
def cleanupStep (state : State numOfBot) (bot : Fin numOfBot) :
    Option (State numOfBot) :=
  match (state.sessions bot).cleanup with
  | .outside | .finished _ => none
  | .begun =>
      some (state.setCleanup bot (.captured (state.sessions bot).sessionId))
  | .captured sessionId =>
      some (state.setSession bot
        { state.sessions bot with
          sessionId := 0
          cleanup := .reset sessionId })
  | .reset sessionId =>
      some (state.setCleanup bot
        (if (state.sessions bot).hasHandler then .removing sessionId
        else .finished false))
  | .removing sessionId =>
      if state.stop.blocks bot then none
      else
        some { state.setCleanup bot .removed with
          sessionDictionary :=
            remove Prod.fst state.sessionDictionary sessionId }
  | .removed =>
      some { state.setCleanup bot (.completing .testing) with
        tracker := { state.tracker with
          disconnectedBotCount := state.tracker.disconnectedBotCount + 1 } }
  | .completing pc =>
      let (tracker, after) := state.tracker.tryComplete numOfBot pc
      some { state.setCleanup bot
          (after.elim (.finished true) .completing) with
        tracker := tracker }

/-- The next step of `StopBotTest`. -/
def stopStep (state : State numOfBot) : Option (State numOfBot) :=
  match state.stop with
  | .outside => some { state.cancelTracker with stop := .cancelled }
  | .cancelled =>
      some { state with
        stop := .locked (state.sessionDictionary.map Prod.snd) }
  | .locked [] => some { state with sessionDictionary := [], stop := .outside }
  | .locked (bot :: bots) =>
      some (if (state.sessions bot).cleanup = .outside then
          { state.setCleanup bot .begun with stop := .disconnecting bot bots }
        else { state with stop := .locked bots })
  | .disconnecting bot bots =>
      match (state.sessions bot).cleanup with
      | .finished _ => some { state with stop := .locked bots }
      | _ => none

end State

/-- The effect of a step. -/
def step (state : State numOfBot) : Label numOfBot → Option (State numOfBot)
  | .create sessionId =>
      match state.setup with
      | .requesting index =>
          if bound : index < numOfBot then
            some { state.setSession ⟨index, bound⟩
                { created := true
                  sessionId := sessionId
                  hasHandler := false
                  cleanup := .outside } with
              setup := .assigning ⟨index, bound⟩ }
          else none
      | _ => none
  | .refuse =>
      match state.setup with
      | .requesting index =>
          if index < numOfBot then
            some { state.cancelTracker with setup := .failed }
          else none
      | _ => none
  | .setup throws => state.setupStep throws
  | .disconnect bot =>
      if (state.sessions bot).created ∧
          (state.sessions bot).cleanup = .outside then
        some (state.setCleanup bot .begun)
      else none
  | .cleanup bot => state.cleanupStep bot
  | .cancel => some state.cancelTracker
  | .stop => state.stopStep
  | .replace sessionId =>
      if state.stop.hasLock then none
      else
        some { state with
          sessionDictionary :=
            remove Prod.fst state.sessionDictionary sessionId }

/-- A test that has just replaced the one before it. -/
def initial (numOfBot : Nat) : State numOfBot where
  tracker :=
    { disconnectedBotCount := 0
      isSetupComplete := false
      state := .active
      completions := 0 }
  sessions _ :=
    { created := false
      sessionId := 0
      hasHandler := false
      cleanup := .outside }
  sessionDictionary := []
  setup := .requesting 0
  stop := .outside
  cancelCalled := false

/-- A test with this many bots, of which the tracker wants at least one. -/
def system (numOfBot : Nat) :
    TransitionSystem (State numOfBot) (Label numOfBot) where
  Initial state := 0 < numOfBot ∧ state = initial numOfBot
  step := step

/-! ## What the test promises -/

/-- `Cleanup` of the session has returned. -/
def Session.isGone (session : Session) : Bool :=
  match session.cleanup with
  | .finished _ => true
  | _ => false

/-- The test completes once, after its setup and not when it was cancelled before;
and when the setup is over and all sessions are gone, it has completed and none of
them is left in the dictionary. -/
structure CompletesWhenGone (state : State numOfBot) : Prop where
  once : state.tracker.completions ≤ 1
  afterSetup : 0 < state.tracker.completions →
    state.tracker.isSetupComplete = true
  uncancelled : state.tracker.state = .cancelled →
    state.tracker.completions = 0
  gone : state.setup = .finished → state.cancelCalled = false →
    (∀ bot, (state.sessions bot).created = true →
      (state.sessions bot).isGone = true) →
    state.tracker.completions = 1 ∧ state.sessionDictionary = []

end BotTest
end BotTester
end MultiSocketRudp
