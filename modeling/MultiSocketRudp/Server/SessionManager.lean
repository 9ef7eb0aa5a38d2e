import Mathlib.Data.Finset.Card
import Mathlib.Data.Finset.Range
import MultiSocketRudp.Server.SessionRelease

/-!
# The counters of the session manager

`RUDPSessionManager` counts the sessions that are connected, and how often a
session has been connected and disconnected.  The logic worker counts up after
`TryConnect` has succeeded.  `ReleaseSession` loads the disconnect reason, returns
the session to the pool and then counts down, unless the reason tells that the
session was only reserved.

The sessions and the release thread move as in the model of the release.  Every
access to a counter is one step, and a thread inside `IncrementConnectedCount` or
`DecrementConnectedCount` does nothing else.
-/

namespace MultiSocketRudp
namespace SessionManager

open TransitionSystems
open SessionRelease

/-! ## Threads inside the session manager -/

/-- Where the logic worker of a session stands inside
`IncrementConnectedCount`. -/
inductive IncrementPc
  | outside
  /-- About to increment `connectedUserCount`. -/
  | entering
  /-- About to increment `allConnectedCount`. -/
  | counted
  deriving DecidableEq, Repr

/-- Where the release thread stands inside `ReleaseSession`. -/
inductive DecrementPc
  | outside
  /-- It has loaded the reason and returns the session. -/
  | loaded (reason : DisconnectReason)
  /-- `DecrementConnectedCount` is about to look at the reason and to load
  `connectedUserCount`. -/
  | entering (id : SessionId) (reason : DisconnectReason)
  /-- It is about to compare and swap `connectedUserCount`. -/
  | swapping (id : SessionId) (isRetransmissionDisconnect : Bool)
      (connectedCount : BitVec 16)
  /-- It is about to increment `allDisconnectedByRetransmissionCount`. -/
  | countingRetransmission (id : SessionId)
  /-- It is about to increment `allDisconnectedCount`. -/
  | countingAll (id : SessionId)
  deriving DecidableEq, Repr

namespace DecrementPc

/-- The release thread is not inside `DecrementConnectedCount`. -/
def isReleasing : DecrementPc → Bool
  | .outside | .loaded _ => true
  | _ => false

/-- `ReleaseSession` calls `DecrementConnectedCount`. -/
def call (id : SessionId) : DecrementPc → DecrementPc
  | .loaded reason => .entering id reason
  | pc => pc

end DecrementPc

/-- The reasons that callers pass to `DoDisconnect`. -/
def isPassed : DisconnectReason → Bool
  | .normal | .byError | .byRetransmission => true
  | .byAbortReserved | .notDisconnected => false

/-! ## What a turn does to the counters -/

/-- The counters of the session manager. -/
inductive Counter
  | connectedUserCount
  | allConnectedCount
  | allDisconnectedCount
  | allDisconnectedByRetransmissionCount
  deriving DecidableEq, Repr

/-- Whether `TryConnect` has succeeded in a turn, and the counters that have
been changed for it. -/
structure Tally where
  connected : Bool
  changes : List Counter
  deriving DecidableEq, Repr

/-- The tally of a turn that begins. -/
def Tally.fresh : Tally := ⟨false, []⟩

/-- A counter is changed for the turn. -/
def Tally.change (counter : Counter) (tally : Tally) : Tally :=
  { tally with changes := tally.changes ++ [counter] }

/-- A session manager with its sessions. -/
structure State where
  release : SessionRelease.State
  increments : SessionId → IncrementPc
  decrement : DecrementPc
  connectedUserCount : BitVec 16
  allConnectedCount : BitVec 32
  allDisconnectedCount : BitVec 32
  allDisconnectedByRetransmissionCount : BitVec 32
  /-- The tallies of the present turns. -/
  tally : SessionId → Tally
  /-- The tallies of the turns that have ended, latest first. -/
  tallies : SessionId → List Tally

/-- One step of one thread. -/
inductive Label
  /-- A step of the model of the release. -/
  | session (label : SessionRelease.Label)
  /-- `IncrementConnectedCount` moves on. -/
  | increment (id : SessionId)
  /-- `DecrementConnectedCount` moves on; its weak compare-and-swap may fail. -/
  | decrement (swaps : Bool)
  deriving DecidableEq, Repr

namespace State

/-- The pool has the sessions below `maxSessionSize`, callers pass their reasons,
and threads inside the session manager do nothing else. -/
def permits (maxSessionSize : BitVec 16) (state : State) :
    SessionRelease.Label → Bool
  | .act id .acquire => id < maxSessionSize.toNat
  | .act _ (.disconnect reason) => isPassed reason
  | .act id .connect | .act id .logic => state.increments id = .outside
  | .release => state.decrement.isReleasing
  | _ => true

/-- `ReleaseSession` loads the reason, and later it returns the session and calls
`DecrementConnectedCount`. -/
def afterRelease (state : State) (release : SessionRelease.State) : State :=
  match state.release.pc, state.release.batch with
  | .dealing .poolTest, id :: _ =>
      { state with
        release := release
        decrement :=
          if release.pc = .dealing .incrementing then
            .loaded (state.release.sessions id).disconnectedReason
          else .outside }
  | .dealing .returning, id :: _ =>
      { state with
        release := release
        decrement := state.decrement.call id
        tally := Function.update state.tally id .fresh
        tallies :=
          Function.update state.tallies id
            (state.tally id :: state.tallies id) }
  | _, _ => { state with release := release }

/-- What a step of the sessions entails for the session manager. -/
def after (state : State) (label : SessionRelease.Label)
    (release : SessionRelease.State) : State :=
  match label with
  | .act id .connect =>
      { state with
        release := release
        increments := Function.update state.increments id .entering
        tally :=
          Function.update state.tally id
            { state.tally id with connected := true } }
  | .release => state.afterRelease release
  | _ => { state with release := release }

/-- A counter is changed for the present turn of a session. -/
def record (state : State) (id : SessionId) (counter : Counter) : State :=
  { state with
    tally := Function.update state.tally id ((state.tally id).change counter) }

/-- A counter is changed for the turn of a session that has just ended. -/
def recordEnded (state : State) (id : SessionId) (counter : Counter) : State :=
  { state with
    tallies :=
      Function.update state.tallies id
        ((state.tallies id).modifyHead (Tally.change counter)) }

/-- The next step of `IncrementConnectedCount`. -/
def incrementConnectedCount (state : State) (id : SessionId) : Option State :=
  match state.increments id with
  | .outside => none
  | .entering =>
      some ({ state with
        connectedUserCount := state.connectedUserCount + 1
        increments := Function.update state.increments id .counted }.record id
        .connectedUserCount)
  | .counted =>
      some ({ state with
        allConnectedCount := state.allConnectedCount + 1
        increments := Function.update state.increments id .outside }.record id
        .allConnectedCount)

/-- The next step of `DecrementConnectedCount`. -/
def decrementConnectedCount (state : State) (swaps : Bool) : Option State :=
  match state.decrement with
  | .outside | .loaded _ => none
  | .entering id reason =>
      some { state with
        decrement :=
          match reason with
          | .byAbortReserved | .notDisconnected => .outside
          | .byRetransmission => .swapping id true state.connectedUserCount
          | .normal | .byError => .swapping id false state.connectedUserCount }
  | .swapping id isRetransmissionDisconnect connectedCount =>
      some (if connectedCount = 0 then
          -- "Connected user count is already zero"
          { state with decrement := .outside }
        else if swaps = true ∧ state.connectedUserCount = connectedCount then
          { state with
            connectedUserCount := connectedCount - 1
            decrement :=
              if isRetransmissionDisconnect then .countingRetransmission id
              else .countingAll id }.recordEnded id .connectedUserCount
        else
          { state with
            decrement :=
              .swapping id isRetransmissionDisconnect
                state.connectedUserCount })
  | .countingRetransmission id =>
      some ({ state with
        allDisconnectedByRetransmissionCount :=
          state.allDisconnectedByRetransmissionCount + 1
        decrement := .countingAll id }.recordEnded id
        .allDisconnectedByRetransmissionCount)
  | .countingAll id =>
      some ({ state with
        allDisconnectedCount := state.allDisconnectedCount + 1
        decrement := .outside }.recordEnded id .allDisconnectedCount)

end State

/-- The effect of a step. -/
def step (maxSessionSize : BitVec 16) (state : State) : Label → Option State
  | .session label =>
      if state.permits maxSessionSize label then
        (SessionRelease.step state.release label).map (state.after label)
      else none
  | .increment id => state.incrementConnectedCount id
  | .decrement swaps => state.decrementConnectedCount swaps

/-- A session manager whose sessions are all in the pool. -/
def initial : State where
  release := SessionRelease.initial
  increments _ := .outside
  decrement := .outside
  connectedUserCount := 0
  allConnectedCount := 0
  allDisconnectedCount := 0
  allDisconnectedByRetransmissionCount := 0
  tally _ := .fresh
  tallies _ := []

/-- A session manager with `maxSessionSize` sessions. -/
def system (maxSessionSize : BitVec 16) : TransitionSystem State Label where
  Initial state := state = initial
  step := step maxSessionSize

/-! ## What the counters promise -/

/-- No thread is inside a call that has to do with the session. -/
structure Uncalled (session : Session) : Prop where
  broker : session.place ≠ .handedOut
  doRecvs : ∀ caller, session.doRecvs caller = .outside
  doSends : ∀ caller, session.doSends caller = .outside
  ioWorker : session.ioWorker = .idle
  logicWorker : session.logicWorker = .idle
  releaser : session.releaser = .idle

/-- No call is in progress. -/
structure NoCallInProgress (state : State) : Prop where
  sessions : ∀ id, Uncalled (state.release.sessions id)
  releaseThread : state.release.pc = .waiting
  increments : ∀ id, state.increments id = .outside
  decrement : state.decrement = .outside

/-- The number of sessions whose `TryConnect` has succeeded in the present turn,
and that have not been returned. -/
def connectedSessions (maxSessionSize : BitVec 16) (state : State) : Nat :=
  ((Finset.range maxSessionSize.toNat).filter fun id =>
    (state.tally id).connected = true).card

/-- A turn in which the session has not become connected changes no counter and
calls neither `OnDisconnected` nor `OnReleased`. -/
def Untouched (turn : Turn) (tally : Tally) : Prop :=
  tally.connected = false →
    tally.changes = [] ∧ .onDisconnected ∉ turn.hooks ∧
      .onReleased ∉ turn.hooks

/-- The counters are exact when no call is in progress, and only turns in which
the session has become connected count. -/
structure CountExact (maxSessionSize : BitVec 16) (state : State) : Prop where
  connected : NoCallInProgress state →
    state.connectedUserCount.toNat = connectedSessions maxSessionSize state
  balanced : NoCallInProgress state →
    state.connectedUserCount.setWidth 32 =
      state.allConnectedCount - state.allDisconnectedCount
  present : ∀ id,
    Untouched (state.release.sessions id).turn (state.tally id)
  ended : ∀ id,
    List.Forall₂ Untouched (state.release.sessions id).turns
      (state.tallies id)

end SessionManager
end MultiSocketRudp
