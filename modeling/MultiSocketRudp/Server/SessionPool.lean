import Mathlib.Data.Finset.Range
import MultiSocketRudp.Server.SessionRelease

/-!
# The session pool

`AcquireSession` takes the first unused session under the lock of the pool.
`ReleaseSession` tests the state machine before it takes the lock; under the lock
it tests whether the session is unused, initializes it and puts it back.

Any number of threads call both, each for any session.  The caller of
`AcquireSession` reserves the session that it gets, and every other change of a
session's state is a compare-and-swap of its state machine.
-/

namespace MultiSocketRudp
namespace SessionPool

open TransitionSystems
open SessionRelease (SessionId)

/-- A thread that calls the pool. -/
abbrev ThreadId := Nat

/-- Where a thread stands. -/
inductive Call
  | outside
  /-- `AcquireSession` has returned the session, which is about to be reserved. -/
  | acquired (id : SessionId)
  /-- `ReleaseSession` has found the session releasing, and is about to take the
  lock.  It releases this acquisition of the session. -/
  | tested (id : SessionId) (acquisition : Nat)
  /-- It has the lock and is about to initialize the session. -/
  | locked (id : SessionId) (acquisition : Nat)
  /-- It is about to put the session into the pool. -/
  | initialized (id : SessionId) (acquisition : Nat)
  deriving DecidableEq, Repr

namespace Call

/-- The session with which the thread deals. -/
def session : Call → Option SessionId
  | .outside => none
  | .acquired id | .tested id _ | .locked id _ | .initialized id _ => some id

/-- The thread has the lock of the pool. -/
def holdsLock : Call → Bool
  | .locked _ _ | .initialized _ _ => true
  | _ => false

end Call

/-- The pool with its sessions and the threads that call it. -/
structure State where
  unusedSessionIdList : List SessionId
  unusedSessionIdSet : Finset SessionId
  /-- Who has `unusedSessionIdListLock`. -/
  lock : Option ThreadId
  sessionState : SessionId → SessionState
  calls : ThreadId → Call
  /-- How often `AcquireSession` has returned the session. -/
  acquisitions : SessionId → Nat
  /-- How often `ReleaseSession` has returned true for an acquisition of the
  session. -/
  releases : SessionId → Nat → Nat

/-- One step of one thread. -/
inductive Label
  /-- `AcquireSession`. -/
  | acquire (thread : ThreadId)
  /-- `SetReserved`, by the caller of `AcquireSession`. -/
  | reserve (thread : ThreadId)
  /-- The caller of `AcquireSession` does not reserve the session. -/
  | refrain (thread : ThreadId)
  /-- `TryTransitionToConnected`. -/
  | connect (id : SessionId)
  /-- `TryTransitionToReleasing`. -/
  | disconnect (id : SessionId)
  /-- `TryAbortReserved`. -/
  | abort (id : SessionId)
  /-- `ReleaseSession` tests the state machine. -/
  | test (thread : ThreadId) (id : SessionId)
  /-- It takes the lock and tests whether the session is unused. -/
  | enter (thread : ThreadId)
  /-- `InitializeSession`. -/
  | reset (thread : ThreadId)
  /-- It puts the session into the pool and leaves the lock. -/
  | finish (thread : ThreadId)
  deriving DecidableEq, Repr

namespace State

/-- A thread moves on. -/
def setCall (state : State) (thread : ThreadId) (call : Call) : State :=
  { state with calls := Function.update state.calls thread call }

/-- The state machine of a session moves. -/
def setSession (state : State) (id : SessionId) (next : SessionState) : State :=
  { state with sessionState := Function.update state.sessionState id next }

/-- `AcquireSession`. -/
def acquireSession (state : State) (thread : ThreadId) : Option State :=
  match state.lock, state.calls thread, state.unusedSessionIdList with
  | none, .outside, id :: rest =>
      some ({ state with
        unusedSessionIdList := rest
        unusedSessionIdSet := state.unusedSessionIdSet.erase id
        acquisitions :=
          Function.update state.acquisitions id
            (state.acquisitions id + 1) }.setCall thread (.acquired id))
  | _, _, _ => none

/-- The state test of `ReleaseSession`. -/
def testSession
    (maxSessionSize : BitVec 16) (state : State)
    (thread : ThreadId) (id : SessionId) : Option State :=
  if state.calls thread = .outside ∧ id < maxSessionSize.toNat then
    some (if state.sessionState id = .releasing then
        state.setCall thread (.tested id (state.acquisitions id - 1))
      else state)
  else none

/-- `ReleaseSession` takes the lock. -/
def enterPool (state : State) (thread : ThreadId) : Option State :=
  match state.lock, state.calls thread with
  | none, .tested id acquisition =>
      some (if id ∈ state.unusedSessionIdSet then
          state.setCall thread .outside
        else
          { state with lock := some thread }.setCall thread
            (.locked id acquisition))
  | _, _ => none

/-- `InitializeSession`, as far as the pool depends on it. -/
def initializeSession (state : State) (thread : ThreadId) : Option State :=
  match state.calls thread with
  | .locked id acquisition =>
      some ((state.setSession id .disconnected).setCall thread
        (.initialized id acquisition))
  | _ => none

/-- `ReleaseSession` returns true. -/
def finishRelease (state : State) (thread : ThreadId) : Option State :=
  match state.calls thread with
  | .initialized id acquisition =>
      some ({ state with
        unusedSessionIdList := state.unusedSessionIdList ++ [id]
        unusedSessionIdSet := insert id state.unusedSessionIdSet
        lock := none
        releases :=
          Function.update state.releases id
            (Function.update (state.releases id) acquisition
              (state.releases id acquisition + 1)) }.setCall thread .outside)
  | _ => none

end State

/-- The effect of a step. -/
def step (maxSessionSize : BitVec 16) (state : State) : Label → Option State
  | .acquire thread => state.acquireSession thread
  | .reserve thread =>
      match state.calls thread with
      | .acquired id =>
          some ((state.setSession id .reserved).setCall thread .outside)
      | _ => none
  | .refrain thread =>
      match state.calls thread with
      | .acquired _ => some (state.setCall thread .outside)
      | _ => none
  | .connect id =>
      some (state.setSession id
        (state.sessionState id).tryTransitionToConnected.2)
  | .disconnect id =>
      some (state.setSession id
        (state.sessionState id).tryTransitionToReleasing.2)
  | .abort id =>
      some (state.setSession id (state.sessionState id).tryAbortReserved.2)
  | .test thread id => state.testSession maxSessionSize thread id
  | .enter thread => state.enterPool thread
  | .reset thread => state.initializeSession thread
  | .finish thread => state.finishRelease thread

/-- A pool that `CreateSessionPool` has filled. -/
def initial (maxSessionSize : BitVec 16) : State where
  unusedSessionIdList := List.range maxSessionSize.toNat
  unusedSessionIdSet := Finset.range maxSessionSize.toNat
  lock := none
  sessionState _ := .disconnected
  calls _ := .outside
  acquisitions _ := 0
  releases _ _ := 0

/-- A pool of `maxSessionSize` sessions. -/
def system (maxSessionSize : BitVec 16) : TransitionSystem State Label where
  Initial state := state = initial maxSessionSize
  step := step maxSessionSize

/-! ## What the pool promises -/

/-- The acquisition has been made and not been released. -/
def Outstanding (state : State) (id : SessionId) (acquisition : Nat) : Prop :=
  acquisition < state.acquisitions id ∧ state.releases id acquisition = 0

/-- List and set agree, a session is unused or handed out to one acquirer, an
unused session is disconnected, and each acquisition is released at most once. -/
structure Conserved (maxSessionSize : BitVec 16) (state : State) : Prop where
  nodup : state.unusedSessionIdList.Nodup
  same : ∀ id,
    id ∈ state.unusedSessionIdList ↔ id ∈ state.unusedSessionIdSet
  custody : ∀ id, id < maxSessionSize.toNat →
    (id ∈ state.unusedSessionIdList ∧
        ∀ acquisition, ¬ Outstanding state id acquisition) ∨
      (id ∉ state.unusedSessionIdList ∧
        ∃! acquisition, Outstanding state id acquisition)
  disconnected : ∀ id ∈ state.unusedSessionIdList,
    state.sessionState id = .disconnected
  once : ∀ id acquisition, state.releases id acquisition ≤ 1

/-! ## The condition -/

/-- `AcquireSession` does not take a session that a call of `ReleaseSession` has
tested and not yet locked. -/
def NotTested (state : State) : Label → Prop
  | .acquire _ =>
      ∀ id ∈ state.unusedSessionIdList.head?, ∀ thread acquisition,
        state.calls thread ≠ .tested id acquisition
  | _ => True

/-! ## The invariant -/

/-- What a thread knows of the session with which it deals. -/
def Stands (maxSessionSize : BitVec 16) (state : State) : Call → Prop
  | .outside => True
  | .acquired id =>
      id ∉ state.unusedSessionIdList ∧ state.sessionState id = .disconnected
  | .tested id acquisition =>
      id < maxSessionSize.toNat ∧ acquisition + 1 = state.acquisitions id ∧
        (id ∉ state.unusedSessionIdList →
          state.sessionState id = .releasing ∨
            ∃ other acquisition, state.calls other = .initialized id acquisition)
  | .locked id acquisition =>
      id < maxSessionSize.toNat ∧ acquisition + 1 = state.acquisitions id ∧
        id ∉ state.unusedSessionIdList ∧ state.sessionState id = .releasing
  | .initialized id acquisition =>
      id < maxSessionSize.toNat ∧ acquisition + 1 = state.acquisitions id ∧
        id ∉ state.unusedSessionIdList ∧ state.sessionState id = .disconnected

/-- The pool is conserved, and every thread knows with what it deals. -/
structure Kept (maxSessionSize : BitVec 16) (state : State) : Prop where
  nodup : state.unusedSessionIdList.Nodup
  same : ∀ id,
    id ∈ state.unusedSessionIdList ↔ id ∈ state.unusedSessionIdSet
  disconnected : ∀ id ∈ state.unusedSessionIdList,
    state.sessionState id = .disconnected
  released : ∀ id acquisition, acquisition < state.acquisitions id →
    id ∈ state.unusedSessionIdList ∨ acquisition + 1 < state.acquisitions id →
    state.releases id acquisition = 1
  unreleased : ∀ id acquisition,
    state.acquisitions id ≤ acquisition ∨
      id ∉ state.unusedSessionIdList ∧
        acquisition + 1 = state.acquisitions id →
    state.releases id acquisition = 0
  acquired : ∀ id, id < maxSessionSize.toNat →
    id ∉ state.unusedSessionIdList → 0 < state.acquisitions id
  stands : ∀ thread, Stands maxSessionSize state (state.calls thread)
  alone : ∀ thread id, state.calls thread = .acquired id →
    ∀ other, other ≠ thread → (state.calls other).session ≠ some id
  lock : ∀ thread, (state.calls thread).holdsLock = true →
    state.lock = some thread

/-- Threads that deal with a session that nothing happens to stand as before. -/
theorem Stands.congr
    {maxSessionSize : BitVec 16} {state next : State} {call : Call}
    (stands : Stands maxSessionSize state call)
    (unused : ∀ id, call.session = some id →
      (id ∈ next.unusedSessionIdList ↔ id ∈ state.unusedSessionIdList))
    (sessionState : ∀ id, call.session = some id →
      next.sessionState id = state.sessionState id)
    (acquisitions : ∀ id, call.session = some id →
      next.acquisitions id = state.acquisitions id)
    (initialized : ∀ id, call.session = some id → ∀ other acquisition,
      state.calls other = .initialized id acquisition →
      next.calls other = .initialized id acquisition) :
    Stands maxSessionSize next call := by
  cases call with
  | outside => trivial
  | acquired id =>
      exact ⟨mt (unused id rfl).mp stands.1,
        (sessionState id rfl).trans stands.2⟩
  | tested id acquisition =>
      obtain ⟨member, current, found⟩ := stands
      refine ⟨member, current.trans (acquisitions id rfl).symm,
        fun absent => ?_⟩
      obtain releasing | ⟨other, acquisition, other_eq⟩ :=
        found (mt (unused id rfl).mpr absent)
      · exact .inl ((sessionState id rfl).trans releasing)
      · exact .inr ⟨other, acquisition,
          initialized id rfl other acquisition other_eq⟩
  | locked id acquisition | initialized id acquisition =>
      obtain ⟨member, current, absent, state_eq⟩ := stands
      exact ⟨member, current.trans (acquisitions id rfl).symm,
        mt (unused id rfl).mp absent, (sessionState id rfl).trans state_eq⟩

namespace Kept

variable {maxSessionSize : BitVec 16} {state next : State}
variable {thread : ThreadId} {id : SessionId}

/-- The thread that has the lock is the only one. -/
theorem lock_unique
    (kept : Kept maxSessionSize state) {other : ThreadId}
    (mine : (state.calls thread).holdsLock = true)
    (yours : (state.calls other).holdsLock = true) :
    other = thread :=
  Option.some.inj ((kept.lock other yours).symm.trans (kept.lock thread mine))

/-- No other thread has it. -/
theorem unlocked_of_ne
    (kept : Kept maxSessionSize state) {other : ThreadId}
    (mine : (state.calls thread).holdsLock = true)
    (distinct : other ≠ thread) :
    (state.calls other).holdsLock = false := by
  by_contra holds
  exact distinct (kept.lock_unique mine (Bool.eq_true_of_not_eq_false holds))

/-- With the lock free nobody has it. -/
theorem not_holdsLock
    (kept : Kept maxSessionSize state)
    (free : state.lock = none) (thread : ThreadId) :
    (state.calls thread).holdsLock = false := by
  by_contra holds
  have mine := kept.lock thread (Bool.eq_true_of_not_eq_false holds)
  exact nomatch free.symm.trans mine

/-- The state machine leaves disconnected and releasing sessions alone. -/
theorem setSession
    {after : SessionState}
    (kept : Kept maxSessionSize state)
    (stays : state.sessionState id = .disconnected ∨
      state.sessionState id = .releasing → after = state.sessionState id) :
    Kept maxSessionSize (state.setSession id after) := by
  have same : ∀ other, state.sessionState other = .disconnected ∨
      state.sessionState other = .releasing →
      (state.setSession id after).sessionState other =
        state.sessionState other := by
    intro other closed
    by_cases equal : other = id
    · subst equal
      exact (Function.update_self _ _ _).trans (stays closed)
    · exact Function.update_of_ne equal _ _
  exact
    { kept with
      disconnected := fun other member =>
        (same other (.inl (kept.disconnected other member))).trans
          (kept.disconnected other member)
      stands := by
        intro other
        change Stands maxSessionSize (state.setSession id after)
          (state.calls other)
        have stands := kept.stands other
        cases call : state.calls other with
        | outside => trivial
        | acquired held =>
            rw [call] at stands
            exact ⟨stands.1, (same held (.inl stands.2)).trans stands.2⟩
        | tested held acquisition =>
            rw [call] at stands
            obtain ⟨member, current, found⟩ := stands
            refine ⟨member, current, fun absent => ?_⟩
            exact (found absent).imp_left fun releasing =>
              (same held (.inr releasing)).trans releasing
        | locked held acquisition =>
            rw [call] at stands
            obtain ⟨member, current, absent, releasing⟩ := stands
            exact ⟨member, current, absent,
              (same held (.inr releasing)).trans releasing⟩
        | initialized held acquisition =>
            rw [call] at stands
            obtain ⟨member, current, absent, idle⟩ := stands
            exact ⟨member, current, absent,
              (same held (.inl idle)).trans idle⟩ }

/-- A thread that moves on does not meet one that is about to reserve a
session. -/
theorem alone_setCall
    {call : Call}
    (kept : Kept maxSessionSize state)
    (unreserved : ∀ id, call ≠ .acquired id)
    (elsewhere : ∀ other id, other ≠ thread →
      state.calls other = .acquired id → call.session ≠ some id)
    (first : ThreadId) (id : SessionId)
    (holds : Function.update state.calls thread call first = .acquired id)
    (other : ThreadId)
    (distinct : other ≠ first) :
    (Function.update state.calls thread call other).session ≠ some id := by
  have distinct' : first ≠ thread := by
    rintro rfl
    exact unreserved id ((Function.update_self _ _ _).symm.trans holds)
  rw [Function.update_of_ne distinct'] at holds
  by_cases same : other = thread
  · subst same
    rw [Function.update_self]
    exact elsewhere first id distinct' holds
  · rw [Function.update_of_ne same]
    exact kept.alone first id holds other distinct

/-- A thread moves on that does not leave the lock. -/
theorem setCall
    {call : Call}
    (kept : Kept maxSessionSize state)
    (initialized : ∀ id acquisition,
      state.calls thread ≠ .initialized id acquisition)
    (stands : Stands maxSessionSize (state.setCall thread call) call)
    (unreserved : ∀ id, call ≠ .acquired id)
    (alone : ∀ other id, other ≠ thread → state.calls other = .acquired id →
      call.session ≠ some id)
    (lock : call.holdsLock = true → state.lock = some thread) :
    Kept maxSessionSize (state.setCall thread call) :=
  { kept with
    stands := by
      intro other
      by_cases same : other = thread
      · subst same
        simpa only [State.setCall, Function.update_self] using stands
      · change Stands _ _ (Function.update state.calls thread call other)
        rw [Function.update_of_ne same]
        refine (kept.stands other).congr (fun _ _ => Iff.rfl) (fun _ _ => rfl)
          (fun _ _ => rfl) fun id _ third acquisition initializes => ?_
        refine (Function.update_of_ne ?_ _ _).trans initializes
        rintro rfl
        exact initialized id acquisition initializes
    alone := kept.alone_setCall unreserved alone
    lock := by
      intro other holds
      by_cases same : other = thread
      · subst same
        exact lock (by simpa only [State.setCall, Function.update_self]
          using holds)
      · exact kept.lock other
          (by simpa only [State.setCall, Function.update_of_ne same]
            using holds) }

/-- Nobody deals with an unused session, unless a call of `ReleaseSession` has
tested it. -/
theorem session_ne
    (kept : Kept maxSessionSize state)
    (free : state.lock = none)
    (unused : id ∈ state.unusedSessionIdList)
    (untested : ∀ thread acquisition,
      state.calls thread ≠ .tested id acquisition)
    (thread : ThreadId) :
    (state.calls thread).session ≠ some id := by
  intro deals
  have stands := kept.stands thread
  have unlocked := kept.not_holdsLock free thread
  cases call : state.calls thread with
  | outside => rw [call] at deals; cases deals
  | acquired held =>
      rw [call] at deals stands
      cases deals
      exact stands.1 unused
  | tested held acquisition =>
      rw [call] at deals
      cases deals
      exact untested thread acquisition call
  | locked held acquisition | initialized held acquisition =>
      rw [call] at unlocked
      cases unlocked

/-- `AcquireSession` keeps the pool. -/
theorem acquireSession
    (kept : Kept maxSessionSize state)
    (guard : NotTested state (.acquire thread))
    (moves : state.acquireSession thread = some next) :
    Kept maxSessionSize next := by
  unfold State.acquireSession at moves
  split at moves
  case h_2 => cases moves
  case h_1 id rest free outside first =>
  simp only [Option.some.injEq] at moves
  subst moves
  have unused : id ∈ state.unusedSessionIdList := by simp [first]
  have untested := guard id (by rw [first]; rfl)
  have nodup := kept.nodup
  rw [first, List.nodup_cons] at nodup
  have remains : ∀ other, other ≠ id →
      (other ∈ rest ↔ other ∈ state.unusedSessionIdList) := by
    intro other distinct
    simp [first, distinct]
  have elsewhere := kept.session_ne free unused untested
  exact
    { nodup := nodup.2
      same := by
        intro other
        change other ∈ rest ↔ other ∈ state.unusedSessionIdSet.erase id
        by_cases same : other = id
        · subst same
          simp [nodup.1]
        · rw [remains other same, kept.same other, Finset.mem_erase]
          simp [same]
      disconnected := fun other member =>
        kept.disconnected other (first ▸ List.mem_cons_of_mem id member)
      released := by
        intro other acquisition made ended
        change acquisition < Function.update state.acquisitions id
          (state.acquisitions id + 1) other at made
        change other ∈ rest ∨ acquisition + 1 < Function.update
          state.acquisitions id (state.acquisitions id + 1) other at ended
        by_cases same : other = id
        · subst same
          rw [Function.update_self] at made ended
          have earlier : acquisition < state.acquisitions other := by
            have later := ended.resolve_left nodup.1
            omega
          exact kept.released other acquisition earlier (.inl unused)
        · rw [Function.update_of_ne same] at made ended
          exact kept.released other acquisition made
            (ended.imp_left (remains other same).mp)
      unreleased := by
        intro other acquisition isOpen
        change Function.update state.acquisitions id
            (state.acquisitions id + 1) other ≤ acquisition ∨
          other ∉ rest ∧ acquisition + 1 = Function.update state.acquisitions id
            (state.acquisitions id + 1) other at isOpen
        by_cases same : other = id
        · subst same
          rw [Function.update_self] at isOpen
          exact kept.unreleased other acquisition (.inl (by omega))
        · rw [Function.update_of_ne same] at isOpen
          exact kept.unreleased other acquisition
            (isOpen.imp_right (And.imp_left (mt (remains other same).mpr)))
      acquired := by
        intro other member absent
        change 0 < Function.update state.acquisitions id
          (state.acquisitions id + 1) other
        by_cases same : other = id
        · subst same
          rw [Function.update_self]
          exact Nat.succ_pos _
        · rw [Function.update_of_ne same]
          exact kept.acquired other member (mt (remains other same).mpr absent)
      stands := by
        intro other
        change Stands _ _ (Function.update state.calls thread _ other)
        by_cases same : other = thread
        · subst same
          rw [Function.update_self]
          exact ⟨nodup.1, kept.disconnected id unused⟩
        · rw [Function.update_of_ne same]
          have distinct : ∀ held,
              (state.calls other).session = some held → held ≠ id := by
            rintro held deals rfl
            exact elsewhere other deals
          refine (kept.stands other).congr
            (fun held deals => remains held (distinct held deals))
            (fun _ _ => rfl)
            (fun held deals => Function.update_of_ne (distinct held deals) _ _)
            fun held deals third acquisition initializes => ?_
          refine (Function.update_of_ne ?_ _ _).trans initializes
          rintro rfl
          exact nomatch outside.symm.trans initializes
      alone := by
        intro second held holds other distinct
        change Function.update state.calls thread _ second = _ at holds
        change (Function.update state.calls thread _ other).session ≠ _
        by_cases same : second = thread
        · subst same
          rw [Function.update_self] at holds
          cases holds
          rw [Function.update_of_ne distinct]
          exact elsewhere other
        · rw [Function.update_of_ne same] at holds
          by_cases same' : other = thread
          · subst same'
            rw [Function.update_self]
            intro equal
            cases equal
            exact elsewhere second (by rw [holds]; rfl)
          · rw [Function.update_of_ne same']
            exact kept.alone second held holds other distinct
      lock := by
        intro other holds
        change (Function.update state.calls thread _ other).holdsLock = true
          at holds
        by_cases same : other = thread
        · subst same
          rw [Function.update_self] at holds
          cases holds
        · rw [Function.update_of_ne same] at holds
          exact kept.lock other holds }

/-- `SetReserved` by the caller of `AcquireSession` keeps the pool. -/
theorem reserve
    (kept : Kept maxSessionSize state)
    (acquired : state.calls thread = .acquired id) :
    Kept maxSessionSize
      ((state.setSession id .reserved).setCall thread .outside) := by
  have stands := kept.stands thread
  rw [acquired] at stands
  have elsewhere := kept.alone thread id acquired
  have left : Kept maxSessionSize (state.setCall thread .outside) :=
    kept.setCall (by simp [acquired]) trivial nofun nofun nofun
  exact
    { left with
      disconnected := by
        intro other member
        refine (Function.update_of_ne ?_ _ _).trans
          (kept.disconnected other member)
        rintro rfl
        exact stands.1 member
      stands := by
        intro other
        change Stands _ _ (Function.update state.calls thread _ other)
        by_cases same : other = thread
        · subst same
          rw [Function.update_self]
          trivial
        · rw [Function.update_of_ne same]
          refine (kept.stands other).congr (fun _ _ => Iff.rfl)
            (fun held deals => Function.update_of_ne ?_ _ _) (fun _ _ => rfl)
            fun held deals third acquisition initializes => ?_
          · rintro rfl
            exact elsewhere other same deals
          · refine (Function.update_of_ne ?_ _ _).trans initializes
            rintro rfl
            exact nomatch acquired.symm.trans initializes }

/-- The state test of `ReleaseSession` keeps the pool. -/
theorem testSession
    (kept : Kept maxSessionSize state)
    (moves : state.testSession maxSessionSize thread id = some next) :
    Kept maxSessionSize next := by
  simp only [State.testSession, Option.ite_none_right_eq_some,
    Option.some.injEq] at moves
  obtain ⟨⟨outside, member⟩, rfl⟩ := moves
  split
  case isFalse => exact kept
  case isTrue releasing =>
  have used : id ∉ state.unusedSessionIdList := fun unused => by
    cases releasing.symm.trans (kept.disconnected id unused)
  have made := kept.acquired id member used
  refine kept.setCall (by simp [outside])
    ⟨member, by change _ = state.acquisitions id; omega,
      fun _ => .inl releasing⟩ (by simp) ?_ (by rintro ⟨⟩)
  intro other held _ acquired same
  cases same
  have stands := kept.stands other
  rw [acquired] at stands
  cases releasing.symm.trans stands.2

/-- So does its test of the pool. -/
theorem enterPool
    (kept : Kept maxSessionSize state)
    (moves : state.enterPool thread = some next) :
    Kept maxSessionSize next := by
  unfold State.enterPool at moves
  split at moves
  case h_2 => cases moves
  case h_1 id acquisition free tested =>
  simp only [Option.some.injEq] at moves
  subst moves
  split
  case isTrue =>
    exact kept.setCall (by simp [tested]) trivial nofun nofun nofun
  case isFalse absent =>
  have stands := kept.stands thread
  rw [tested] at stands
  obtain ⟨member, current, found⟩ := stands
  have used : id ∉ state.unusedSessionIdList := mt (kept.same id).mp absent
  have releasing : state.sessionState id = .releasing := by
    obtain releasing | ⟨other, acquisition, initialized⟩ := found used
    · exact releasing
    · have unlocked := kept.not_holdsLock free other
      rw [initialized] at unlocked
      cases unlocked
  have taken : Kept maxSessionSize { state with lock := some thread } :=
    { kept with
      stands := fun other => (kept.stands other).congr (fun _ _ => Iff.rfl)
        (fun _ _ => rfl) (fun _ _ => rfl) fun _ _ _ _ same => same
      lock := fun other holds =>
        nomatch (kept.not_holdsLock free other).symm.trans holds }
  refine taken.setCall (by simp [tested])
    ⟨member, current, used, releasing⟩ nofun ?_ fun _ => rfl
  intro other held distinct acquired same
  cases same
  exact kept.alone other id acquired thread distinct.symm
    (by rw [tested]; rfl)

/-- `InitializeSession` keeps the pool. -/
theorem initializeSession
    (kept : Kept maxSessionSize state)
    (moves : state.initializeSession thread = some next) :
    Kept maxSessionSize next := by
  unfold State.initializeSession at moves
  split at moves
  case h_2 => cases moves
  case h_1 id acquisition locked =>
  simp only [Option.some.injEq] at moves
  subst moves
  have stands := kept.stands thread
  rw [locked] at stands
  obtain ⟨member, current, used, releasing⟩ := stands
  have mine : (state.calls thread).holdsLock = true := by rw [locked]; rfl
  exact
    { kept with
      disconnected := by
        intro other unused
        refine (Function.update_of_ne ?_ _ _).trans
          (kept.disconnected other unused)
        rintro rfl
        exact used unused
      stands := by
        intro other
        change Stands _ _ (Function.update state.calls thread _ other)
        by_cases same : other = thread
        · subst same
          rw [Function.update_self]
          exact ⟨member, current, used, Function.update_self _ _ _⟩
        rw [Function.update_of_ne same]
        have initialized : ∀ held second third,
            state.calls second = .initialized held third →
            Function.update state.calls thread (.initialized id acquisition)
              second = .initialized held third := by
          intro held second third initializes
          refine (Function.update_of_ne ?_ _ _).trans initializes
          rintro rfl
          exact nomatch locked.symm.trans initializes
        have before := kept.stands other
        by_cases deals : (state.calls other).session = some id
        · have unlocked := kept.unlocked_of_ne mine same
          cases call : state.calls other with
          | outside => rw [call] at deals; cases deals
          | acquired held =>
              rw [call] at deals before
              cases deals
              exact nomatch releasing.symm.trans before.2
          | tested held second =>
              rw [call] at deals before
              cases deals
              exact ⟨before.1, before.2.1, fun _ =>
                .inr ⟨thread, acquisition, Function.update_self _ _ _⟩⟩
          | locked held second | initialized held second =>
              rw [call] at unlocked
              cases unlocked
        · refine before.congr (fun _ _ => Iff.rfl)
            (fun held deals' => Function.update_of_ne ?_ _ _) (fun _ _ => rfl)
            fun held _ => initialized held
          rintro rfl
          exact deals deals'
      alone := by
        refine kept.alone_setCall nofun ?_
        intro other held distinct acquired
        have before := kept.alone other held acquired thread distinct.symm
        rwa [locked] at before
      lock := by
        intro other holds
        change (Function.update state.calls thread _ other).holdsLock = true
          at holds
        by_cases same : other = thread
        · subst same
          exact kept.lock other mine
        · rw [Function.update_of_ne same] at holds
          exact kept.lock other holds }

/-- The return of a session to the pool keeps it. -/
theorem finishRelease
    (kept : Kept maxSessionSize state)
    (moves : state.finishRelease thread = some next) :
    Kept maxSessionSize next := by
  unfold State.finishRelease at moves
  split at moves
  case h_2 => cases moves
  case h_1 id acquisition initialized =>
  simp only [Option.some.injEq] at moves
  subst moves
  have stands := kept.stands thread
  rw [initialized] at stands
  obtain ⟨member, current, used, idle⟩ := stands
  have mine : (state.calls thread).holdsLock = true := by rw [initialized]; rfl
  have unreleased : state.releases id acquisition = 0 :=
    kept.unreleased id acquisition (.inr ⟨used, current⟩)
  have mem : ∀ other, other ≠ id →
      (other ∈ state.unusedSessionIdList ++ [id] ↔
        other ∈ state.unusedSessionIdList) := by
    intro other distinct
    simp [distinct]
  exact
    { nodup := by
        change (state.unusedSessionIdList ++ [id]).Nodup
        rw [List.nodup_append]
        refine ⟨kept.nodup, List.nodup_singleton id, ?_⟩
        rintro other unused last member rfl
        exact used (List.mem_singleton.mp member ▸ unused)
      same := by
        intro other
        change other ∈ state.unusedSessionIdList ++ [id] ↔
          other ∈ insert id state.unusedSessionIdSet
        rw [List.mem_append, Finset.mem_insert, kept.same other,
          List.mem_singleton, or_comm]
      disconnected := by
        intro other unused
        by_cases same : other = id
        · exact same ▸ idle
        · exact kept.disconnected other ((mem other same).mp unused)
      released := by
        intro other earlier made ended
        change Function.update state.releases id _ other earlier = 1
        by_cases same : other = id
        · subst same
          rw [Function.update_self]
          by_cases last : earlier = acquisition
          · subst last
            rw [Function.update_self, unreleased]
          · rw [Function.update_of_ne last]
            have before : earlier < state.acquisitions other := made
            exact kept.released other earlier before (.inr (by omega))
        · rw [Function.update_of_ne same]
          exact kept.released other earlier made
            (ended.imp_left (mem other same).mp)
      unreleased := by
        intro other later remains
        change Function.update state.releases id _ other later = 0
        by_cases same : other = id
        · subst same
          have beyond : state.acquisitions other ≤ later :=
            remains.resolve_right fun absent =>
              absent.1 (List.mem_append_right _ (List.mem_singleton_self _))
          rw [Function.update_self, Function.update_of_ne (by omega)]
          exact kept.unreleased other later (.inl beyond)
        · rw [Function.update_of_ne same]
          exact kept.unreleased other later
            (remains.imp_right (And.imp_left (mt (mem other same).mpr)))
      acquired := fun other inside absent =>
        kept.acquired other inside fun unused =>
          absent (List.mem_append_left _ unused)
      stands := by
        intro other
        change Stands _ _ (Function.update state.calls thread _ other)
        by_cases same : other = thread
        · subst same
          rw [Function.update_self]
          trivial
        rw [Function.update_of_ne same]
        have before := kept.stands other
        by_cases deals : (state.calls other).session = some id
        · have unlocked := kept.unlocked_of_ne mine same
          cases call : state.calls other with
          | outside => rw [call] at deals; cases deals
          | acquired held =>
              rw [call] at deals
              cases deals
              have elsewhere := kept.alone other id call thread
                (Ne.symm same)
              rw [initialized] at elsewhere
              exact absurd rfl elsewhere
          | tested held second =>
              rw [call] at deals before
              cases deals
              exact ⟨before.1, before.2.1, fun absent =>
                absurd (List.mem_append_right _ (List.mem_singleton_self _))
                  absent⟩
          | locked held second | initialized held second =>
              rw [call] at unlocked
              cases unlocked
        · have distinct : ∀ held,
              (state.calls other).session = some held → held ≠ id := by
            rintro held deals' rfl
            exact deals deals'
          refine before.congr
            (fun held deals' => mem held (distinct held deals'))
            (fun _ _ => rfl) (fun _ _ => rfl)
            fun held deals' third second initializes => ?_
          refine (Function.update_of_ne ?_ _ _).trans initializes
          rintro rfl
          rw [initialized] at initializes
          cases initializes
          exact deals deals'
      alone := kept.alone_setCall nofun nofun
      lock := by
        intro other holds
        change (Function.update state.calls thread _ other).holdsLock = true
          at holds
        by_cases same : other = thread
        · subst same
          rw [Function.update_self] at holds
          cases holds
        · rw [Function.update_of_ne same,
            kept.unlocked_of_ne mine same] at holds
          cases holds }

/-- Every step keeps the pool. -/
theorem step
    {label : Label}
    (kept : Kept maxSessionSize state)
    (guard : NotTested state label)
    (moves : SessionPool.step maxSessionSize state label = some next) :
    Kept maxSessionSize next := by
  cases label with
  | acquire thread => exact kept.acquireSession guard moves
  | test thread id => exact kept.testSession moves
  | enter thread => exact kept.enterPool moves
  | reset thread => exact kept.initializeSession moves
  | finish thread => exact kept.finishRelease moves
  | reserve thread =>
      simp only [SessionPool.step] at moves
      split at moves
      · next acquired =>
        exact Option.some.inj moves ▸ kept.reserve acquired
      · cases moves
  | refrain thread =>
      simp only [SessionPool.step] at moves
      split at moves
      · next acquired =>
        exact Option.some.inj moves ▸
          kept.setCall (by simp [acquired]) trivial nofun nofun nofun
      · cases moves
  | connect id =>
      refine Option.some.inj moves ▸ kept.setSession fun closed => ?_
      obtain idle | releasing := closed
      · rw [idle]; rfl
      · rw [releasing]; rfl
  | disconnect id =>
      refine Option.some.inj moves ▸ kept.setSession fun closed => ?_
      obtain idle | releasing := closed
      · rw [idle]; rfl
      · rw [releasing]; rfl
  | abort id =>
      refine Option.some.inj moves ▸ kept.setSession fun closed => ?_
      obtain idle | releasing := closed
      · rw [idle]; rfl
      · rw [releasing]; rfl

/-- A kept pool is conserved. -/
theorem conserved
    (kept : Kept maxSessionSize state) :
    Conserved maxSessionSize state where
  nodup := kept.nodup
  same := kept.same
  custody := by
    intro id inside
    by_cases unused : id ∈ state.unusedSessionIdList
    · refine .inl ⟨unused, fun acquisition outstanding => ?_⟩
      have once := kept.released id acquisition outstanding.1 (.inl unused)
      exact nomatch once.symm.trans outstanding.2
    · have made := kept.acquired id inside unused
      refine .inr ⟨unused, state.acquisitions id - 1,
        ⟨by omega, kept.unreleased id _ (.inr ⟨unused, by omega⟩)⟩, ?_⟩
      rintro acquisition ⟨earlier, outstanding⟩
      by_contra other
      have once := kept.released id acquisition earlier (.inr (by omega))
      exact nomatch once.symm.trans outstanding
  disconnected := kept.disconnected
  once := by
    intro id acquisition
    by_cases made : acquisition < state.acquisitions id
    · by_cases ended : id ∈ state.unusedSessionIdList ∨
          acquisition + 1 < state.acquisitions id
      · exact (kept.released id acquisition made ended).le
      · obtain ⟨used, last⟩ := not_or.mp ended
        rw [kept.unreleased id acquisition (.inr ⟨used, by omega⟩)]
        exact Nat.zero_le 1
    · rw [kept.unreleased id acquisition (.inl (by omega))]
      exact Nat.zero_le 1

end Kept

/-- A pool that has just been filled is kept. -/
theorem kept_initial (maxSessionSize : BitVec 16) :
    Kept maxSessionSize (initial maxSessionSize) where
  nodup := List.nodup_range
  same id := by simp [initial]
  disconnected _ _ := rfl
  released _ _ made := absurd made (Nat.not_lt_zero _)
  unreleased _ _ _ := rfl
  acquired id inside absent := absurd (List.mem_range.mpr inside) absent
  stands _ := trivial
  alone := nofun
  lock := nofun

/-- Where no session is acquired between the two tests of `ReleaseSession`, the
pool is conserved. -/
theorem conserved_of_notTested
    {maxSessionSize : BitVec 16} {state : State}
    (reached :
      (system maxSessionSize).GuardedReachable NotTested state) :
    Conserved maxSessionSize state := by
  have kept : Kept maxSessionSize state := by
    refine reached.invariant ?_ ?_
    · rintro state rfl
      exact kept_initial maxSessionSize
    · intro state label next _ kept guard moves
      exact kept.step guard moves
  exact kept.conserved

/-! ## A session that is released after it has been handed out again -/

/-- A session is acquired, reserved and connected, and it is releasing. -/
def usedSchedule : List Label :=
  [.acquire 0, .reserve 0, .connect 0, .disconnect 0]

/-- A thread returns the session. -/
def returnSchedule : List Label :=
  [.test 1 0, .enter 1, .reset 1, .finish 1]

/-- A second call has tested the session before it is returned, and goes on
after the session has been acquired and reserved again. -/
def overtakenSchedule : List Label :=
  usedSchedule ++ [.test 2 0] ++ returnSchedule ++
  [.acquire 0, .reserve 0, .enter 2, .reset 2, .finish 2]

/-- The state after that schedule. -/
def overtakenState : State :=
  ((system 1).run (initial 1) overtakenSchedule).getD (initial 1)

theorem run_overtakenSchedule :
    (system 1).run (initial 1) overtakenSchedule = some overtakenState := rfl

/-- The session is in the pool and handed out at once, and its first acquisition
has been released twice. -/
theorem overtakenState_reachable :
    (system 1).Reachable overtakenState ∧
      0 ∈ overtakenState.unusedSessionIdList ∧
      Outstanding overtakenState 0 1 ∧ overtakenState.releases 0 0 = 2 ∧
      ¬ Conserved 1 overtakenState := by
  have twice : overtakenState.releases 0 0 = 2 := rfl
  refine ⟨.run (.initial rfl) run_overtakenSchedule, by decide,
    ⟨by decide, rfl⟩, twice, fun conserved => ?_⟩
  exact absurd (conserved.once 0 0) (by rw [twice]; decide)

/-- The step is not a call of `AcquireSession`. -/
def Label.handsOutNothing : Label → Bool
  | .acquire _ => false
  | _ => true

/-- A session in use is in the hands of its acquirer only, and it is in the pool
again when it is returned. -/
theorem conserved_after_return :
    Conserved 1
      (((system 1).run (initial 1) (usedSchedule ++ returnSchedule)).getD
        (initial 1)) := by
  have acquired : (system 1).GuardedReachable NotTested
      (((system 1).run (initial 1) [.acquire 0]).getD (initial 1)) :=
    .step (.initial rfl)
      (show NotTested (initial 1) (.acquire 0) from fun _ _ _ _ => nofun) rfl
  refine conserved_of_notTested (acquired.guardedRun_of_imp
    (fun _ label (quiet : label.handsOutNothing = true) => ?_)
    (show (system 1).guardedRun (fun _ label => label.handsOutNothing = true) _
        (usedSchedule.tail ++ returnSchedule) = some _ from rfl))
  cases label with
  | acquire thread => cases quiet
  | _ => trivial

end SessionPool
end MultiSocketRudp
