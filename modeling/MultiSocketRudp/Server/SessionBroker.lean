import MultiSocketRudp.Server.SessionRelease

/-!
# The workers of the session broker

A broker worker acquires a session, reserves it, makes its key, sends the session
info to the client and keeps the pointer to the session until the connection is
closed.  When something fails on the way, it calls `AbortReservedSession` or
`DoDisconnect`, which look at the state of the session and not at its generation.

Meanwhile the heartbeat thread aborts reservations that have timed out, clients
connect, other threads disconnect sessions, and the release thread returns
releasing sessions to the pool.  When a reservation times out, when a session is
drained, and which of the slow steps of a worker fail, is left open.
-/

namespace MultiSocketRudp
namespace SessionBroker

open TransitionSystems
open SessionRelease (SessionId)

/-- A worker of the broker. -/
abbrev WorkerId := Nat

/-- Where a worker stands inside `HandleClientConnection`. -/
inductive WorkerPc
  | outside
  /-- `InitReserveSession` is about to test `IsConnected`. -/
  | acquired (id : SessionId)
  /-- It is about to call `SetReserved`. -/
  | reserving (id : SessionId)
  /-- It makes the socket and the request queue and posts the receives. -/
  | opening (id : SessionId)
  /-- Its scope guard is about to call `AbortReservedSession`. -/
  | guarding (id : SessionId)
  /-- Inside `InitSessionCrypto`. -/
  | keying (id : SessionId)
  /-- `ReserveSession` has failed and is about to test `IsReserved`. -/
  | failing (id : SessionId)
  /-- It is about to call `AbortReservedSession`. -/
  | aborting (id : SessionId)
  /-- It is about to call `DoDisconnect`. -/
  | disconnecting (id : SessionId)
  /-- Inside `SendSessionInfoToClient`. -/
  | sending (id : SessionId)
  /-- `HandleClientConnection` is about to call `AbortReservedSession`. -/
  | abandoning (id : SessionId)
  deriving DecidableEq, Repr

/-- The session to which the worker has a pointer. -/
def WorkerPc.session : WorkerPc → Option SessionId
  | .outside => none
  | .acquired id | .reserving id | .opening id | .guarding id | .keying id
  | .failing id | .aborting id | .disconnecting id | .sending id
  | .abandoning id => some id

/-- Where the release thread stands inside `ReleaseSession`. -/
inductive ReleasePc
  | outside
  /-- `InitializeSession` has incremented the generation. -/
  | incremented (id : SessionId)
  /-- It has reset the state machine. -/
  | disconnected (id : SessionId)
  deriving DecidableEq, Repr

/-- The session that is being returned. -/
def ReleasePc.session : ReleasePc → Option SessionId
  | .outside => none
  | .incremented id | .disconnected id => some id

/-- A session, as far as the broker depends on it. -/
structure Session where
  sessionState : SessionState
  /-- The number of calls of `InitializeSession`. -/
  sessionGeneration : Nat
  /-- A thread has won the release and not pushed the session yet. -/
  pushing : Bool
  deriving DecidableEq, Repr

/-- A call of a worker that has changed the state of a session. -/
structure Win where
  worker : WorkerId
  id : SessionId
  /-- The generation of the session. -/
  generation : Nat
  /-- The generation that the worker has reserved on this connection. -/
  reservation : Option Nat
  deriving DecidableEq, Repr

/-- The sessions of a server and the threads that reserve and release them. -/
structure State where
  sessions : SessionId → Session
  unusedSessionIdList : List SessionId
  releaseSessionIdList : List SessionId
  release : ReleasePc
  workers : WorkerId → WorkerPc
  /-- The generation that a worker has reserved on its connection. -/
  reservations : WorkerId → Option Nat
  /-- The calls of the workers that have won a release. -/
  wins : List Win

/-- One step of one thread. -/
inductive Label
  /-- A worker calls `AcquireSession`. -/
  | acquire (worker : WorkerId)
  /-- A worker moves on; a slow step succeeds or not. -/
  | work (worker : WorkerId) (succeeds : Bool)
  /-- The heartbeat thread calls `AbortReservedSession`. -/
  | timeOut (id : SessionId)
  /-- `TryConnect` moves the state machine. -/
  | connect (id : SessionId)
  /-- Another thread calls `DoDisconnect`. -/
  | disconnect (id : SessionId)
  /-- The winner pushes the session. -/
  | push (id : SessionId)
  /-- The release thread moves on, with this session if it is free. -/
  | release (id : SessionId)
  deriving DecidableEq, Repr

namespace State

/-- A session changes. -/
def setSession (state : State) (id : SessionId) (session : Session) : State :=
  { state with sessions := Function.update state.sessions id session }

/-- A worker moves on. -/
def setWorker (state : State) (worker : WorkerId) (pc : WorkerPc) : State :=
  { state with workers := Function.update state.workers worker pc }

/-- The state machine of a session moves. -/
def setState (state : State) (id : SessionId) (next : SessionState) : State :=
  state.setSession id { state.sessions id with sessionState := next }

/-- The compare-and-swap of a release, with its result. -/
def tryRelease (state : State) (id : SessionId) :
    Bool × SessionState → State
  | (true, next) =>
      state.setSession id
        { state.sessions id with sessionState := next, pushing := true }
  | (false, _) => state

/-- A worker calls `AbortReservedSession` or `DoDisconnect`. -/
def workerRelease
    (state : State) (worker : WorkerId) (id : SessionId)
    (result : Bool × SessionState) : State :=
  { state.tryRelease id result with
    wins :=
      if result.1 then
        ⟨worker, id, (state.sessions id).sessionGeneration,
          state.reservations worker⟩ :: state.wins
      else state.wins }

/-- `AbortReservedSession` by a worker. -/
def abortReservedSession
    (state : State) (worker : WorkerId) (id : SessionId) : State :=
  state.workerRelease worker id
    (state.sessions id).sessionState.tryAbortReserved

/-- `DoDisconnect` by a worker. -/
def doDisconnect
    (state : State) (worker : WorkerId) (id : SessionId) : State :=
  state.workerRelease worker id
    (state.sessions id).sessionState.tryTransitionToReleasing

/-- `AcquireSession` in `ReserveSession`. -/
def acquireSession (state : State) (worker : WorkerId) : Option State :=
  match state.release, state.workers worker, state.unusedSessionIdList with
  | .outside, .outside, id :: rest =>
      some ({ state with
        unusedSessionIdList := rest
        reservations :=
          Function.update state.reservations worker none }.setWorker worker
        (.acquired id))
  | _, _, _ => none

/-- The next step of a worker. -/
def work (state : State) (worker : WorkerId) (succeeds : Bool) :
    Option State :=
  match state.workers worker with
  | .outside => none
  | .acquired id =>
      some (state.setWorker worker
        (if (state.sessions id).sessionState = .connected then .failing id
          else .reserving id))
  | .reserving id =>
      some ({ state.setState id .reserved with
        reservations :=
          Function.update state.reservations worker
            (some (state.sessions id).sessionGeneration) }.setWorker worker
        (.opening id))
  | .opening id =>
      some (state.setWorker worker
        (if succeeds then .keying id else .guarding id))
  | .guarding id =>
      some ((state.abortReservedSession worker id).setWorker worker
        (.failing id))
  | .keying id =>
      some (state.setWorker worker
        (if succeeds then .sending id else .failing id))
  | .failing id =>
      some (state.setWorker worker
        (if (state.sessions id).sessionState = .reserved then .aborting id
          else .disconnecting id))
  | .aborting id =>
      some ((state.abortReservedSession worker id).setWorker worker
        (.sending id))
  | .disconnecting id =>
      some ((state.doDisconnect worker id).setWorker worker (.sending id))
  | .sending id =>
      some (state.setWorker worker
        (if succeeds then .outside else .abandoning id))
  | .abandoning id =>
      some ((state.abortReservedSession worker id).setWorker worker .outside)

/-- `PushToDisconnectTargetSession`. -/
def push (state : State) (id : SessionId) : Option State :=
  if (state.sessions id).pushing then
    some { (state.setSession id
      { state.sessions id with pushing := false }) with
      releaseSessionIdList := state.releaseSessionIdList ++ [id] }
  else none

/-- The next step of `ReleaseSession`, under the lock of the pool. -/
def releaseSession (state : State) (id : SessionId) : Option State :=
  match state.release with
  | .outside =>
      if id ∈ state.releaseSessionIdList ∧
          (state.sessions id).sessionState = .releasing then
        some { (state.setSession id
          { state.sessions id with
            sessionGeneration :=
              (state.sessions id).sessionGeneration + 1 }) with
          release := .incremented id }
      else none
  | .incremented present =>
      some { (state.setState present .disconnected) with
        release := .disconnected present }
  | .disconnected present =>
      some { state with
        unusedSessionIdList := state.unusedSessionIdList ++ [present]
        releaseSessionIdList := state.releaseSessionIdList.erase present
        release := .outside }

end State

/-- The effect of a step. -/
def step (state : State) : Label → Option State
  | .acquire worker => state.acquireSession worker
  | .work worker succeeds => state.work worker succeeds
  | .timeOut id =>
      some (state.tryRelease id
        (state.sessions id).sessionState.tryAbortReserved)
  | .connect id =>
      some (state.setState id
        (state.sessions id).sessionState.tryTransitionToConnected.2)
  | .disconnect id =>
      some (state.tryRelease id
        (state.sessions id).sessionState.tryTransitionToReleasing)
  | .push id => state.push id
  | .release id => state.releaseSession id

/-- A server whose sessions are all in the pool. -/
def initial (maxSessionSize : BitVec 16) : State where
  sessions _ := ⟨.disconnected, 1, false⟩
  unusedSessionIdList := List.range maxSessionSize.toNat
  releaseSessionIdList := []
  release := .outside
  workers _ := .outside
  reservations _ := none
  wins := []

/-- A server with `maxSessionSize` sessions. -/
def system (maxSessionSize : BitVec 16) : TransitionSystem State Label where
  Initial state := state = initial maxSessionSize
  step := step

/-- Whenever a call of a worker has changed the state of a session, the session
was in the generation that this worker had reserved. -/
def AbortsOwn (state : State) : Prop :=
  ∀ win ∈ state.wins, win.reservation = some win.generation

/-! ## The condition -/

/-- `AcquireSession` does not hand out a session to which a worker still has a
pointer. -/
def NotHeld (state : State) : Label → Prop
  | .acquire _ =>
      ∀ id ∈ state.unusedSessionIdList.head?, ∀ worker,
        (state.workers worker).session ≠ some id
  | _ => True

/-! ## The invariant -/

/-- The session is reserved or connected. -/
def InUse (session : Session) : Prop :=
  session.sessionState = .reserved ∨ session.sessionState = .connected

/-- A worker has the only pointer to its session, and a session in use is in the
generation that its worker has reserved. -/
structure Kept (state : State) : Prop where
  nodup : state.unusedSessionIdList.Nodup
  unused : ∀ id ∈ state.unusedSessionIdList,
    (state.sessions id).sessionState = .disconnected
  exclusive : ∀ worker other id,
    (state.workers worker).session = some id →
    (state.workers other).session = some id → other = worker
  own : ∀ worker id, (state.workers worker).session = some id →
    InUse (state.sessions id) →
    state.reservations worker = some (state.sessions id).sessionGeneration
  fresh : ∀ worker id,
    state.workers worker = .acquired id ∨ state.workers worker = .reserving id →
    id ∉ state.unusedSessionIdList ∧
      (state.sessions id).sessionState = .disconnected ∧
      state.release.session ≠ some id
  releasing : ∀ id, state.release = .incremented id →
    (state.sessions id).sessionState = .releasing
  returning : ∀ id, state.release = .disconnected id →
    (state.sessions id).sessionState = .disconnected ∧
      id ∉ state.unusedSessionIdList
  wins : AbortsOwn state

namespace Kept

variable {state next : State} {worker : WorkerId} {id : SessionId}

/-- A session in use changes within its generation, or a session keeps its
state. -/
theorem setSession
    {session : Session}
    (kept : Kept state)
    (generation :
      session.sessionGeneration = (state.sessions id).sessionGeneration)
    (stays : InUse (state.sessions id) ∨
      session.sessionState = (state.sessions id).sessionState) :
    Kept (state.setSession id session) := by
  have closed : ∀ other, ¬ InUse (state.sessions other) →
      ((state.setSession id session).sessions other).sessionState =
        (state.sessions other).sessionState := by
    intro other unused
    by_cases same : other = id
    · subst same
      exact (congrArg Session.sessionState (Function.update_self _ _ _)).trans
        (stays.resolve_left unused)
    · exact congrArg Session.sessionState (Function.update_of_ne same _ _)
  have disconnected : ∀ other,
      (state.sessions other).sessionState = .disconnected →
      ((state.setSession id session).sessions other).sessionState =
        .disconnected := by
    intro other idle
    exact (closed other (by simp [InUse, idle])).trans idle
  exact
    { kept with
      unused := fun other member =>
        disconnected other (kept.unused other member)
      own := by
        intro holder other held used
        by_cases same : other = id
        · subst same
          have inUse : InUse (state.sessions other) := by
            by_contra unused
            have sessionState := closed other unused
            exact unused (used.imp sessionState.symm.trans sessionState.symm.trans)
          refine (kept.own holder other held inUse).trans
            (congrArg some ?_)
          exact generation.symm.trans
            (congrArg Session.sessionGeneration
              (Function.update_self _ _ _)).symm
        · change InUse (Function.update state.sessions id session other) at used
          change _ = some
            (Function.update state.sessions id session other).sessionGeneration
          rw [Function.update_of_ne same] at used ⊢
          exact kept.own holder other held used
      fresh := fun holder other held =>
        (kept.fresh holder other held).imp_right
          (And.imp_left (disconnected other))
      releasing := fun other returns =>
        (closed other (by simp [InUse, kept.releasing other returns])).trans
          (kept.releasing other returns)
      returning := fun other returns =>
        (kept.returning other returns).imp_left (disconnected other) }

/-- A worker moves on with the session that it has, or leaves it. -/
theorem setWorker
    {pc : WorkerPc}
    (kept : Kept state)
    (held : ∀ id, pc.session = some id →
      (state.workers worker).session = some id)
    (fresh : ∀ id, pc = .acquired id ∨ pc = .reserving id →
      state.workers worker = .acquired id) :
    Kept (state.setWorker worker pc) := by
  have before : ∀ other id,
      ((state.setWorker worker pc).workers other).session = some id →
      (state.workers other).session = some id := by
    intro other id holds
    change (Function.update state.workers worker pc other).session = _ at holds
    by_cases same : other = worker
    · subst same
      rw [Function.update_self] at holds
      exact held id holds
    · rwa [Function.update_of_ne same] at holds
  exact
    { kept with
      exclusive := fun first second id holds also =>
        kept.exclusive first second id (before first id holds)
          (before second id also)
      own := fun other id holds => kept.own other id (before other id holds)
      fresh := by
        intro other id holds
        change Function.update state.workers worker pc other = _ ∨
          Function.update state.workers worker pc other = _ at holds
        by_cases same : other = worker
        · subst same
          rw [Function.update_self] at holds
          exact kept.fresh other id (.inl (fresh id holds))
        · rw [Function.update_of_ne same] at holds
          exact kept.fresh other id holds }

/-- A release that wins finds the session in use. -/
theorem tryRelease
    {result : Bool × SessionState}
    (kept : Kept state)
    (wins : result.1 = true → InUse (state.sessions id)) :
    Kept (state.tryRelease id result) := by
  obtain ⟨won, after⟩ := result
  cases won with
  | false => exact kept
  | true => exact kept.setSession rfl (.inl (wins rfl))

/-- A worker that releases its session releases its own reservation. -/
theorem workerRelease
    {result : Bool × SessionState}
    (kept : Kept state)
    (held : (state.workers worker).session = some id)
    (wins : result.1 = true → InUse (state.sessions id)) :
    Kept (state.workerRelease worker id result) :=
  { kept.tryRelease wins with
    wins := by
      intro win member
      change win ∈ (if result.1 = true then _ else _) at member
      split at member
      case isFalse => exact kept.wins win member
      case isTrue won =>
      obtain rfl | earlier := List.mem_cons.mp member
      · exact kept.own worker id held (wins won)
      · exact kept.wins win earlier }

end Kept

/-- `TryAbortReserved` succeeds on a session in use. -/
theorem inUse_of_tryAbortReserved
    {session : Session}
    (won : session.sessionState.tryAbortReserved.1 = true) :
    InUse session := by
  cases sessionState : session.sessionState with
  | reserved => exact .inl sessionState
  | disconnected | connected | releasing =>
      rw [sessionState] at won
      cases won

/-- So does `TryTransitionToReleasing`. -/
theorem inUse_of_tryTransitionToReleasing
    {session : Session}
    (won : session.sessionState.tryTransitionToReleasing.1 = true) :
    InUse session := by
  cases sessionState : session.sessionState with
  | reserved => exact .inl sessionState
  | connected => exact .inr sessionState
  | disconnected | releasing =>
      rw [sessionState] at won
      cases won

namespace Kept

variable {state next : State} {worker : WorkerId} {id : SessionId}

/-- `AcquireSession` gives a worker a session that nobody else has. -/
theorem acquireSession
    (kept : Kept state)
    (guard : NotHeld state (.acquire worker))
    (moves : state.acquireSession worker = some next) :
    Kept next := by
  unfold State.acquireSession at moves
  split at moves
  case h_2 => cases moves
  case h_1 id rest release outside first =>
  simp only [Option.some.injEq] at moves
  subst moves
  have elsewhere := guard id (by rw [first]; rfl)
  have nodup := kept.nodup
  rw [first, List.nodup_cons] at nodup
  have unused : ∀ other ∈ rest, other ∈ state.unusedSessionIdList := by
    intro other member
    exact first ▸ List.mem_cons_of_mem id member
  have idle : (state.sessions id).sessionState = .disconnected :=
    kept.unused id (first ▸ List.mem_cons_self)
  have holder : ∀ other held,
      (Function.update state.workers worker (.acquired id) other).session =
        some held →
      other = worker ∧ held = id ∨
        other ≠ worker ∧ held ≠ id ∧
          (state.workers other).session = some held := by
    intro other held holds
    by_cases same : other = worker
    · subst same
      rw [Function.update_self] at holds
      exact .inl ⟨rfl, (Option.some.inj holds).symm⟩
    · rw [Function.update_of_ne same] at holds
      refine .inr ⟨same, ?_, holds⟩
      rintro rfl
      exact elsewhere other holds
  exact
    { kept with
      nodup := nodup.2
      unused := fun other member => kept.unused other (unused other member)
      exclusive := by
        intro one other held holds also
        obtain ⟨rfl, rfl⟩ | ⟨-, distinct, before⟩ := holder one held holds
        · obtain ⟨rfl, -⟩ | ⟨-, distinct, -⟩ := holder other held also
          · rfl
          · exact absurd rfl distinct
        · obtain ⟨-, rfl⟩ | ⟨-, -, before'⟩ := holder other held also
          · exact absurd rfl distinct
          · exact kept.exclusive one other held before before'
      own := by
        intro other held holds used
        change Function.update state.reservations worker none other = _
        obtain ⟨rfl, rfl⟩ | ⟨same, -, before⟩ := holder other held holds
        · exact absurd (show InUse (state.sessions held) from used)
            (by simp [InUse, idle])
        · rw [Function.update_of_ne same]
          exact kept.own other held before used
      fresh := by
        intro other held holds
        have session : (Function.update state.workers worker (.acquired id)
            other).session = some held := by
          obtain holds | holds := holds
          · exact congrArg WorkerPc.session holds
          · exact congrArg WorkerPc.session holds
        obtain ⟨rfl, rfl⟩ | ⟨same, -, -⟩ := holder other held session
        · refine ⟨nodup.1, idle, ?_⟩
          change state.release.session ≠ some held
          rw [release]
          nofun
        · change Function.update state.workers worker (.acquired id) other = _ ∨
            Function.update state.workers worker (.acquired id) other = _
            at holds
          rw [Function.update_of_ne same] at holds
          exact (kept.fresh other held holds).imp_left
            (mt (unused held))
      returning := by
        intro other returns
        exact nomatch release.symm.trans returns }

/-- `SetReserved` makes the session its worker's own. -/
theorem reserve
    (kept : Kept state)
    (reserving : state.workers worker = .reserving id) :
    Kept ({ state.setState id .reserved with
      reservations :=
        Function.update state.reservations worker
          (some (state.sessions id).sessionGeneration) }.setWorker worker
      (.opening id)) := by
  obtain ⟨absent, -, elsewhere⟩ := kept.fresh worker id (.inr reserving)
  have mine : (state.workers worker).session = some id :=
    congrArg WorkerPc.session reserving
  have moved : Kept (state.setWorker worker (.opening id)) :=
    kept.setWorker (fun _ held => mine.trans held) nofun
  have keeps : ∀ other, other ≠ id →
      Function.update state.sessions id
          { state.sessions id with sessionState := .reserved } other =
        state.sessions other :=
    fun other distinct => Function.update_of_ne distinct _ _
  have lone : ∀ other held,
      (Function.update state.workers worker (.opening id) other).session =
        some held →
      other = worker ∧ held = id ∨ other ≠ worker ∧ held ≠ id := by
    intro other held holds
    by_cases same : other = worker
    · subst same
      rw [Function.update_self] at holds
      exact .inl ⟨rfl, (Option.some.inj holds).symm⟩
    · rw [Function.update_of_ne same] at holds
      refine .inr ⟨same, ?_⟩
      rintro rfl
      exact same (kept.exclusive worker other held mine holds)
  exact
    { moved with
      unused := by
        intro other member
        refine (congrArg Session.sessionState (keeps other ?_)).trans
          (kept.unused other member)
        rintro rfl
        exact absent member
      own := by
        intro other held holds used
        change Function.update state.reservations worker _ other =
          some (Function.update state.sessions id _ held).sessionGeneration
        obtain ⟨rfl, rfl⟩ | ⟨distinct, distinct'⟩ := lone other held holds
        · rw [Function.update_self, Function.update_self]
        · change InUse (Function.update state.sessions id _ held) at used
          rw [keeps held distinct'] at used
          rw [Function.update_of_ne distinct, keeps held distinct']
          exact moved.own other held holds used
      fresh := by
        intro other held holds
        have session : (Function.update state.workers worker (.opening id)
            other).session = some held := by
          obtain holds | holds := holds
          · exact congrArg WorkerPc.session holds
          · exact congrArg WorkerPc.session holds
        obtain ⟨rfl, rfl⟩ | ⟨-, distinct⟩ := lone other held session
        · change Function.update state.workers other _ other = _ ∨
            Function.update state.workers other _ other = _ at holds
          rw [Function.update_self] at holds
          exact holds.elim nofun nofun
        · exact (moved.fresh other held holds).imp_right (And.imp_left
            (congrArg Session.sessionState (keeps held distinct)).trans)
      releasing := by
        intro other returns
        refine (congrArg Session.sessionState (keeps other ?_)).trans
          (kept.releasing other returns)
        rintro rfl
        exact elsewhere (congrArg ReleasePc.session returns)
      returning := by
        intro other returns
        refine (kept.returning other returns).imp_left
          (congrArg Session.sessionState (keeps other ?_)).trans
        rintro rfl
        exact elsewhere (congrArg ReleasePc.session returns) }

/-- A worker releases its session and moves on. -/
theorem abort
    {result : Bool × SessionState} {pc : WorkerPc}
    (kept : Kept state)
    (held : (state.workers worker).session = some id)
    (wins : result.1 = true → InUse (state.sessions id))
    (stays : ∀ other, pc.session = some other → other = id)
    (unreserved : ∀ other, pc ≠ .acquired other ∧ pc ≠ .reserving other) :
    Kept ((state.workerRelease worker id result).setWorker worker pc) := by
  have workers : (state.workerRelease worker id result).workers =
      state.workers := by
    obtain ⟨won, after⟩ := result
    cases won <;> rfl
  refine (kept.workerRelease held wins).setWorker (fun other holds => ?_)
    fun other holds => ?_
  · rw [workers, stays other holds]
    exact held
  · exact (holds.elim (unreserved other).1 (unreserved other).2).elim

/-- A step of a worker keeps the sessions. -/
theorem work
    {succeeds : Bool}
    (kept : Kept state)
    (moves : state.work worker succeeds = some next) :
    Kept next := by
  unfold State.work at moves
  cases pc : state.workers worker with
  | outside => rw [pc] at moves; cases moves
  | acquired id =>
      rw [pc] at moves
      cases moves
      refine kept.setWorker (fun other holds => ?_) fun other holds => ?_
      · rw [pc]
        split at holds <;> exact holds
      · rw [pc]
        split at holds
        · exact holds.elim nofun nofun
        · obtain holds | holds := holds
          · cases holds
          · cases holds
            rfl
  | reserving id => rw [pc] at moves; cases moves; exact kept.reserve pc
  | opening id | keying id | failing id | sending id =>
      rw [pc] at moves
      cases moves
      refine kept.setWorker (fun other holds => ?_) fun other holds => ?_
      · rw [pc]
        split at holds <;> first | exact holds | cases holds
      · split at holds <;> exact holds.elim nofun nofun
  | guarding id | aborting id =>
      rw [pc] at moves
      cases moves
      exact kept.abort (congrArg WorkerPc.session pc)
        inUse_of_tryAbortReserved (fun _ holds => (Option.some.inj holds).symm)
        fun _ => ⟨nofun, nofun⟩
  | abandoning id =>
      rw [pc] at moves
      cases moves
      exact kept.abort (congrArg WorkerPc.session pc)
        inUse_of_tryAbortReserved nofun fun _ => ⟨nofun, nofun⟩
  | disconnecting id =>
      rw [pc] at moves
      cases moves
      exact kept.abort (congrArg WorkerPc.session pc)
        inUse_of_tryTransitionToReleasing
        (fun _ holds => (Option.some.inj holds).symm)
        fun _ => ⟨nofun, nofun⟩

/-- `TryConnect` keeps the sessions. -/
theorem connect (kept : Kept state) :
    Kept (state.setState id
      (state.sessions id).sessionState.tryTransitionToConnected.2) := by
  refine kept.setSession rfl ?_
  cases sessionState : (state.sessions id).sessionState with
  | reserved => exact .inl (.inl sessionState)
  | disconnected | connected | releasing => exact .inr rfl

/-- `PushToDisconnectTargetSession` keeps the sessions. -/
theorem push
    (kept : Kept state)
    (moves : state.push id = some next) :
    Kept next := by
  simp only [State.push, Option.ite_none_right_eq_some,
    Option.some.injEq] at moves
  obtain ⟨-, rfl⟩ := moves
  have cleared : Kept (state.setSession id
      { state.sessions id with pushing := false }) :=
    kept.setSession rfl (.inr rfl)
  exact { cleared with }

/-- A session that is not in use changes in the hands of the release thread. -/
theorem setReturning
    {session : Session} {release : ReleasePc}
    (kept : Kept state)
    (unused : ¬ InUse session)
    (idle : (state.sessions id).sessionState = .disconnected →
      session.sessionState = .disconnected)
    (fresh : ∀ other, release.session = some other →
      (state.sessions other).sessionState ≠ .disconnected)
    (releasing : ∀ other, release = .incremented other →
      other = id ∧ session.sessionState = .releasing)
    (returning : ∀ other, release = .disconnected other →
      other = id ∧ session.sessionState = .disconnected) :
    Kept { state.setSession id session with release := release } := by
  have disconnected : ∀ other,
      (state.sessions other).sessionState = .disconnected →
      (Function.update state.sessions id session other).sessionState =
        .disconnected := by
    intro other before
    by_cases same : other = id
    · subst same
      rw [Function.update_self]
      exact idle before
    · rwa [Function.update_of_ne same]
  exact
    { kept with
      unused := fun other member =>
        disconnected other (kept.unused other member)
      own := by
        intro holder other held used
        change InUse (Function.update state.sessions id session other) at used
        change _ = some
          (Function.update state.sessions id session other).sessionGeneration
        by_cases same : other = id
        · subst same
          rw [Function.update_self] at used
          exact absurd used unused
        · rw [Function.update_of_ne same] at used ⊢
          exact kept.own holder other held used
      fresh := by
        intro holder other held
        obtain ⟨absent, before, -⟩ := kept.fresh holder other held
        exact ⟨absent, disconnected other before,
          fun returns => fresh other returns before⟩
      releasing := by
        intro other returns
        obtain ⟨rfl, sessionState⟩ := releasing other returns
        exact (congrArg Session.sessionState
          (Function.update_self _ _ _)).trans sessionState
      returning := by
        intro other returns
        obtain ⟨rfl, sessionState⟩ := returning other returns
        refine ⟨(congrArg Session.sessionState
          (Function.update_self _ _ _)).trans sessionState, fun member => ?_⟩
        exact fresh other (congrArg ReleasePc.session returns)
          (kept.unused other member) }

/-- `ReleaseSession` keeps the sessions. -/
theorem releaseSession
    (kept : Kept state)
    (moves : state.releaseSession id = some next) :
    Kept next := by
  unfold State.releaseSession at moves
  split at moves
  case h_1 =>
    simp only [Option.ite_none_right_eq_some, Option.some.injEq] at moves
    obtain ⟨⟨-, releasing⟩, rfl⟩ := moves
    refine kept.setReturning (by simp [InUse, releasing])
      (fun idle => idle) ?_ ?_ (by simp)
    · rintro other returns
      cases returns
      simp [releasing]
    · rintro other returns
      cases returns
      exact ⟨rfl, releasing⟩
  case h_2 present returns =>
    cases moves
    have releasing := kept.releasing present returns
    refine kept.setReturning (by simp [InUse]) (fun _ => rfl) ?_ (by simp) ?_
    · rintro other returned
      cases returned
      simp [releasing]
    · rintro other returned
      cases returned
      exact ⟨rfl, rfl⟩
  case h_3 present returns =>
    cases moves
    obtain ⟨idle, absent⟩ := kept.returning present returns
    exact
      { kept with
        nodup := by
          rw [List.nodup_append]
          refine ⟨kept.nodup, List.nodup_singleton _, ?_⟩
          rintro other member _ last rfl
          rw [List.mem_singleton.mp last] at member
          exact absent member
        unused := by
          intro other member
          obtain before | last := List.mem_append.mp member
          · exact kept.unused other before
          · rw [List.mem_singleton.mp last]
            exact idle
        fresh := by
          intro holder other held
          obtain ⟨outside, before, elsewhere⟩ := kept.fresh holder other held
          refine ⟨fun member => ?_, before, by rintro ⟨⟩⟩
          obtain inside | last := List.mem_append.mp member
          · exact outside inside
          · rw [List.mem_singleton.mp last, returns] at elsewhere
            exact elsewhere rfl
        releasing := by simp
        returning := by simp }

/-- Every step that meets the condition keeps the sessions. -/
theorem step
    {label : Label}
    (kept : Kept state)
    (guard : NotHeld state label)
    (moves : SessionBroker.step state label = some next) :
    Kept next := by
  cases label with
  | acquire worker => exact kept.acquireSession guard moves
  | work worker succeeds => exact kept.work moves
  | timeOut id =>
      cases moves
      exact kept.tryRelease inUse_of_tryAbortReserved
  | connect id =>
      cases moves
      exact kept.connect
  | disconnect id =>
      cases moves
      exact kept.tryRelease inUse_of_tryTransitionToReleasing
  | push id => exact kept.push moves
  | release id => exact kept.releaseSession moves

end Kept

/-- A new server keeps its sessions. -/
theorem kept_initial (maxSessionSize : BitVec 16) :
    Kept (initial maxSessionSize) where
  nodup := List.nodup_range
  unused _ _ := rfl
  exclusive := nofun
  own := nofun
  fresh _ _ held := held.elim nofun nofun
  releasing := nofun
  returning := nofun
  wins := nofun

/-- In every run in which no session is handed out to which a worker still has a
pointer, the sessions are kept. -/
theorem kept_of_notHeld
    (maxSessionSize : BitVec 16) {state : State}
    (reachable : (system maxSessionSize).GuardedReachable NotHeld state) :
    Kept state :=
  reachable.invariant (fun _ begins => begins ▸ kept_initial maxSessionSize)
    fun _ _ _ _ kept guard moves => kept.step guard moves

/-- When `AcquireSession` never hands out a session to which another worker still
has a pointer, a worker that changes the state of a session by
`AbortReservedSession` or `DoDisconnect` changes its own reservation. -/
theorem abortsOwn_of_notHeld
    (maxSessionSize : BitVec 16) (state : State)
    (reachable : (system maxSessionSize).GuardedReachable NotHeld state) :
    AbortsOwn state :=
  (kept_of_notHeld maxSessionSize reachable).wins

/-! ## A worker that aborts its own reservation -/

/-- Worker 0 reserves the only session of a server. -/
def reservedState : State :=
  ((step (initial 1) (.acquire 0)).bind fun state =>
    (system 1).run state
      [.work 0 true, .work 0 true, .work 0 true, .work 0 true]).getD (initial 1)

/-- It cannot send the session info and aborts the reservation. -/
def abandonedState : State :=
  ((system 1).run reservedState [.work 0 false, .work 0 true]).getD (initial 1)

/-- A step on which `NotHeld` says nothing. -/
def IsNoAcquire : Label → Bool
  | .acquire _ => false
  | _ => true

/-- After an acquisition no other step is restricted. -/
theorem notHeld_of_isNoAcquire
    (state : State) (label : Label) (noAcquire : IsNoAcquire label = true) :
    NotHeld state label := by
  cases label with
  | acquire worker => cases noAcquire
  | work | timeOut | connect | disconnect | push | release => trivial

/-- The abortion has released the reservation of worker 0. -/
theorem abortsOwn_after_abandoning :
    abandonedState.wins = [⟨0, 0, 1, some 1⟩] ∧ AbortsOwn abandonedState := by
  have acquired : (system 1).GuardedReachable NotHeld
      ((step (initial 1) (.acquire 0)).getD (initial 1)) :=
    .step (.initial rfl)
      (show NotHeld (initial 1) (.acquire 0) from nofun) rfl
  have run_abandoned : (system 1).guardedRun
      (fun _ label => IsNoAcquire label = true)
      ((step (initial 1) (.acquire 0)).getD (initial 1))
      [.work 0 true, .work 0 true, .work 0 true, .work 0 true,
        .work 0 false, .work 0 true] = some abandonedState := rfl
  have reached : (system 1).GuardedReachable NotHeld abandonedState :=
    acquired.guardedRun_of_imp notHeld_of_isNoAcquire run_abandoned
  exact ⟨rfl, abortsOwn_of_notHeld 1 abandonedState reached⟩

/-! ## A worker that aborts the reservation of another -/

/-- While worker 0 sends the session info, its reservation times out, the session
returns to the pool, and worker 1 reserves it. -/
def reReservedState : State :=
  ((system 1).run reservedState
    [.timeOut 0, .push 0, .release 0, .release 0, .release 0,
      .acquire 1, .work 1 true, .work 1 true]).getD (initial 1)

/-- Worker 0 cannot send the session info and aborts the reservation of
worker 1. -/
def stolenState : State :=
  ((system 1).run reReservedState [.work 0 false, .work 0 true]).getD
    (initial 1)

/-- The session is in generation 2, and worker 0 has reserved generation 1. -/
theorem stolenState_reachable :
    (system 1).Reachable stolenState ∧
      stolenState.wins = [⟨0, 0, 2, some 1⟩] ∧
      ¬ AbortsOwn stolenState := by
  have run_stolen : (system 1).run (initial 1)
      [.acquire 0, .work 0 true, .work 0 true, .work 0 true, .work 0 true,
        .timeOut 0, .push 0, .release 0, .release 0, .release 0,
        .acquire 1, .work 1 true, .work 1 true,
        .work 0 false, .work 0 true] = some stolenState := rfl
  refine ⟨.run (.initial rfl) run_stolen, rfl, fun own => ?_⟩
  exact nomatch own ⟨0, 0, 2, some 1⟩ List.mem_cons_self

end SessionBroker
end MultiSocketRudp
