import Mathlib.Data.BitVec
import MultiSocketRudp.Lib.TransitionSystem
import MultiSocketRudp.Protocol

/-!
# The timeout of a reservation

The heartbeat thread reads the clock once and then visits every session.  Broker
workers reserve sessions meanwhile: they write `sessionReservedTime` before they
set RESERVED, and once more when the key exchange data is built.

The elapsed time is an unsigned difference, so a reservation time that is newer
than the reading of the heartbeat thread passes for a very old one.
-/

namespace MultiSocketRudp
namespace ReservationTimeout

open TransitionSystems

/-- `GetTickCount64`, in milliseconds. -/
abbrev Tick := BitVec 64

/-- The index of a session in `sessionList`. -/
abbrev SessionId := Nat

/-- A worker of the broker. -/
abbrev WorkerId := Nat

/-- A session, as far as its reservation goes. -/
structure Session where
  sessionState : SessionState
  sessionReservedTime : Tick
  /-- The time at which the last reservation began. -/
  began : Tick
  /-- The number of reservations so far. -/
  reservation : Nat
  /-- The session has not been initialized since that reservation began. -/
  written : Bool
  deriving DecidableEq, Repr

/-- `CheckReservedSessionTimeout` after `IsReserved` has returned true. -/
def Session.checkReservedSessionTimeout
    (session : Session)
    (reservedSessionTimeoutMs now : Tick) : Bool :=
  reservedSessionTimeoutMs ≤ now - session.sessionReservedTime

/-- Where a worker stands inside `ReserveSession`, with the number of the
reservation that it has begun. -/
inductive WorkerPc
  | outside
  /-- `InitReserveSession` is about to test `IsConnected`. -/
  | acquired (id : SessionId)
  /-- It is about to read the clock. -/
  | reserving (id : SessionId)
  /-- It is about to write `sessionReservedTime`. -/
  | timed (id : SessionId) (tick : Tick)
  /-- It is about to call `SetReserved`. -/
  | stored (id : SessionId) (reservation : Nat)
  /-- It makes the socket, the request queue, the key and the session info. -/
  | building (id : SessionId) (reservation : Nat)
  /-- It is about to read the clock for `SetSessionReservedTime`. -/
  | built (id : SessionId) (reservation : Nat)
  /-- It is about to write `sessionReservedTime` once more. -/
  | rewriting (id : SessionId) (reservation : Nat) (tick : Tick)
  deriving DecidableEq, Repr

/-- Where the heartbeat thread stands inside `HeartbeatCheck`, with the time that
it has read. -/
inductive HeartbeatPc
  | outside
  /-- It is about to test `IsUsingSession`. -/
  | visiting (now : Tick) (id : SessionId)
  /-- It is about to test `IsConnected`. -/
  | inUse (now : Tick) (id : SessionId)
  /-- It is about to test `IsReserved`. -/
  | notConnected (now : Tick) (id : SessionId)
  /-- `CheckReservedSessionTimeout` is about to test `IsReserved`. -/
  | reserved (now : Tick) (id : SessionId)
  /-- `CheckReservedSessionTimeout` is about to read `sessionReservedTime`. -/
  | checking (now : Tick) (id : SessionId)
  /-- It is about to call `AbortReservedSession`. -/
  | aborting (now : Tick) (id : SessionId)
  deriving DecidableEq, Repr

/-- The time that the heartbeat thread has read. -/
def HeartbeatPc.now : HeartbeatPc → Option Tick
  | .outside => none
  | .visiting now _ | .inUse now _ | .notConnected now _ | .reserved now _
  | .checking now _ | .aborting now _ => some now

/-- A result of `CheckReservedSessionTimeout`, with the beginning of the
reservation and the time at which it returns. -/
structure Check where
  result : Bool
  began : Tick
  clock : Tick
  deriving DecidableEq, Repr

/-- The sessions, the clock and the threads. -/
structure State where
  clock : Tick
  sessions : SessionId → Session
  unusedSessionIdList : List SessionId
  workers : WorkerId → WorkerPc
  heartbeat : HeartbeatPc
  checks : List Check

/-- One step of one thread. -/
inductive Label
  /-- The clock moves on. -/
  | advance (clock : Tick)
  /-- A worker calls `AcquireSession`. -/
  | acquire (worker : WorkerId)
  /-- A worker moves on; what it builds succeeds or not. -/
  | work (worker : WorkerId) (succeeds : Bool)
  /-- The heartbeat thread reads the clock and calls `HeartbeatCheck`. -/
  | beginHeartbeat
  /-- The heartbeat thread moves on. -/
  | heartbeat
  /-- `TryConnect` moves the state machine. -/
  | connect (id : SessionId)
  /-- A thread calls `AbortReservedSession` or `DoDisconnect`. -/
  | disconnect (id : SessionId)
  /-- The release thread calls `ReleaseSession`. -/
  | release (id : SessionId)
  deriving DecidableEq, Repr

namespace State

/-- A session changes. -/
def setSession (state : State) (id : SessionId) (session : Session) : State :=
  { state with sessions := Function.update state.sessions id session }

/-- The state machine of a session moves. -/
def setState (state : State) (id : SessionId) (next : SessionState) : State :=
  state.setSession id { state.sessions id with sessionState := next }

/-- A worker moves on. -/
def setWorker (state : State) (worker : WorkerId) (pc : WorkerPc) : State :=
  { state with workers := Function.update state.workers worker pc }

/-- A reservation begins with the write of `sessionReservedTime`. -/
def beginReservation
    (state : State) (id : SessionId) (tick : Tick) : State :=
  state.setSession id
    { state.sessions id with
      sessionReservedTime := tick
      began := tick
      reservation := (state.sessions id).reservation + 1
      written := true }

/-- `SetSessionReservedTime`. -/
def setSessionReservedTime
    (state : State) (id : SessionId) (tick : Tick) : State :=
  state.setSession id
    { state.sessions id with sessionReservedTime := tick }

/-- The next step of a worker. -/
def work (state : State) (worker : WorkerId) (succeeds : Bool) :
    Option State :=
  match state.workers worker with
  | .outside => none
  | .acquired id =>
      some (state.setWorker worker
        (if (state.sessions id).sessionState = .connected then .outside
          else .reserving id))
  | .reserving id => some (state.setWorker worker (.timed id state.clock))
  | .timed id tick =>
      some ((state.beginReservation id tick).setWorker worker
        (.stored id ((state.sessions id).reservation + 1)))
  | .stored id reservation =>
      some ((state.setState id .reserved).setWorker worker
        (.building id reservation))
  | .building id reservation =>
      some (state.setWorker worker
        (if succeeds then .built id reservation else .outside))
  | .built id reservation =>
      some (state.setWorker worker (.rewriting id reservation state.clock))
  | .rewriting id _ tick =>
      some ((state.setSessionReservedTime id tick).setWorker worker .outside)

/-- The next step of the heartbeat thread. -/
def beat
    (maxSessionSize : BitVec 16) (reservedSessionTimeoutMs : Tick)
    (state : State) : Option State :=
  match state.heartbeat with
  | .outside => none
  | .visiting now id =>
      let usingSession :=
        (state.sessions id).sessionState = .reserved ∨
          (state.sessions id).sessionState = .connected
      some
        { state with
          heartbeat :=
            if maxSessionSize.toNat ≤ id then .outside
            else if usingSession then .inUse now id
            else .visiting now (id + 1) }
  | .inUse now id =>
      some
        { state with
          heartbeat :=
            if (state.sessions id).sessionState = .connected then
              .visiting now (id + 1)
            else .notConnected now id }
  | .notConnected now id =>
      some
        { state with
          heartbeat :=
            if (state.sessions id).sessionState = .reserved then
              .reserved now id
            else .visiting now (id + 1) }
  | .reserved now id =>
      some
        { state with
          heartbeat :=
            if (state.sessions id).sessionState = .reserved then
              .checking now id
            else .visiting now (id + 1) }
  | .checking now id =>
      let result :=
        (state.sessions id).checkReservedSessionTimeout
          reservedSessionTimeoutMs now
      some
        { state with
          checks := ⟨result, (state.sessions id).began, state.clock⟩ ::
            state.checks
          heartbeat :=
            if result then .aborting now id else .visiting now (id + 1) }
  | .aborting now id =>
      some
        { state.setState id
            (state.sessions id).sessionState.tryAbortReserved.2 with
          heartbeat := .visiting now (id + 1) }

end State

/-- The effect of a step. -/
def step
    (maxSessionSize : BitVec 16) (reservedSessionTimeoutMs : Tick)
    (state : State) : Label → Option State
  | .advance clock =>
      if state.clock ≤ clock then some { state with clock := clock } else none
  | .acquire worker =>
      match state.workers worker, state.unusedSessionIdList with
      | .outside, id :: rest =>
          some ({ state with unusedSessionIdList := rest }.setWorker worker
            (.acquired id))
      | _, _ => none
  | .work worker succeeds => state.work worker succeeds
  | .beginHeartbeat =>
      if state.heartbeat = .outside then
        some { state with heartbeat := .visiting state.clock 0 }
      else none
  | .heartbeat => state.beat maxSessionSize reservedSessionTimeoutMs
  | .connect id =>
      some (state.setState id
        (state.sessions id).sessionState.tryTransitionToConnected.2)
  | .disconnect id =>
      some (state.setState id
        (state.sessions id).sessionState.tryTransitionToReleasing.2)
  | .release id =>
      if (state.sessions id).sessionState = .releasing ∧
          id ∉ state.unusedSessionIdList then
        some { (state.setSession id
          { state.sessions id with
            sessionState := .disconnected
            sessionReservedTime := 0
            written := false }) with
          unusedSessionIdList := state.unusedSessionIdList ++ [id] }
      else none

/-- A server whose sessions are all in the pool. -/
def initial (maxSessionSize : BitVec 16) : State where
  clock := 0
  sessions _ := ⟨.disconnected, 0, 0, 0, false⟩
  unusedSessionIdList := List.range maxSessionSize.toNat
  workers _ := .outside
  heartbeat := .outside
  checks := []

/-- A server with its reservation timeout. -/
def system (maxSessionSize : BitVec 16) (reservedSessionTimeoutMs : Tick) :
    TransitionSystem State Label where
  Initial state := state = initial maxSessionSize
  step := step maxSessionSize reservedSessionTimeoutMs

/-- Whenever `CheckReservedSessionTimeout` has returned true, the reservation had
begun at least the timeout before. -/
def NeverEarly (reservedSessionTimeoutMs : Tick) (state : State) : Prop :=
  ∀ check ∈ state.checks, check.result = true →
    check.began.toNat + reservedSessionTimeoutMs.toNat ≤ check.clock.toNat

/-! ## The condition -/

/-- The heartbeat thread reads a reservation time that belongs to a reservation
and is not newer than its reading of the clock. -/
def HeartbeatPc.Meets (state : State) : HeartbeatPc → Prop
  | .checking now id =>
      (state.sessions id).written = true ∧
        (state.sessions id).sessionReservedTime ≤ now
  | _ => True

/-- A worker rewrites the time of its own reservation. -/
def WorkerPc.Meets (state : State) : WorkerPc → Prop
  | .rewriting id reservation _ =>
      (state.sessions id).reservation = reservation
  | _ => True

/-- The heartbeat thread and the workers meet their conditions. -/
def Meets (state : State) : Label → Prop
  | .heartbeat => state.heartbeat.Meets state
  | .work worker _ => (state.workers worker).Meets state
  | _ => True

instance (state : State) (pc : HeartbeatPc) : Decidable (pc.Meets state) :=
  match pc with
  | .checking _ _ => inferInstanceAs (Decidable (_ ∧ _))
  | .outside | .visiting _ _ | .inUse _ _ | .notConnected _ _ | .reserved _ _
  | .aborting _ _ => .isTrue trivial

instance (state : State) (pc : WorkerPc) : Decidable (pc.Meets state) :=
  match pc with
  | .rewriting _ _ _ => inferInstanceAs (Decidable (_ = _))
  | .outside | .acquired _ | .reserving _ | .timed _ _ | .stored _ _
  | .building _ _ | .built _ _ => .isTrue trivial

instance (state : State) (label : Label) : Decidable (Meets state label) :=
  match label with
  | .heartbeat => inferInstanceAs (Decidable (state.heartbeat.Meets state))
  | .work worker _ =>
      inferInstanceAs (Decidable ((state.workers worker).Meets state))
  | .advance _ | .acquire _ | .beginHeartbeat | .connect _ | .disconnect _
  | .release _ => .isTrue trivial

/-! ## The invariant -/

/-- A session whose last reservation began in the past, and whose reservation time
is not from before it. -/
structure Session.Kept (clock : Tick) (session : Session) : Prop where
  began_le : session.began ≤ clock
  began_le_time :
    session.written = true → session.began ≤ session.sessionReservedTime

/-- A worker read the clock in the past, and after its own reservation began. -/
def WorkerPc.Kept (state : State) : WorkerPc → Prop
  | .timed _ tick => tick ≤ state.clock
  | .stored id reservation | .building id reservation | .built id reservation =>
      reservation ≤ (state.sessions id).reservation
  | .rewriting id reservation tick =>
      reservation ≤ (state.sessions id).reservation ∧
        ((state.sessions id).reservation = reservation →
          (state.sessions id).began ≤ tick)
  | _ => True

/-- What every run that meets the condition keeps. -/
structure Kept (reservedSessionTimeoutMs : Tick) (state : State) : Prop where
  sessions : ∀ id, (state.sessions id).Kept state.clock
  workers : ∀ worker, (state.workers worker).Kept state
  heartbeat : ∀ now ∈ state.heartbeat.now, now ≤ state.clock
  checks : NeverEarly reservedSessionTimeoutMs state

/-- The clock and the reservations of a later state. -/
structure Later (before after : State) : Prop where
  clock : before.clock ≤ after.clock
  sessions : ∀ id,
    (before.sessions id).reservation < (after.sessions id).reservation ∨
      (before.sessions id).reservation = (after.sessions id).reservation ∧
        (before.sessions id).began = (after.sessions id).began

/-- No session changes. -/
theorem Later.of_sessions
    {before after : State}
    (clock : before.clock ≤ after.clock)
    (sessions : before.sessions = after.sessions) :
    Later before after :=
  ⟨clock, fun _ => .inr (by simp [sessions])⟩

/-- A worker that stands still. -/
theorem WorkerPc.Kept.later
    {before after : State} {pc : WorkerPc}
    (kept : pc.Kept before)
    (later : Later before after) :
    pc.Kept after := by
  have grows (id : SessionId) :
      (before.sessions id).reservation ≤ (after.sessions id).reservation := by
    rcases later.sessions id with newer | ⟨same, -⟩
    · exact newer.le
    · exact same.le
  cases pc with
  | timed id tick => exact BitVec.le_trans kept later.clock
  | stored id reservation => exact Nat.le_trans kept (grows id)
  | building id reservation => exact Nat.le_trans kept (grows id)
  | built id reservation => exact Nat.le_trans kept (grows id)
  | rewriting id reservation tick =>
      refine ⟨kept.1.trans (grows id), fun own => ?_⟩
      rcases later.sessions id with newer | ⟨same, began⟩
      · exact absurd kept.1 (by omega)
      · rw [← began]
        exact kept.2 (same.trans own)
  | _ => trivial

/-- Elapsed time is what has passed if the earlier time is not newer. -/
theorem add_le_of_le_sub
    {earlier later elapsed : Tick}
    (inOrder : earlier ≤ later)
    (passed : elapsed ≤ later - earlier) :
    earlier.toNat + elapsed.toNat ≤ later.toNat := by
  have difference := BitVec.toNat_sub_of_le inOrder
  have bound := BitVec.le_def.mp passed
  have order := BitVec.le_def.mp inOrder
  omega

/-! ## The steps -/

namespace Kept

variable {maxSessionSize : BitVec 16} {reservedSessionTimeoutMs : Tick}
variable {state next : State}

/-- A session changes, within its reservation or to a new one. -/
theorem setSession
    (kept : Kept reservedSessionTimeoutMs state)
    (id : SessionId) (session : Session)
    (sessionKept : session.Kept state.clock)
    (later :
      (state.sessions id).reservation < session.reservation ∨
        (state.sessions id).reservation = session.reservation ∧
          (state.sessions id).began = session.began) :
    Kept reservedSessionTimeoutMs (state.setSession id session) := by
  have moves : Later state (state.setSession id session) := by
    refine ⟨BitVec.le_refl _, fun other => ?_⟩
    by_cases same : other = id
    · subst same
      simpa [State.setSession] using later
    · exact .inr (by simp [State.setSession, same])
  exact
    { kept with
      sessions := fun other => by
        by_cases same : other = id
        · subst same
          simpa [State.setSession] using sessionKept
        · simpa [State.setSession, same] using kept.sessions other
      workers := fun worker => (kept.workers worker).later moves }

/-- The state machine of a session moves. -/
theorem setState
    (kept : Kept reservedSessionTimeoutMs state)
    (id : SessionId) (sessionState : SessionState) :
    Kept reservedSessionTimeoutMs (state.setState id sessionState) :=
  kept.setSession id _ { kept.sessions id with } (.inr ⟨rfl, rfl⟩)

/-- A worker moves on. -/
theorem setWorker
    (kept : Kept reservedSessionTimeoutMs state)
    {worker : WorkerId}
    (pc : WorkerPc)
    (pcKept : pc.Kept state) :
    Kept reservedSessionTimeoutMs (state.setWorker worker pc) :=
  have stays : Later state (state.setWorker worker pc) :=
    .of_sessions (BitVec.le_refl _) rfl
  { kept with
    workers := fun other => by
      by_cases same : other = worker
      · subst same
        simpa [State.setWorker] using pcKept.later stays
      · simpa [State.setWorker, same] using
          (kept.workers other).later stays }

/-- The heartbeat thread goes on with the time that it has read. -/
theorem setHeartbeat
    (kept : Kept reservedSessionTimeoutMs state)
    (pc : HeartbeatPc)
    (past : ∀ now ∈ pc.now, now ≤ state.clock) :
    Kept reservedSessionTimeoutMs { state with heartbeat := pc } :=
  { kept with heartbeat := past }

/-- The clock moves on. -/
theorem advance
    (kept : Kept reservedSessionTimeoutMs state)
    {clock : Tick} (later : state.clock ≤ clock) :
    Kept reservedSessionTimeoutMs { state with clock := clock } :=
  { kept with
    sessions := fun id =>
      { kept.sessions id with
        began_le := BitVec.le_trans (kept.sessions id).began_le later }
    workers := fun worker =>
      (kept.workers worker).later (.of_sessions later rfl)
    heartbeat := fun now read =>
      BitVec.le_trans (kept.heartbeat now read) later }

/-- A worker moves on, and rewrites only the time of its own reservation. -/
theorem work
    (kept : Kept reservedSessionTimeoutMs state)
    {worker : WorkerId} {succeeds : Bool}
    (meets : (state.workers worker).Meets state)
    (moves : state.work worker succeeds = some next) :
    Kept reservedSessionTimeoutMs next := by
  have stands := kept.workers worker
  unfold State.work at moves
  cases pc : state.workers worker with
  | outside => simp [pc] at moves
  | acquired id =>
      simp only [pc, Option.some.injEq] at moves
      subst moves
      refine kept.setWorker _ ?_
      split <;> trivial
  | reserving id =>
      simp only [pc, Option.some.injEq] at moves
      subst moves
      exact kept.setWorker _ (BitVec.le_refl _)
  | timed id tick =>
      simp only [pc, Option.some.injEq] at moves
      subst moves
      rw [pc] at stands
      have begun := kept.setSession id
        { state.sessions id with
          sessionReservedTime := tick
          began := tick
          reservation := (state.sessions id).reservation + 1
          written := true }
        ⟨stands, fun _ => BitVec.le_refl _⟩ (.inl (Nat.lt_succ_self _))
      refine begun.setWorker (.stored id _) ?_
      change _ ≤ (Function.update state.sessions id _ id).reservation
      rw [Function.update_self]
  | stored id reservation =>
      simp only [pc, Option.some.injEq] at moves
      subst moves
      rw [pc] at stands
      refine (kept.setState id .reserved).setWorker
        (.building id reservation) ?_
      change _ ≤ (Function.update state.sessions id _ id).reservation
      rw [Function.update_self]
      exact stands
  | building id reservation =>
      simp only [pc, Option.some.injEq] at moves
      subst moves
      rw [pc] at stands
      refine kept.setWorker _ ?_
      split
      · exact stands
      · trivial
  | built id reservation =>
      simp only [pc, Option.some.injEq] at moves
      subst moves
      rw [pc] at stands
      exact kept.setWorker (.rewriting id reservation state.clock)
        ⟨stands, fun _ => (kept.sessions id).began_le⟩
  | rewriting id reservation tick =>
      simp only [pc, Option.some.injEq] at moves
      subst moves
      rw [pc] at stands meets
      have rewritten := kept.setSession id
        { state.sessions id with sessionReservedTime := tick }
        { kept.sessions id with began_le_time := fun _ => stands.2 meets }
        (.inr ⟨rfl, rfl⟩)
      exact rewritten.setWorker .outside trivial

/-- The heartbeat thread moves on, and reads no reservation time that is newer
than its time. -/
theorem beat
    (kept : Kept reservedSessionTimeoutMs state)
    (meets : state.heartbeat.Meets state)
    (moves :
      state.beat maxSessionSize reservedSessionTimeoutMs = some next) :
    Kept reservedSessionTimeoutMs next := by
  have past := kept.heartbeat
  unfold State.beat at moves
  cases pc : state.heartbeat with
  | outside => simp [pc] at moves
  | visiting now id =>
      simp only [pc, Option.some.injEq] at moves
      subst moves
      rw [pc] at past
      refine kept.setHeartbeat _ ?_
      split
      · nofun
      · split
        · exact past
        · exact past
  | inUse now id =>
      simp only [pc, Option.some.injEq] at moves
      subst moves
      rw [pc] at past
      refine kept.setHeartbeat _ ?_
      split <;> exact past
  | notConnected now id =>
      simp only [pc, Option.some.injEq] at moves
      subst moves
      rw [pc] at past
      refine kept.setHeartbeat _ ?_
      split <;> exact past
  | reserved now id =>
      simp only [pc, Option.some.injEq] at moves
      subst moves
      rw [pc] at past
      refine kept.setHeartbeat _ ?_
      split <;> exact past
  | checking now id =>
      simp only [pc, Option.some.injEq] at moves
      subst moves
      rw [pc] at past meets
      obtain ⟨written, notNewer⟩ := meets
      refine
        { kept with
          heartbeat := by
            split <;> exact past
          checks := List.forall_mem_cons.mpr ⟨fun result => ?_, kept.checks⟩ }
      have elapsed := add_le_of_le_sub notNewer (of_decide_eq_true result)
      have began :=
        BitVec.le_def.mp ((kept.sessions id).began_le_time written)
      have now_le := BitVec.le_def.mp (past now rfl)
      change (state.sessions id).began.toNat + _ ≤ state.clock.toNat
      omega
  | aborting now id =>
      simp only [pc, Option.some.injEq] at moves
      subst moves
      rw [pc] at past
      exact (kept.setState id _).setHeartbeat (.visiting now (id + 1)) past

/-- Every step that meets the condition. -/
theorem step
    (kept : Kept reservedSessionTimeoutMs state)
    {label : Label}
    (meets : Meets state label)
    (moves :
      step maxSessionSize reservedSessionTimeoutMs state label = some next) :
    Kept reservedSessionTimeoutMs next := by
  cases label with
  | advance clock =>
      obtain ⟨later, same⟩ := Option.ite_none_right_eq_some.mp moves
      exact Option.some.inj same ▸ kept.advance later
  | acquire worker =>
      simp only [ReservationTimeout.step] at moves
      split at moves
      · obtain rfl := Option.some.inj moves
        refine Kept.setWorker ?_ (.acquired _) trivial
        exact
          { kept with
            workers := fun worker =>
              (kept.workers worker).later
                (.of_sessions (BitVec.le_refl _) rfl) }
      · nomatch moves
  | work worker succeeds => exact kept.work meets moves
  | beginHeartbeat =>
      obtain ⟨_, same⟩ := Option.ite_none_right_eq_some.mp moves
      obtain rfl := Option.some.inj same
      exact kept.setHeartbeat (.visiting state.clock 0)
        fun now read => Option.some.inj read ▸ BitVec.le_refl _
  | heartbeat => exact kept.beat meets moves
  | connect id => exact Option.some.inj moves ▸ kept.setState id _
  | disconnect id => exact Option.some.inj moves ▸ kept.setState id _
  | release id =>
      obtain ⟨_, same⟩ := Option.ite_none_right_eq_some.mp moves
      obtain rfl := Option.some.inj same
      have released := kept.setSession id
        { state.sessions id with
          sessionState := .disconnected
          sessionReservedTime := 0
          written := false }
        { kept.sessions id with began_le_time := nofun } (.inr ⟨rfl, rfl⟩)
      exact
        { released with
          workers := fun worker =>
            (released.workers worker).later
              (.of_sessions (BitVec.le_refl _) rfl) }

end Kept

/-- In every run in which the heartbeat thread reads only reservation times that
belong to a reservation and are not newer than its time, and workers rewrite only
the times of their own reservations, no check is early. -/
theorem neverEarly_of_meets
    {maxSessionSize : BitVec 16} {reservedSessionTimeoutMs : Tick}
    {state : State}
    (reached :
      (system maxSessionSize reservedSessionTimeoutMs).GuardedReachable Meets
        state) :
    NeverEarly reservedSessionTimeoutMs state := by
  have kept : Kept reservedSessionTimeoutMs state := by
    refine reached.invariant (fun _ begins => begins ▸ ?_)
      fun _ _ _ _ kept meets moves => kept.step meets moves
    exact
      { sessions := fun _ => ⟨BitVec.le_refl _, nofun⟩
        workers := fun _ => trivial
        heartbeat := nofun
        checks := nofun }
  exact kept.checks

/-- The heartbeat thread reads the clock, the session is reserved a millisecond
later, and the heartbeat thread visits it. -/
def reservedAfterReading : List Label :=
  [.advance 100000, .beginHeartbeat, .advance 100001, .acquire 0,
    .work 0 true, .work 0 true, .work 0 true, .work 0 true, .heartbeat,
    .heartbeat, .heartbeat, .heartbeat, .heartbeat, .heartbeat]

/-- The server after these steps. -/
def abortedState : State :=
  ((system 1 30000).run (initial 1) reservedAfterReading).getD (initial 1)

/-- The check returns true at the very moment at which the reservation begins, and
the reservation is aborted. -/
theorem aborted_at_once :
    (system 1 30000).Reachable abortedState ∧
      abortedState.checks = [⟨true, 100001, 100001⟩] ∧
      (abortedState.sessions 0).sessionState = .releasing ∧
      abortedState.workers 0 = .building 0 1 ∧
      ¬ NeverEarly 30000 abortedState :=
  ⟨.run (.initial rfl)
    (show (system 1 30000).run (initial 1) reservedAfterReading =
      some abortedState from rfl),
    by decide, by decide, by decide, fun neverEarly =>
      absurd
        (neverEarly ⟨true, 100001, 100001⟩ (by decide) rfl)
        (by decide)⟩

/-- A reservation that is checked once in time, and once too late. -/
def checkedTwice : List Label :=
  [.advance 100000, .acquire 0,
    .work 0 true, .work 0 true, .work 0 true, .work 0 true, .work 0 true,
    .advance 100001, .work 0 true, .work 0 true, .beginHeartbeat, .heartbeat,
    .heartbeat, .heartbeat, .heartbeat, .heartbeat, .heartbeat,
    .advance 130001, .beginHeartbeat, .advance 130002, .heartbeat,
    .heartbeat, .heartbeat, .heartbeat, .heartbeat, .heartbeat]

/-- The server after these steps. -/
def checkedState : State :=
  ((system 1 30000).run (initial 1) checkedTwice).getD (initial 1)

theorem neverEarly_checkedTwice : NeverEarly 30000 checkedState :=
  neverEarly_of_meets
    (TransitionSystem.GuardedReachable.guardedRun (.initial rfl)
      (show (system 1 30000).guardedRun Meets (initial 1) checkedTwice =
        some checkedState from rfl))

end ReservationTimeout
end MultiSocketRudp
