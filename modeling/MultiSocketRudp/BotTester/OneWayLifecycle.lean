import MultiSocketRudp.BotTester.SessionLifecycle

/-!
# When the life of a bot session is one-way

`Cleanup` guards itself, and the login branch of `OnSendReply` does not: it looks
neither for an earlier reply to the CONNECT packet nor for a `Cleanup` that has
started.  Where the reply comes once and `Cleanup` does not cross the connection,
the session is connected once and ends once.
-/

namespace MultiSocketRudp
namespace BotTester
namespace SessionLifecycle

open TransitionSystems

/-! ## The condition -/

/-- The receive task is inside the login branch of `OnSendReply`. -/
def Receiver.isLogin : Receiver → Bool
  | .connecting _ | .connected _ | .stated _ | .checking _ => true
  | .looping | .receiving | .framing _ | .decoding _ _ | .ended => false

/-- The receive task is about to call `OnSendReply` for the CONNECT packet. -/
def State.takesLogin (state : State) (decoded : Bool) : Bool :=
  match state.receiver with
  | .decoding .loginReply _ => state.hasAesGcm && decoded
  | _ => false

/-- No connection is under way: neither the login branch nor a queued
`OnConnected`. -/
def State.isSettled (state : State) : Bool :=
  !state.receiver.isLogin && !state.channel.contains .onConnected

/-- The channel of a settled session has no `OnConnected`, wherever the receive
task goes from there. -/
theorem State.isSettled_setReceiver
    (state : State) (receiver : Receiver)
    (outside : receiver.isLogin = false)
    (settled : state.isSettled = true) :
    { state with receiver := receiver }.isSettled = true := by
  simp only [State.isSettled, Bool.and_eq_true, Bool.not_eq_true'] at settled ⊢
  exact ⟨outside, settled.2⟩

/-- A call of `Cleanup` in this state finds the session disposed or settled. -/
def State.mayClean (state : State) : Bool :=
  state.isDisposed || state.isSettled

/-- The login reply comes once and before `Cleanup`; `Cleanup` starts while no
connection is under way; its hooks return and are assigned. -/
def State.keepsOneWay (state : State) : Label → Bool
  | .receiver decoded =>
      !state.takesLogin decoded ||
        !state.events.contains .loginReplied && !state.isDisposed
  | .disconnect => state.mayClean
  | .retransmission =>
      state.retransmission ≠ .disconnecting || state.mayClean
  | .aliveCheck index =>
      state.aliveChecks[index]? ≠ some .disconnecting || state.mayClean
  | .cleanup returns =>
      match state.cleanup with
      | .cancelled => returns
      | .cleared => state.hasHandler
      | _ => true
  | _ => true

/-- Nothing crosses the path of the session in this step. -/
def NothingCrosses (state : State) (label : Label) : Prop :=
  state.keepsOneWay label = true

instance (state : State) (label : Label) :
    Decidable (NothingCrosses state label) :=
  inferInstanceAs (Decidable (_ = _))

/-! ## Events since `Cleanup` -/

section Events

variable {event : Event} {events : List Event}

/-- Another event comes after those since `Cleanup`. -/
theorem mem_sinceCleanup_cons
    {other : Event}
    (distinct : event ≠ .cleanupStarted)
    (member : other ∈ sinceCleanup (event :: events)) :
    .cleanupStarted ∈ events ∧
      (other = event ∨ other ∈ sinceCleanup events) := by
  unfold sinceCleanup at member ⊢
  split at member
  next started =>
    have before : .cleanupStarted ∈ events :=
      (List.mem_cons.mp started).resolve_left fun same => distinct same.symm
    rw [List.takeWhile_cons_of_pos (by simpa using distinct)] at member
    rw [if_pos before]
    exact ⟨before, List.mem_cons.mp member⟩
  next => cases member

/-- Nothing has happened since a `Cleanup` that starts. -/
theorem sinceCleanup_cleanupStarted :
    sinceCleanup (.cleanupStarted :: events) = [] := by
  unfold sinceCleanup
  rw [if_pos List.mem_cons_self]
  exact List.takeWhile_cons_of_neg (by simp)

/-- No connection follows when another event is harmless or comes before
`Cleanup`. -/
theorem stays_cons
    (stays : ∀ other ∈ sinceCleanup events, other.connects = false)
    (distinct : event ≠ .cleanupStarted)
    (harmless : event.connects = false ∨ .cleanupStarted ∉ events) :
    ∀ other ∈ sinceCleanup (event :: events), other.connects = false := by
  intro other member
  obtain ⟨started, rfl | earlier⟩ := mem_sinceCleanup_cons distinct member
  · exact harmless.resolve_right (not_not.mpr started)
  · exact stays other earlier

/-- At most one event happens in a step. -/
theorem count_events (event : Option Event) (events : List Event)
    (other : Event) :
    (event.toList ++ events).count other =
      events.count other + if event = some other then 1 else 0 := by
  cases event with
  | none => simp
  | some new => simp [List.count_cons]

end Events

/-! ## The invariant -/

/-- The login branch has `OnConnected` still to queue. -/
def Receiver.queues (receiver : Receiver) : Nat :=
  if receiver.isLogin then 1 else 0

/-- The login branch has a server-alive check still to start. -/
def Receiver.checks : Receiver → Nat
  | .connecting _ | .connected _ | .stated _ => 1
  | .looping | .receiving | .framing _ | .decoding _ _ | .checking _
  | .ended => 0

/-- How often `OnDisconnected` has been called. -/
def Cleanup.disconnects : Cleanup → Nat
  | .outside | .begun | .unset | .completed | .cancelled => 0
  | .notified | .disposed | .closed | .forgotten | .cleared | .finished
  | .thrown => 1

/-- How often `OnSessionDisconnected` has been called. -/
def Cleanup.reports : Cleanup → Nat
  | .finished => 1
  | .outside | .begun | .unset | .completed | .cancelled | .notified
  | .disposed | .closed | .forgotten | .cleared | .thrown => 0

/-- The invariant behind the one-way path. -/
structure Kept (state : State) : Prop where
  started : state.events.count .cleanupStarted =
    if state.isDisposed then 1 else 0
  outside : state.isDisposed = false → state.cleanup = .outside
  settled : state.isDisposed = true → state.isSettled = true
  once : state.events.count .loginReplied ≤ 1
  queued : state.events.count .onConnectedQueued + state.receiver.queues ≤
    state.events.count .loginReplied
  checked : state.events.count .aliveCheckStarted + state.receiver.checks ≤
    state.events.count .loginReplied
  disconnects : state.events.count .onDisconnected = state.cleanup.disconnects
  reports : state.events.count .onSessionDisconnected = state.cleanup.reports
  returned : state.cleanup ≠ .thrown
  stays : ∀ event ∈ sinceCleanup state.events, event.connects = false

theorem kept_initial : Kept initial where
  started := rfl
  outside _ := rfl
  settled disposed := absurd disposed Bool.false_ne_true
  once := Nat.zero_le 1
  queued := Nat.le_refl 0
  checked := Nat.le_refl 0
  disconnects := rfl
  reports := rfl
  returned := nofun
  stays _ member := by cases member

namespace Kept

variable {state next : State}

/-- `Cleanup` starts at most once, so it has not while the session is not
disposed. -/
theorem not_started
    (kept : Kept state)
    (alive : state.isDisposed = false) :
    .cleanupStarted ∉ state.events := by
  have none := kept.started
  rw [alive] at none
  exact List.count_eq_zero.mp none

/-- Under the invariant the path is one-way. -/
theorem oneWay
    (kept : Kept state) :
    OneWay state where
  queuedOnce := by
    have queued := kept.queued
    have once := kept.once
    omega
  checkedOnce := by
    have checked := kept.checked
    have once := kept.once
    omega
  startedOnce := by
    rw [kept.started]
    split <;> omega
  disconnectedOnce := by
    rw [kept.disconnects, kept.reports]
    cases state.cleanup <;> simp [Cleanup.disconnects, Cleanup.reports]
  disconnected := by
    rintro (finished | thrown)
    · rw [kept.disconnects, kept.reports, finished]
      exact ⟨rfl, rfl⟩
    · exact absurd thrown kept.returned
  stays := kept.stays

/-- A call of `Cleanup` keeps the invariant when it may clean. -/
theorem beginCleanup
    (kept : Kept state)
    (may : state.mayClean = true) :
    Kept state.beginCleanup := by
  unfold State.beginCleanup
  split
  · exact kept
  next alive =>
    have unstarted := (Bool.not_eq_true _).mp alive
    have settled : state.isSettled = true := by
      simpa [State.mayClean, unstarted] using may
    have outside := kept.outside unstarted
    have started := kept.started
    have disconnects := kept.disconnects
    have reports := kept.reports
    rw [outside] at disconnects reports
    rw [unstarted] at started
    exact
      { started := by
          simpa [State.record, List.count_cons] using started
        outside := nofun
        settled := fun _ => settled
        once := by simpa [State.record, List.count_cons] using kept.once
        queued := by simpa [State.record, List.count_cons] using kept.queued
        checked := by simpa [State.record, List.count_cons] using kept.checked
        disconnects := by
          simpa [State.record, List.count_cons, Cleanup.disconnects]
            using disconnects
        reports := by
          simpa [State.record, List.count_cons, Cleanup.reports] using reports
        returned := nofun
        stays := fun event member => by
          rw [State.record, sinceCleanup_cleanupStarted] at member
          cases member }

/-- A step that happens with at most one event other than the start of
`Cleanup`. -/
theorem move
    (kept : Kept state)
    (event : Option Event)
    (events : next.events = event.toList ++ state.events)
    (isDisposed : next.isDisposed = state.isDisposed)
    (other : event ≠ some .cleanupStarted)
    (outside : state.isDisposed = false → next.cleanup = .outside)
    (settled : state.isDisposed = true → next.isSettled = true)
    (first : event = some .loginReplied → .loginReplied ∉ state.events)
    (queued : (if event = some .onConnectedQueued then 1 else 0) +
        next.receiver.queues ≤
      state.receiver.queues + if event = some .loginReplied then 1 else 0)
    (checked : (if event = some .aliveCheckStarted then 1 else 0) +
        next.receiver.checks ≤
      state.receiver.checks + if event = some .loginReplied then 1 else 0)
    (disconnects : next.cleanup.disconnects =
      state.cleanup.disconnects +
        if event = some .onDisconnected then 1 else 0)
    (reports : next.cleanup.reports =
      state.cleanup.reports +
        if event = some .onSessionDisconnected then 1 else 0)
    (returned : next.cleanup ≠ .thrown)
    (harmless : state.isDisposed = true → ∀ new ∈ event,
      new.connects = false) :
    Kept next where
  started := by
    rw [events, count_events, if_neg other, isDisposed]
    exact kept.started
  outside alive := outside (isDisposed ▸ alive)
  settled disposed := settled (isDisposed ▸ disposed)
  once := by
    rw [events, count_events]
    split
    next replied =>
      rw [List.count_eq_zero.mpr (first replied)]
    next => exact kept.once
  queued := by
    have before := kept.queued
    rw [events, count_events, count_events]
    omega
  checked := by
    have before := kept.checked
    rw [events, count_events, count_events]
    omega
  disconnects := by
    rw [events, count_events, disconnects, kept.disconnects]
  reports := by
    rw [events, count_events, reports, kept.reports]
  returned := returned
  stays := by
    rw [events]
    cases event with
    | none => exact kept.stays
    | some new =>
        refine stays_cons kept.stays (fun same => other (same ▸ rfl)) ?_
        by_cases disposed : state.isDisposed = true
        · exact .inl (harmless disposed new rfl)
        · exact .inr (kept.not_started ((Bool.not_eq_true _).mp disposed))

/-- A step that writes neither the history nor `isDisposed`, and changes the
receive task and the channel at most in settled ways. -/
theorem quiet
    (kept : Kept state)
    (events : next.events = state.events)
    (isDisposed : next.isDisposed = state.isDisposed)
    (cleanup : next.cleanup = state.cleanup)
    (settles : state.isDisposed = true → state.isSettled = true →
      next.isSettled = true)
    (queues : next.receiver.queues ≤ state.receiver.queues)
    (checks : next.receiver.checks ≤ state.receiver.checks) :
    Kept next :=
  kept.move none events isDisposed nofun
    (fun alive => cleanup ▸ kept.outside alive)
    (fun disposed => settles disposed (kept.settled disposed)) nofun
    (by simpa using queues) (by simpa using checks) (by rw [cleanup]; rfl)
    (by rw [cleanup]; rfl) (cleanup ▸ kept.returned) nofun

/-- The session is not disposed while the login branch runs. -/
theorem alive_of_isLogin
    (kept : Kept state)
    (login : state.receiver.isLogin = true) :
    state.isDisposed = false := by
  by_contra disposed
  have settled := kept.settled ((Bool.not_eq_false _).mp disposed)
  simp [State.isSettled, login] at settled

/-- A step of the login branch. -/
theorem login
    (kept : Kept state)
    (login : state.receiver.isLogin = true)
    (event : Option Event)
    (events : next.events = event.toList ++ state.events)
    (isDisposed : next.isDisposed = state.isDisposed)
    (cleanup : next.cleanup = state.cleanup)
    (ofLogin : ∀ new ∈ event, new = .becameConnected ∨
      new = .stateConnected ∨ new = .aliveCheckStarted ∨
      new = .onConnectedQueued)
    (queued : (if event = some .onConnectedQueued then 1 else 0) +
      next.receiver.queues ≤ state.receiver.queues)
    (checked : (if event = some .aliveCheckStarted then 1 else 0) +
      next.receiver.checks ≤ state.receiver.checks) :
    Kept next := by
  have alive := kept.alive_of_isLogin login
  have undisposed : ¬ state.isDisposed = true := by simp [alive]
  have apart : event ≠ some .cleanupStarted ∧ event ≠ some .loginReplied ∧
      event ≠ some .onDisconnected ∧ event ≠ some .onSessionDisconnected := by
    cases event with
    | none => exact ⟨nofun, nofun, nofun, nofun⟩
    | some new =>
        obtain rfl | rfl | rfl | rfl := ofLogin new rfl <;>
          exact ⟨nofun, nofun, nofun, nofun⟩
  exact kept.move event events isDisposed apart.1
    (fun _ => cleanup ▸ kept.outside alive)
    (fun disposed => absurd disposed undisposed)
    (fun replied => absurd replied apart.2.1)
    (queued.trans (Nat.le_add_right _ _))
    (checked.trans (Nat.le_add_right _ _))
    (by rw [cleanup, if_neg apart.2.2.1]; rfl)
    (by rw [cleanup, if_neg apart.2.2.2]; rfl) (cleanup ▸ kept.returned)
    fun disposed => absurd disposed undisposed

/-- The receive task decodes a packet. -/
theorem decode
    (kept : Kept state)
    {decoded : Bool}
    {packet : Packet}
    {packets : List Packet}
    (stands : state.receiver = .decoding packet packets)
    (keeps : state.keepsOneWay (.receiver decoded) = true)
    (moves : state.receiverStep decoded = some next) :
    Kept next := by
  simp only [State.receiverStep, stands] at moves
  split at moves
  · simp only [Option.some.injEq] at moves
    subst moves
    exact kept.quiet rfl rfl rfl
      (fun _ => state.isSettled_setReceiver _ rfl) (Nat.zero_le _)
      (Nat.zero_le _)
  next keyed =>
  split at moves
  · simp only [Option.some.injEq] at moves
    subst moves
    exact kept.quiet rfl rfl rfl
      (fun _ => state.isSettled_setReceiver _ rfl) (Nat.zero_le _)
      (Nat.zero_le _)
  next decodes =>
  cases packet with
  | other =>
      simp only [Option.some.injEq] at moves
      subst moves
      exact kept.quiet rfl rfl rfl
        (fun _ => state.isSettled_setReceiver _ rfl) (Nat.zero_le _)
        (Nat.zero_le _)
  | data actions =>
      simp only [Option.some.injEq] at moves
      subst moves
      unfold State.tryWrite
      split
      · exact kept.quiet rfl rfl rfl
          (fun _ => state.isSettled_setReceiver _ rfl)
          (Nat.zero_le _) (Nat.zero_le _)
      · refine kept.quiet rfl rfl rfl (fun _ settled => ?_) (Nat.zero_le _)
          (Nat.zero_le _)
        have outside := state.isSettled_setReceiver (.framing packets) rfl
          settled
        simpa [State.isSettled] using outside
  | loginReply =>
      simp only [Option.some.injEq] at moves
      subst moves
      have takes : state.takesLogin decoded = true := by
        simp [State.takesLogin, stands, (Bool.not_eq_false _).mp keyed,
          (Bool.not_eq_false _).mp decodes]
      simp only [State.keepsOneWay, takes, Bool.not_true, Bool.false_or,
        Bool.and_eq_true, Bool.not_eq_true', List.contains_eq_mem,
        decide_eq_false_iff_not] at keeps
      obtain ⟨first, alive⟩ := keeps
      have undisposed : ¬ state.isDisposed = true := by simp [alive]
      exact kept.move (some .loginReplied) rfl rfl nofun kept.outside
        (fun disposed => absurd disposed undisposed) (fun _ => first)
        (Nat.le_add_left _ _) (Nat.le_add_left _ _) rfl rfl kept.returned
        fun disposed => absurd disposed undisposed

/-- The receive task keeps the invariant. -/
theorem receiverStep
    (kept : Kept state)
    {decoded : Bool}
    (keeps : state.keepsOneWay (.receiver decoded) = true)
    (moves : state.receiverStep decoded = some next) :
    Kept next := by
  cases stands : state.receiver with
  | looping =>
      simp only [State.receiverStep, stands, Option.some.injEq] at moves
      subst moves
      refine kept.quiet rfl rfl rfl
        (fun _ => state.isSettled_setReceiver _ ?_) ?_ ?_
      · split <;> rfl
      · split <;> exact Nat.zero_le _
      · split <;> exact Nat.zero_le _
  | receiving | ended => simp [State.receiverStep, stands] at moves
  | framing packets =>
      cases packets with
      | nil =>
          simp only [State.receiverStep, stands, Option.some.injEq] at moves
          subst moves
          exact kept.quiet rfl rfl rfl
            (fun _ => state.isSettled_setReceiver _ rfl)
            (Nat.zero_le _) (Nat.zero_le _)
      | cons packet packets =>
          simp only [State.receiverStep, stands, Option.some.injEq] at moves
          subst moves
          refine kept.quiet rfl rfl rfl
            (fun _ => state.isSettled_setReceiver _ ?_) ?_ ?_
          · split <;> rfl
          · split <;> exact Nat.zero_le _
          · split <;> exact Nat.zero_le _
  | decoding packet packets => exact kept.decode stands keeps moves
  | connecting packets =>
      simp only [State.receiverStep, stands, Option.some.injEq] at moves
      subst moves
      unfold State.setConnected
      split
      · exact kept.login (by rw [stands]; rfl) none rfl rfl rfl nofun
          (by rw [stands]; exact Nat.le_refl _)
          (by rw [stands]; exact Nat.le_refl _)
      · exact kept.login (by rw [stands]; rfl) (some .becameConnected) rfl rfl
          rfl (by rintro new ⟨⟩; exact .inl rfl)
          (by rw [stands]; exact Nat.le_refl _)
          (by rw [stands]; exact Nat.le_refl _)
  | connected packets =>
      simp only [State.receiverStep, stands, Option.some.injEq] at moves
      subst moves
      unfold State.setStateConnected
      split
      · exact kept.login (by rw [stands]; rfl) none rfl rfl rfl nofun
          (by rw [stands]; exact Nat.le_refl _)
          (by rw [stands]; exact Nat.le_refl _)
      · exact kept.login (by rw [stands]; rfl) (some .stateConnected) rfl rfl
          rfl (by rintro new ⟨⟩; exact .inr (.inl rfl))
          (by rw [stands]; exact Nat.le_refl _)
          (by rw [stands]; exact Nat.le_refl _)
  | stated packets =>
      simp only [State.receiverStep, stands, Option.some.injEq] at moves
      subst moves
      exact kept.login (by rw [stands]; rfl) (some .aliveCheckStarted) rfl rfl
        rfl (by rintro new ⟨⟩; exact .inr (.inr (.inl rfl)))
        (by rw [stands]; exact Nat.le_refl _)
        (by rw [stands]; exact Nat.le_refl _)
  | checking packets =>
      simp only [State.receiverStep, stands, Option.some.injEq] at moves
      subst moves
      unfold State.queueOnConnected
      split
      · exact kept.login (by rw [stands]; rfl) none rfl rfl rfl nofun
          (Nat.zero_le _) (Nat.zero_le _)
      next isOpen =>
        unfold State.tryWrite
        rw [if_neg isOpen]
        exact kept.login (by rw [stands]; rfl) (some .onConnectedQueued) rfl
          rfl rfl (by rintro new ⟨⟩; exact .inr (.inr (.inr rfl)))
          (by rw [stands]; exact Nat.le_refl _)
          (by rw [stands]; exact Nat.le_refl _)

/-- The packet processor takes an action. -/
theorem take
    (kept : Kept state)
    (moves : step state .take = some next) :
    Kept next := by
  simp only [step] at moves
  split at moves
  next channel waits queue =>
    simp only [Option.some.injEq] at moves
    subst moves
    have alive : state.isDisposed = false := by
      by_contra disposed
      have settled := kept.settled ((Bool.not_eq_false _).mp disposed)
      simp [State.isSettled, queue] at settled
    have undisposed : ¬ state.isDisposed = true := by simp [alive]
    exact kept.move (some .onConnectedStarted) rfl rfl nofun kept.outside
      (fun disposed => absurd disposed undisposed) nofun
      (Nat.le_of_eq (Nat.zero_add _)) (Nat.le_of_eq (Nat.zero_add _)) rfl rfl
      kept.returned fun disposed => absurd disposed undisposed
  next channel waits queue =>
    simp only [Option.some.injEq] at moves
    subst moves
    refine kept.quiet rfl rfl rfl (fun _ settled => ?_) (Nat.le_refl _)
      (Nat.le_refl _)
    simpa [State.isSettled, queue] using settled
  next => cases moves

/-- `DisconnectAsync` keeps the invariant when its `Cleanup` may clean. -/
theorem watcherStep
    (kept : Kept state)
    {watcher after : Watcher}
    (may : watcher ≠ .disconnecting ∨ state.mayClean = true)
    (moves : state.watcherStep watcher = some (next, after)) :
    Kept next := by
  cases watcher with
  | waiting =>
      simp only [State.watcherStep, Option.some.injEq, Prod.mk.injEq] at moves
      exact moves.1 ▸ kept
  | leaving | left =>
      simp only [State.watcherStep, Option.some.injEq, Prod.mk.injEq] at moves
      obtain ⟨rfl, -⟩ := moves
      exact kept.quiet rfl rfl rfl (fun _ => id) (Nat.le_refl _)
        (Nat.le_refl _)
  | disconnecting =>
      simp only [State.watcherStep, Option.some.injEq, Prod.mk.injEq] at moves
      obtain ⟨rfl, -⟩ := moves
      exact kept.beginCleanup (may.resolve_left (not_not.mpr rfl))
  | ended => simp [State.watcherStep] at moves

/-- `Cleanup` runs its hooks once. -/
theorem cleanupStep
    (kept : Kept state)
    {returns : Bool}
    (keeps : state.keepsOneWay (.cleanup returns) = true)
    (moves : state.cleanupStep returns = some next) :
    Kept next := by
  have disposed : state.isDisposed = true := by
    by_contra alive
    have outside := kept.outside ((Bool.not_eq_true _).mp alive)
    simp [State.cleanupStep, outside] at moves
  have alive : ¬ state.isDisposed = false := by simp [disposed]
  have settled := kept.settled disposed
  cases stands : state.cleanup with
  | outside | finished | thrown =>
      simp [State.cleanupStep, stands] at moves
  | begun | unset | completed | notified | disposed | closed | forgotten =>
      simp only [State.cleanupStep, stands, Option.some.injEq] at moves
      subst moves
      exact kept.move none rfl rfl nofun (fun still => absurd still alive)
        (fun _ => settled) nofun (Nat.le_of_eq (Nat.zero_add _))
        (Nat.le_of_eq (Nat.zero_add _)) (by rw [stands]; rfl)
        (by rw [stands]; rfl) nofun nofun
  | cancelled =>
      simp only [State.cleanupStep, stands, Option.some.injEq] at moves
      simp only [State.keepsOneWay, stands] at keeps
      subst keeps moves
      exact kept.move (some .onDisconnected) rfl rfl nofun
        (fun still => absurd still alive) (fun _ => settled) nofun
        (Nat.le_of_eq (Nat.zero_add _)) (Nat.le_of_eq (Nat.zero_add _))
        (by rw [stands]; rfl) (by rw [stands]; rfl) nofun
        (by rintro _ new ⟨⟩; rfl)
  | cleared =>
      simp only [State.cleanupStep, stands, Option.some.injEq] at moves
      simp only [State.keepsOneWay, stands] at keeps
      rw [if_pos keeps] at moves
      subst moves
      exact kept.move (some .onSessionDisconnected) rfl rfl nofun
        (fun still => absurd still alive) (fun _ => settled) nofun
        (Nat.le_of_eq (Nat.zero_add _)) (Nat.le_of_eq (Nat.zero_add _))
        (by rw [stands]; rfl) (by rw [stands]; rfl) nofun
        (by rintro _ new ⟨⟩; rfl)

/-- Every step that nothing crosses keeps the invariant. -/
theorem step
    (kept : Kept state)
    {label : Label}
    (keeps : NothingCrosses state label)
    (moves : SessionLifecycle.step state label = some next) :
    Kept next := by
  cases label with
  | receive datagram =>
      simp only [SessionLifecycle.step, Option.ite_none_right_eq_some,
        Option.some.injEq] at moves
      obtain ⟨-, rfl⟩ := moves
      exact kept.quiet rfl rfl rfl
        (fun _ => state.isSettled_setReceiver _ rfl) (Nat.zero_le _)
        (Nat.zero_le _)
  | interrupt =>
      simp only [SessionLifecycle.step, Option.ite_none_right_eq_some,
        Option.some.injEq] at moves
      obtain ⟨-, rfl⟩ := moves
      exact kept.quiet rfl rfl rfl
        (fun _ => state.isSettled_setReceiver _ rfl) (Nat.zero_le _)
        (Nat.zero_le _)
  | receiver decoded => exact kept.receiverStep keeps moves
  | take => exact kept.take moves
  | finish =>
      simp only [SessionLifecycle.step] at moves
      split at moves
      · simp only [Option.some.injEq] at moves
        subst moves
        exact { kept with }
      · cases moves
  | endProcessor | endRetransmission | endAliveCheck index =>
      simp only [SessionLifecycle.step, Option.ite_none_right_eq_some,
        Option.some.injEq] at moves
      obtain ⟨-, rfl⟩ := moves
      exact { kept with }
  | retransmission =>
      obtain ⟨⟨after, watcher⟩, steps, rfl⟩ := Option.map_eq_some_iff.mp moves
      have may : state.retransmission ≠ .disconnecting ∨
          state.mayClean = true := by
        simpa [NothingCrosses, State.keepsOneWay] using keeps
      exact { kept.watcherStep may steps with }
  | aliveCheck index =>
      simp only [SessionLifecycle.step] at moves
      split at moves
      · cases moves
      next watcher present =>
      split at moves
      · cases moves
      obtain ⟨⟨after, moved⟩, steps, rfl⟩ := Option.map_eq_some_iff.mp moves
      have may : watcher ≠ .disconnecting ∨ state.mayClean = true := by
        simpa [NothingCrosses, State.keepsOneWay, present] using keeps
      exact { kept.watcherStep may steps with }
  | disconnect =>
      simp only [SessionLifecycle.step, Option.some.injEq] at moves
      subst moves
      exact kept.beginCleanup keeps
  | assign =>
      simp only [SessionLifecycle.step, Option.some.injEq] at moves
      subst moves
      exact { kept with }
  | cleanup returns => exact kept.cleanupStep keeps moves

end Kept

/-- A reply to the CONNECT packet arrives and goes through `OnSendReply`. -/
def loginSchedule : List Label :=
  [.receiver true, .receive [.loginReply]] ++
  List.replicate 7 (.receiver true)

/-- `Cleanup` runs to its end. -/
def cleanupSchedule : List Label :=
  .disconnect :: List.replicate 9 (.cleanup true)

/-- The reply arrives twice. -/
def doubledState : State :=
  (system.run initial (loginSchedule ++ loginSchedule)).getD initial

/-- `Cleanup` runs between the decoding of the reply and `OnSendReply`. -/
def resurrectedState : State :=
  (system.run initial
    ([.assign, .receiver true, .receive [.loginReply], .receiver true,
      .receiver true] ++ cleanupSchedule ++
      [.receiver true, .receiver true])).getD initial

/-- `OnConnected` is queued when `Cleanup` starts. -/
def lateState : State :=
  (system.run initial (loginSchedule ++ [.disconnect, .take])).getD initial

theorem reachable_doubledState : system.Reachable doubledState :=
  .run (.initial rfl)
    (show system.run initial (loginSchedule ++ loginSchedule) =
      some doubledState from rfl)

theorem reachable_resurrectedState : system.Reachable resurrectedState :=
  .run (.initial rfl)
    (show system.run initial
        ([.assign, .receiver true, .receive [.loginReply], .receiver true,
          .receiver true] ++ cleanupSchedule ++
          [.receiver true, .receiver true]) = some resurrectedState from rfl)

theorem reachable_lateState : system.Reachable lateState :=
  .run (.initial rfl)
    (show system.run initial (loginSchedule ++ [.disconnect, .take]) =
      some lateState from rfl)

end SessionLifecycle
end BotTester
end MultiSocketRudp
