import MultiSocketRudp.BotTester.BotTest
import MultiSocketRudp.Lib.Tally
import Mathlib.Data.Fintype.Option

/-!
# When a bot test completes

Whoever makes the last of the two conditions of `TryComplete` true sees them both,
so somebody comes to the compare-and-swap.  Every bot is counted when its callback
is assigned before `Cleanup` looks for it, and leaves the dictionary when it enters
with the id that its `Cleanup` has captured.
-/

namespace MultiSocketRudp
namespace BotTester
namespace BotTest

open TransitionSystems Dictionary Tally

variable {numOfBot : Nat}

/-! ## The tracker and its callers -/

section Tracker

variable {Caller : Type} [Fintype Caller] [DecidableEq Caller]
variable {tracker : BotTestCompletionTracker}
variable {calls : Caller → Option TryComplete}

/-- The call is about to run `onCompleted`. -/
def notifies : Option TryComplete → Nat
  | some .notifying => 1
  | some .testing | some .counting | some .swapping | none => 0

/-- What the tracker and the calls of `TryComplete` know of each other. -/
structure Consistent
    (expectedBotCount : Nat) (tracker : BotTestCompletionTracker)
    (calls : Caller → Option TryComplete) : Prop where
  completions : tracker.completions + tally notifies calls =
    if tracker.state = .completed then 1 else 0
  late : ∀ caller pc, calls caller = some pc → pc ≠ .testing →
    tracker.isSetupComplete = true
  completedLate : tracker.state = .completed → tracker.isSetupComplete = true
  /-- Once both conditions hold somebody is on the way to the
  compare-and-swap. -/
  pending : tracker.isSetupComplete = true →
    tracker.disconnectedBotCount = expectedBotCount →
    tracker.state = .active → ∃ caller, calls caller ≠ none

namespace Consistent

/-- A caller that does not notify moves on and the tracker stays. -/
theorem move
    (consistent : Consistent numOfBot tracker calls)
    (caller : Caller)
    (after : Option TryComplete)
    (silent : notifies (calls caller) = notifies after)
    (late : ∀ pc, after = some pc → pc ≠ .testing →
      tracker.isSetupComplete = true)
    (pending : tracker.isSetupComplete = true →
      tracker.disconnectedBotCount = numOfBot → tracker.state = .active →
      calls caller ≠ none → after ≠ none) :
    Consistent numOfBot tracker (Function.update calls caller after) where
  completions := by
    have moved := tally_update notifies calls caller after
    have before := consistent.completions
    omega
  late other pc := by
    by_cases same : other = caller
    · subst same
      rw [Function.update_self]
      exact late pc
    · rw [Function.update_of_ne same]
      exact consistent.late other pc
  completedLate := consistent.completedLate
  pending flagged counted active := by
    obtain ⟨other, calling⟩ := consistent.pending flagged counted active
    by_cases same : other = caller
    · subst same
      refine ⟨other, ?_⟩
      rw [Function.update_self]
      exact pending flagged counted active calling
    · exact ⟨other, by rwa [Function.update_of_ne same]⟩

/-- A call of `TryComplete` moves on. -/
theorem tryComplete
    (consistent : Consistent numOfBot tracker calls)
    {caller : Caller}
    {pc : TryComplete}
    (stands : calls caller = some pc) :
    Consistent numOfBot (tracker.tryComplete numOfBot pc).1
      (Function.update calls caller (tracker.tryComplete numOfBot pc).2) := by
  cases pc with
  | testing =>
      refine consistent.move caller _ ?_ ?_ ?_
      · rw [stands]
        change 0 = notifies (if tracker.isSetupComplete then _ else none)
        split <;> rfl
      · intro pc moves _
        exact (Option.ite_none_right_eq_some.mp moves).1
      · intro flagged _ _ _
        simp [BotTestCompletionTracker.tryComplete, flagged]
  | counting =>
      have flagged := consistent.late caller .counting stands nofun
      refine consistent.move caller _ ?_ (fun _ _ _ => flagged) ?_
      · rw [stands]
        change 0 = notifies
          (if tracker.disconnectedBotCount = numOfBot then _ else none)
        split <;> rfl
      · intro _ counted _ _
        simp [BotTestCompletionTracker.tryComplete, counted]
  | swapping =>
      have flagged := consistent.late caller .swapping stands nofun
      simp only [BotTestCompletionTracker.tryComplete]
      split
      next active =>
        have moved := tally_update notifies calls caller (some .notifying)
        have before := consistent.completions
        rw [stands] at moved
        simp only [notifies] at moved
        rw [active] at before
        simp only [reduceCtorEq, if_false] at before
        exact
          { completions := by
              simp only [if_true]
              omega
            late := fun _ _ _ _ => flagged
            completedLate := fun _ => flagged
            pending := nofun }
      next inactive =>
        exact consistent.move caller none (by rw [stands]; rfl) nofun
          fun _ _ active => absurd active inactive
  | notifying =>
      have flagged := consistent.late caller .notifying stands nofun
      have moved := tally_update notifies calls caller none
      have counted := le_tally notifies calls caller
      have before := consistent.completions
      rw [stands] at moved counted
      simp only [notifies] at moved counted
      have completed : tracker.state = .completed := by
        by_contra other
        rw [if_neg other] at before
        omega
      exact
        { completions := by
            change tracker.completions + 1 +
                tally notifies (Function.update calls caller none) =
              if tracker.state = .completed then 1 else 0
            omega
          late := fun _ _ _ _ => flagged
          completedLate := consistent.completedLate
          pending := fun _ _ active =>
            nomatch (show TrackerState.completed = .active from
              completed.symm.trans active) }

/-- A caller calls `TryComplete` after it has made one of the conditions true. -/
theorem enter
    (consistent : Consistent numOfBot tracker calls)
    (after : BotTestCompletionTracker)
    (caller : Caller)
    (outside : calls caller = none)
    (completions : after.completions = tracker.completions)
    (state : after.state = tracker.state)
    (flagged : tracker.isSetupComplete = true →
      after.isSetupComplete = true) :
    Consistent numOfBot after
      (Function.update calls caller (some .testing)) where
  completions := by
    have moved := tally_update notifies calls caller (some .testing)
    have before := consistent.completions
    rw [outside] at moved
    simp only [notifies] at moved
    rw [completions, state]
    omega
  late other pc := by
    by_cases same : other = caller
    · subst same
      rw [Function.update_self]
      intro stands moved
      exact absurd (Option.some.inj stands).symm moved
    · rw [Function.update_of_ne same]
      exact fun stands moved =>
        flagged (consistent.late other pc stands moved)
  completedLate completed :=
    flagged (consistent.completedLate (state ▸ completed))
  pending _ _ _ := ⟨caller, by rw [Function.update_self]; nofun⟩

omit [DecidableEq Caller] in
/-- `Cancel` completes nothing. -/
theorem cancel
    (consistent : Consistent numOfBot tracker calls) :
    Consistent numOfBot tracker.cancel calls := by
  unfold BotTestCompletionTracker.cancel
  split
  next active =>
    have before := consistent.completions
    rw [active] at before
    exact
      { completions := before
        late := consistent.late
        completedLate := nofun
        pending := nofun }
  next => exact consistent

end Consistent

end Tracker

/-! ## The sessions and the dictionary -/

namespace Setup

/-- How many sessions have been created. -/
def created : Setup numOfBot → Nat
  | .requesting index => index
  | .assigning bot | .adding bot => bot + 1
  | .completing _ | .finished | .failed => numOfBot

/-- How many sessions certainly have their callback. -/
def assigned : Setup numOfBot → Nat
  | .requesting index => index
  | .assigning bot => bot
  | .adding bot => bot + 1
  | .completing _ | .finished => numOfBot
  | .failed => 0

/-- How many sessions have certainly been entered into the dictionary. -/
def added : Setup numOfBot → Nat
  | .requesting index => index
  | .assigning bot | .adding bot => bot
  | .completing _ | .finished => numOfBot
  | .failed => 0

theorem added_le_assigned (setup : Setup numOfBot) :
    setup.added ≤ setup.assigned := by
  cases setup <;> simp [added, assigned]

end Setup

/-- The session id has not been reset. -/
def Cleanup.keepsId : Cleanup → Bool
  | .outside | .begun | .captured _ => true
  | .reset _ | .removing _ | .removed | .completing _ | .finished _ => false

/-- The callback will remove the entry of this key. -/
def Session.Owns (session : Session) (key : SessionId) : Prop :=
  match session.cleanup with
  | .outside | .begun => key = session.sessionId
  | .captured sessionId | .reset sessionId | .removing sessionId =>
      key = sessionId
  | .removed | .completing _ | .finished _ => False

/-- What the setup knows of a session. -/
structure Placed
    (setup : Setup numOfBot) (bot : Fin numOfBot) (session : Session) :
    Prop where
  created : setup ≠ .failed →
    (session.created = true ↔ bot.val < setup.created)
  untouched : session.created = false → session.cleanup = .outside
  assigned : bot.val < setup.assigned → session.hasHandler = true
  reported : bot.val < setup.added → session.cleanup ≠ .finished false
  captured : ∀ sessionId, session.cleanup = .captured sessionId →
    session.sessionId = sessionId

/-- The sessions that `StopBotTest` has still to disconnect. -/
def Stop.bots : Stop numOfBot → List (Fin numOfBot)
  | .outside | .cancelled => []
  | .locked bots | .disconnecting _ bots => bots

/-- Each session is where the setup has put it, and every entry of the dictionary
will be removed by its session. -/
structure Registered (state : State numOfBot) : Prop where
  placed : ∀ bot, Placed state.setup bot (state.sessions bot)
  entries : ∀ key bot, (key, bot) ∈ state.sessionDictionary →
    (state.sessions bot).created = true ∧
      (state.sessions bot).hasHandler = true ∧ (state.sessions bot).Owns key
  stopping : ∀ bot ∈ state.stop.bots, (state.sessions bot).created = true

/-- The setup enters a session into the dictionary before the session's `Cleanup`
has reset its id. -/
def State.addsLive (state : State numOfBot) : Label numOfBot → Bool
  | .setup _ =>
      match state.setup with
      | .adding bot => (state.sessions bot).cleanup.keepsId
      | _ => true
  | _ => true

/-- No session dies before it is in the dictionary. -/
def AddsLive (state : State numOfBot) (label : Label numOfBot) : Prop :=
  state.addsLive label = true

instance (state : State numOfBot) (label : Label numOfBot) :
    Decidable (AddsLive state label) :=
  inferInstanceAs (Decidable (_ = _))

namespace Placed

variable {setup after : Setup numOfBot} {bot : Fin numOfBot}
variable {session next : Session}

/-- The setup moves on without a session. -/
theorem congr
    (placed : Placed setup bot session)
    (failed : setup = .failed → after = .failed)
    (created : after ≠ .failed → after.created = setup.created)
    (assigned : after.assigned ≤ setup.assigned)
    (added : after.added ≤ setup.added) :
    Placed after bot session where
  created survives := by
    rw [created survives]
    exact placed.created fun gone => survives (failed gone)
  untouched := placed.untouched
  assigned before := placed.assigned (before.trans_le assigned)
  reported before := placed.reported (before.trans_le added)
  captured := placed.captured

/-- `Cleanup` of a created session moves on. -/
theorem setCleanup
    (placed : Placed setup bot session)
    (created : session.created = true)
    (cleanup : Cleanup)
    (reported : bot.val < setup.added → cleanup ≠ .finished false)
    (captured : ∀ sessionId, cleanup = .captured sessionId →
      session.sessionId = sessionId) :
    Placed setup bot { session with cleanup := cleanup } where
  created := placed.created
  untouched uncreated := absurd (uncreated.symm.trans created)
    Bool.false_ne_true
  assigned := placed.assigned
  reported := reported
  captured := captured

/-- Before the id is reset it is the one that will be removed. -/
theorem owns_of_keepsId
    (placed : Placed setup bot session)
    (keepsId : session.cleanup.keepsId = true) :
    session.Owns session.sessionId := by
  unfold Session.Owns
  cases stands : session.cleanup with
  | outside | begun => rfl
  | captured sessionId => exact placed.captured sessionId stands
  | reset _ | removing _ | removed | completing _ | finished _ =>
      rw [stands] at keepsId
      cases keepsId

end Placed

namespace Registered

variable {state next : State numOfBot}

/-- A session whose `Cleanup` is under way has been created. -/
theorem created_of_cleanup
    (registered : Registered state)
    {bot : Fin numOfBot}
    (begun : (state.sessions bot).cleanup ≠ .outside) :
    (state.sessions bot).created = true := by
  by_contra uncreated
  exact begun ((registered.placed bot).untouched
    ((Bool.not_eq_true _).mp uncreated))

/-- One session changes. -/
theorem setSession
    (registered : Registered state)
    (bot : Fin numOfBot)
    (session : Session)
    (created : session.created = true)
    (placed : Placed state.setup bot session)
    (entries : ∀ key, (key, bot) ∈ state.sessionDictionary →
      session.hasHandler = true ∧ session.Owns key) :
    Registered (state.setSession bot session) where
  placed other := by
    by_cases same : other = bot
    · subst same
      simpa only [State.setSession, Function.update_self] using placed
    · simpa only [State.setSession, Function.update_of_ne same]
        using registered.placed other
  entries key other member := by
    by_cases same : other = bot
    · subst same
      simp only [State.setSession, Function.update_self]
      exact ⟨created, entries key member⟩
    · simpa only [State.setSession, Function.update_of_ne same]
        using registered.entries key other member
  stopping other member := by
    by_cases same : other = bot
    · subst same
      simpa only [State.setSession, Function.update_self] using created
    · simpa only [State.setSession, Function.update_of_ne same]
        using registered.stopping other member

/-- `Cleanup` of a created session moves on. -/
theorem setCleanup
    (registered : Registered state)
    {bot : Fin numOfBot}
    (created : (state.sessions bot).created = true)
    (cleanup : Cleanup)
    (reported : bot.val < state.setup.added → cleanup ≠ .finished false)
    (captured : ∀ sessionId, cleanup = .captured sessionId →
      (state.sessions bot).sessionId = sessionId)
    (owns : ∀ key, (key, bot) ∈ state.sessionDictionary →
      { state.sessions bot with cleanup := cleanup }.Owns key) :
    Registered (state.setCleanup bot cleanup) :=
  registered.setSession bot _ created
    ((registered.placed bot).setCleanup created cleanup reported captured)
    fun key member => ⟨(registered.entries key bot member).2.1,
      owns key member⟩

/-- Entries leave the dictionary. -/
theorem shrink
    (registered : Registered state)
    {entries : List (SessionId × Fin numOfBot)}
    (fewer : ∀ entry ∈ entries, entry ∈ state.sessionDictionary) :
    Registered { state with sessionDictionary := entries } :=
  { registered with
    entries := fun key bot member =>
      registered.entries key bot (fewer _ member) }

/-- `Cleanup` keeps the sessions registered. -/
theorem cleanupStep
    (registered : Registered state)
    {bot : Fin numOfBot}
    (moves : state.cleanupStep bot = some next) :
    Registered next := by
  have placed := registered.placed bot
  have entries := fun key => registered.entries key bot
  have created : (state.sessions bot).cleanup ≠ .outside →
      (state.sessions bot).created = true := registered.created_of_cleanup
  cases stands : (state.sessions bot).cleanup with
  | outside => simp [State.cleanupStep, stands] at moves
  | finished reported => simp [State.cleanupStep, stands] at moves
  | begun =>
      simp only [State.cleanupStep, stands, Option.some.injEq] at moves
      subst moves
      refine registered.setCleanup (created (by simp [stands])) _
        (fun _ => nofun) (by rintro sessionId ⟨⟩; rfl) fun key member => ?_
      have owns := (entries key member).2.2
      simpa [Session.Owns, stands] using owns
  | captured sessionId =>
      simp only [State.cleanupStep, stands, Option.some.injEq] at moves
      subst moves
      have made := created (by simp [stands])
      refine registered.setSession bot _ made
        { created := placed.created
          untouched := fun uncreated =>
            absurd (uncreated.symm.trans made) Bool.false_ne_true
          assigned := placed.assigned
          reported := fun _ => nofun
          captured := nofun }
        fun key member => ⟨(entries key member).2.1, ?_⟩
      have owns := (entries key member).2.2
      simpa [Session.Owns, stands] using owns
  | reset sessionId =>
      simp only [State.cleanupStep, stands, Option.some.injEq] at moves
      subst moves
      refine registered.setCleanup (created (by simp [stands])) _
        (fun added => ?_) (fun id => by split <;> nofun) fun key member => ?_
      · have handled := placed.assigned
          (added.trans_le state.setup.added_le_assigned)
        rw [if_pos handled]
        nofun
      · obtain ⟨-, handled, owns⟩ := entries key member
        rw [if_pos handled]
        simpa [Session.Owns, stands] using owns
  | removing sessionId =>
      simp only [State.cleanupStep, stands] at moves
      split at moves
      · cases moves
      simp only [Option.some.injEq] at moves
      subst moves
      have shrunk : Registered { state with
          sessionDictionary :=
            remove Prod.fst state.sessionDictionary sessionId } :=
        registered.shrink fun entry member => (List.mem_filter.mp member).1
      refine shrunk.setCleanup (created (by simp [stands])) .removed
        (fun _ => nofun) nofun fun key member => ?_
      obtain ⟨present, kept⟩ := List.mem_filter.mp member
      have owns := (entries key present).2.2
      simp only [Session.Owns, stands] at owns
      simp [owns] at kept
  | removed =>
      simp only [State.cleanupStep, stands, Option.some.injEq] at moves
      subst moves
      have done := registered.setCleanup (created (by simp [stands]))
        (.completing .testing) (fun _ => nofun) nofun fun key member => by
          have owns := (entries key member).2.2
          simp only [Session.Owns, stands] at owns
      exact { done with }
  | completing pc =>
      simp only [State.cleanupStep, stands, Option.some.injEq] at moves
      subst moves
      have done := registered.setCleanup (created (by simp [stands]))
        ((state.tracker.tryComplete numOfBot pc).2.elim (.finished true)
          .completing)
        (fun _ => by
          cases (state.tracker.tryComplete numOfBot pc).2 <;> nofun)
        (fun id => by
          cases (state.tracker.tryComplete numOfBot pc).2 <;> nofun)
        fun key member => by
          have owns := (entries key member).2.2
          simp only [Session.Owns, stands] at owns
      exact { done with }

/-- `StartBotTest` keeps the sessions registered when no session dies before it is
in the dictionary. -/
theorem setupStep
    (registered : Registered state)
    {throws : Bool}
    (adds : AddsLive state (.setup throws))
    (moves : state.setupStep throws = some next) :
    Registered next := by
  cases stands : state.setup with
  | requesting index =>
      simp only [State.setupStep, stands, Option.ite_none_right_eq_some,
        Option.some.injEq] at moves
      obtain ⟨rfl, rfl⟩ := moves
      exact
        { registered with
          placed := fun bot => (registered.placed bot).congr (by simp [stands])
            (fun _ => by rw [stands]; rfl) (by rw [stands]; exact Nat.le_refl _)
            (by rw [stands]; exact Nat.le_refl _) }
  | assigning bot =>
      simp only [State.setupStep, stands, Option.some.injEq] at moves
      subst moves
      have handled := registered.setSession bot
        { state.sessions bot with hasHandler := true }
        (((registered.placed bot).created (by simp [stands])).mpr
          (by rw [stands]; exact Nat.lt_succ_self _))
        { registered.placed bot with assigned := fun _ => rfl }
        fun key member => ⟨rfl, (registered.entries key bot member).2.2⟩
      refine
        { handled with
          placed := fun other =>
            { handled.placed other with
              created := fun _ => ?_
              assigned := fun before => ?_
              reported := fun before => ?_ } }
      · have created := (handled.placed other).created (by
          simp [State.setSession, stands])
        simpa [State.setSession, stands, Setup.created] using created
      · by_cases same : other = bot
        · simp [State.setSession, same]
        · have earlier : other.val < bot.val :=
            Nat.lt_of_le_of_ne (Nat.lt_succ_iff.mp before)
              (Fin.val_ne_of_ne same)
          exact (handled.placed other).assigned (by
            simpa [State.setSession, stands, Setup.assigned] using earlier)
      · exact (handled.placed other).reported (by
          simpa [State.setSession, stands, Setup.added] using before)
  | adding bot =>
      have keepsId : (state.sessions bot).cleanup.keepsId = true := by
        simpa [AddsLive, State.addsLive, stands] using adds
      have placed := registered.placed bot
      simp only [State.setupStep, stands] at moves
      split at moves
      · cases moves
      split at moves
      · simp only [Option.some.injEq] at moves
        subst moves
        exact
          { registered with
            placed := fun other => (registered.placed other).congr
              (by simp [stands]) (fun survives => absurd rfl survives)
              (Nat.zero_le _) (Nat.zero_le _) }
      · simp only [Option.some.injEq] at moves
        subst moves
        refine
          { registered with
            placed := fun other =>
              { registered.placed other with
                created := fun _ => ?_
                assigned := fun before => ?_
                reported := fun before => ?_ }
            entries := fun key other member => ?_ }
        · simpa [stands, Setup.created] using
            (registered.placed other).created (by simp [stands])
        · exact (registered.placed other).assigned (by
            simpa [stands, Setup.assigned] using before)
        · by_cases same : other = bot
          · subst same
            intro finished
            rw [finished] at keepsId
            cases keepsId
          · have earlier : other.val < bot.val :=
              Nat.lt_of_le_of_ne (Nat.lt_succ_iff.mp before)
                (Fin.val_ne_of_ne same)
            exact (registered.placed other).reported (by
              simpa [stands, Setup.added] using earlier)
        · rcases List.mem_cons.mp member with entered | earlier
          · cases entered
            refine ⟨(placed.created (by simp [stands])).mpr ?_,
              placed.assigned ?_, ?_⟩
            · rw [stands]
              exact Nat.lt_succ_self _
            · rw [stands]
              exact Nat.lt_succ_self _
            · exact placed.owns_of_keepsId keepsId
          · exact registered.entries key other earlier
  | completing pc =>
      simp only [State.setupStep, stands, Option.some.injEq] at moves
      subst moves
      refine
        { registered with
          placed := fun bot => (registered.placed bot).congr (by simp [stands])
            (fun _ => ?_) ?_ ?_ }
      all_goals
        rw [stands]
        cases (state.tracker.tryComplete numOfBot pc).2 <;>
          simp [Setup.created, Setup.assigned, Setup.added]
  | finished | failed => simp [State.setupStep, stands] at moves

/-- The broker hands out a session that has not been created before. -/
theorem create
    (registered : Registered state)
    {sessionId : SessionId}
    (moves : step state (.create sessionId) = some next) :
    Registered next := by
  simp only [step] at moves
  split at moves
  next index stands =>
    split at moves
    next bound =>
      simp only [Option.some.injEq] at moves
      subst moves
      have uncreated : (state.sessions ⟨index, bound⟩).created ≠ true := by
        intro created
        have before := ((registered.placed _).created (by simp [stands])).mp
          created
        rw [stands] at before
        exact Nat.lt_irrefl _ before
      have other_of : ∀ {other : Fin numOfBot},
          (state.sessions other).created = true → other ≠ ⟨index, bound⟩ :=
        fun created same => uncreated (same ▸ created)
      exact
        { placed := fun other => by
            by_cases same : other = ⟨index, bound⟩
            · subst same
              simp only [State.setSession, Function.update_self]
              exact
                { created := fun _ => by simp [Setup.created]
                  untouched := fun _ => rfl
                  assigned := fun before => absurd before (Nat.lt_irrefl _)
                  reported := fun before => absurd before (Nat.lt_irrefl _)
                  captured := nofun }
            · simp only [State.setSession, Function.update_of_ne same]
              have apart : other.val ≠ index := fun equal =>
                same (Fin.ext equal)
              have created := (registered.placed other).created (by
                simp [stands])
              exact
                { registered.placed other with
                  created := fun _ => by
                    rw [created, stands]
                    simp only [Setup.created]
                    omega
                  assigned := fun before =>
                    (registered.placed other).assigned (by
                      rw [stands]
                      exact before)
                  reported := fun before =>
                    (registered.placed other).reported (by
                      rw [stands]
                      exact before) }
          entries := fun key other member => by
            have entry := registered.entries key other member
            simpa only [State.setSession,
              Function.update_of_ne (other_of entry.1)] using entry
          stopping := fun other member => by
            have created := registered.stopping other member
            simpa only [State.setSession,
              Function.update_of_ne (other_of created)] using created }
    next => cases moves
  next => cases moves

/-- `StopBotTest` disconnects sessions of the dictionary. -/
theorem stopStep
    (registered : Registered state)
    (moves : state.stopStep = some next) :
    Registered next := by
  cases stands : state.stop with
  | outside =>
      simp only [State.stopStep, stands, Option.some.injEq] at moves
      subst moves
      exact { registered with stopping := nofun }
  | cancelled =>
      simp only [State.stopStep, stands, Option.some.injEq] at moves
      subst moves
      refine { registered with stopping := fun bot member => ?_ }
      obtain ⟨⟨key, other⟩, entry, rfl⟩ := List.mem_map.mp member
      exact (registered.entries key other entry).1
  | locked bots =>
      have stopping := registered.stopping
      rw [stands] at stopping
      cases bots with
      | nil =>
          simp only [State.stopStep, stands, Option.some.injEq] at moves
          subst moves
          exact
            { registered with
              entries := nofun
              stopping := nofun }
      | cons bot bots =>
          simp only [State.stopStep, stands, Option.some.injEq] at moves
          subst moves
          have created := stopping bot List.mem_cons_self
          split
          next outside =>
            have begun := registered.setCleanup created .begun
              (fun _ => nofun) nofun fun key member => by
                have owns := (registered.entries key bot member).2.2
                simpa [Session.Owns, outside] using owns
            exact
              { begun with
                stopping := fun other member => begun.stopping other (by
                  change other ∈ state.stop.bots
                  rw [stands]
                  exact List.mem_cons_of_mem _ member) }
          next =>
            exact
              { registered with
                stopping := fun other member =>
                  stopping other (List.mem_cons_of_mem _ member) }
  | disconnecting bot bots =>
      have stopping := registered.stopping
      rw [stands] at stopping
      simp only [State.stopStep, stands] at moves
      split at moves
      · simp only [Option.some.injEq] at moves
        subst moves
        exact { registered with stopping := stopping }
      · cases moves

/-- Every step keeps the sessions registered when no session dies before it is in
the dictionary. -/
theorem step
    (registered : Registered state)
    {label : Label numOfBot}
    (adds : AddsLive state label)
    (moves : BotTest.step state label = some next) :
    Registered next := by
  cases label with
  | create sessionId => exact registered.create moves
  | refuse =>
      simp only [BotTest.step] at moves
      split at moves
      · simp only [Option.ite_none_right_eq_some, Option.some.injEq] at moves
        obtain ⟨-, rfl⟩ := moves
        exact
          { registered with
            placed := fun bot => (registered.placed bot).congr (fun _ => rfl)
              (fun survives => absurd rfl survives) (Nat.zero_le _)
              (Nat.zero_le _) }
      · cases moves
  | setup throws => exact registered.setupStep adds moves
  | disconnect bot =>
      simp only [BotTest.step, Option.ite_none_right_eq_some,
        Option.some.injEq] at moves
      obtain ⟨⟨created, outside⟩, rfl⟩ := moves
      refine registered.setCleanup created .begun (fun _ => by simp) (by simp)
        fun key member => ?_
      have owns := (registered.entries key bot member).2.2
      simpa [Session.Owns, outside] using owns
  | cleanup bot => exact registered.cleanupStep moves
  | cancel =>
      simp only [BotTest.step, Option.some.injEq] at moves
      subst moves
      exact { registered with }
  | stop => exact registered.stopStep moves
  | replace sessionId =>
      simp only [BotTest.step, Option.ite_none_left_eq_some,
        Option.some.injEq] at moves
      obtain ⟨-, rfl⟩ := moves
      exact registered.shrink fun entry member => (List.mem_filter.mp member).1

end Registered

theorem registered_initial : Registered (initial numOfBot) where
  placed bot :=
    { created := fun _ => by simp [initial, Setup.created]
      untouched := fun _ => rfl
      assigned := fun before => absurd before (Nat.not_lt_zero _)
      reported := fun before => absurd before (Nat.not_lt_zero _)
      captured := nofun }
  entries := nofun
  stopping := nofun

/-! ## The calls of the tracker -/

/-- The call of `TryComplete` that a session makes. -/
def Cleanup.call : Cleanup → Option TryComplete
  | .completing pc => some pc
  | .outside | .begun | .captured _ | .reset _ | .removing _ | .removed
  | .finished _ => none

/-- The call of `TryComplete` that `StartBotTest` makes. -/
def Setup.call : Setup numOfBot → Option TryComplete
  | .completing pc => some pc
  | .requesting _ | .assigning _ | .adding _ | .finished | .failed => none

/-- `MarkSetupComplete` has been called. -/
def Setup.isMarked : Setup numOfBot → Bool
  | .completing _ | .finished => true
  | .requesting _ | .assigning _ | .adding _ | .failed => false

/-- `MarkDisconnected` has been called. -/
def Cleanup.reports : Cleanup → Nat
  | .completing _ | .finished true => 1
  | .outside | .begun | .captured _ | .reset _ | .removing _ | .removed
  | .finished false => 0

/-- The session has been counted. -/
def Session.reports (session : Session) : Nat := session.cleanup.reports

/-- The call of `TryComplete` that the setup or a session makes. -/
def State.calls (state : State numOfBot) :
    Option (Fin numOfBot) → Option TryComplete
  | none => state.setup.call
  | some bot => (state.sessions bot).cleanup.call

namespace State

variable (state : State numOfBot)

theorem calls_setSession (bot : Fin numOfBot) (session : Session) :
    (state.setSession bot session).calls =
      Function.update state.calls (some bot) session.cleanup.call := by
  funext caller
  cases caller with
  | none => rfl
  | some other =>
      by_cases same : other = bot
      · subst same
        simp [calls, setSession]
      · simp [calls, setSession, same]

theorem calls_setup (setup : Setup numOfBot) :
    { state with setup := setup }.calls =
      Function.update state.calls none setup.call := by
  funext caller
  cases caller <;> simp [calls]

/-- A session that stays outside `TryComplete` calls nothing new. -/
theorem calls_setSession_of_eq
    {bot : Fin numOfBot} {session : Session}
    (same : session.cleanup.call = (state.sessions bot).cleanup.call) :
    (state.setSession bot session).calls = state.calls := by
  rw [calls_setSession, same]
  exact Function.update_eq_self _ _

/-- A session that is not counted in a step leaves the count alone. -/
theorem tally_setSession_of_eq
    {bot : Fin numOfBot} {session : Session}
    (same : session.reports = (state.sessions bot).reports) :
    tally Session.reports (state.setSession bot session).sessions =
      tally Session.reports state.sessions := by
  have moved := tally_update Session.reports state.sessions bot session
  change tally Session.reports (Function.update state.sessions bot session) = _
  omega

end State

/-- The tracker counts the sessions and knows the setup. -/
structure Tracked (state : State numOfBot) : Prop where
  consistent : Consistent numOfBot state.tracker state.calls
  counted : state.tracker.disconnectedBotCount =
    tally Session.reports state.sessions
  flagged : state.tracker.isSetupComplete = state.setup.isMarked
  cancelled : state.tracker.state = .cancelled → state.cancelCalled = true

/-- `TryComplete` changes neither the count nor the flag, and cancels nothing. -/
theorem tryComplete_frame
    (tracker : BotTestCompletionTracker) (numOfBot : Nat) (pc : TryComplete) :
    (tracker.tryComplete numOfBot pc).1.disconnectedBotCount =
        tracker.disconnectedBotCount ∧
      (tracker.tryComplete numOfBot pc).1.isSetupComplete =
        tracker.isSetupComplete ∧
      ((tracker.tryComplete numOfBot pc).1.state = .cancelled →
        tracker.state = .cancelled) := by
  cases pc with
  | testing | counting | notifying => exact ⟨rfl, rfl, id⟩
  | swapping =>
      simp only [BotTestCompletionTracker.tryComplete]
      split
      · exact ⟨rfl, rfl, nofun⟩
      · exact ⟨rfl, rfl, id⟩

/-- `Cancel` changes neither the count nor the flag. -/
theorem cancel_frame (tracker : BotTestCompletionTracker) :
    tracker.cancel.disconnectedBotCount = tracker.disconnectedBotCount ∧
      tracker.cancel.isSetupComplete = tracker.isSetupComplete := by
  unfold BotTestCompletionTracker.cancel
  split <;> exact ⟨rfl, rfl⟩

namespace Tracked

variable {state next : State numOfBot}

/-- A step that leaves the tracker, its calls and the count alone. -/
theorem quiet
    (tracked : Tracked state)
    (tracker : next.tracker = state.tracker)
    (calls : next.calls = state.calls)
    (count : tally Session.reports next.sessions =
      tally Session.reports state.sessions)
    (marked : next.setup.isMarked = state.setup.isMarked)
    (cancelCalled : next.cancelCalled = state.cancelCalled) :
    Tracked next where
  consistent := by rw [tracker, calls]; exact tracked.consistent
  counted := by rw [tracker, count]; exact tracked.counted
  flagged := by rw [tracker, marked]; exact tracked.flagged
  cancelled := by rw [tracker, cancelCalled]; exact tracked.cancelled

/-- `Cancel` is called. -/
theorem cancelTracker
    (tracked : Tracked state) :
    Tracked state.cancelTracker where
  consistent := tracked.consistent.cancel
  counted := (cancel_frame _).1.trans tracked.counted
  flagged := (cancel_frame _).2.trans tracked.flagged
  cancelled _ := rfl

/-- A session that stays outside the tracker. -/
theorem setSession
    (tracked : Tracked state)
    {bot : Fin numOfBot}
    {session : Session}
    (call : session.cleanup.call = (state.sessions bot).cleanup.call)
    (reports : session.reports = (state.sessions bot).reports) :
    Tracked (state.setSession bot session) :=
  tracked.quiet rfl (state.calls_setSession_of_eq call)
    (state.tally_setSession_of_eq reports) rfl rfl

/-- `Cleanup` keeps the tracker exact. -/
theorem cleanupStep
    (tracked : Tracked state)
    {bot : Fin numOfBot}
    (moves : state.cleanupStep bot = some next) :
    Tracked next := by
  cases stands : (state.sessions bot).cleanup with
  | outside => simp [State.cleanupStep, stands] at moves
  | finished reported => simp [State.cleanupStep, stands] at moves
  | begun | captured sessionId =>
      simp only [State.cleanupStep, stands, Option.some.injEq] at moves
      subst moves
      exact tracked.setSession (by rw [stands]; rfl)
        (by simp [Session.reports, stands, Cleanup.reports])
  | reset sessionId =>
      simp only [State.cleanupStep, stands, Option.some.injEq] at moves
      subst moves
      refine tracked.setSession ?_ ?_
      · rw [stands]
        split <;> rfl
      · simp only [Session.reports, stands]
        split <;> rfl
  | removing sessionId =>
      simp only [State.cleanupStep, stands, Option.ite_none_left_eq_some,
        Option.some.injEq] at moves
      obtain ⟨-, rfl⟩ := moves
      have removed : Tracked (state.setCleanup bot .removed) :=
        tracked.setSession (by rw [stands]; rfl)
          (by simp [Session.reports, stands, Cleanup.reports])
      exact { removed with }
  | removed =>
      simp only [State.cleanupStep, stands, Option.some.injEq] at moves
      subst moves
      have moved := tally_update Session.reports state.sessions bot
        { state.sessions bot with cleanup := .completing .testing }
      have entered := tracked.consistent.enter
        { state.tracker with
          disconnectedBotCount := state.tracker.disconnectedBotCount + 1 }
        (some bot) (by simp [State.calls, stands, Cleanup.call]) rfl rfl id
      rw [show (state.sessions bot).reports = 0 by
        simp [Session.reports, stands, Cleanup.reports]] at moved
      exact
        { consistent := by
            have same := state.calls_setSession bot
              { state.sessions bot with cleanup := .completing .testing }
            change Consistent _ _ (state.setSession bot
              { state.sessions bot with cleanup := .completing .testing }).calls
            rw [same]
            exact entered
          counted := by
            change state.tracker.disconnectedBotCount + 1 =
              tally Session.reports (Function.update state.sessions bot
                { state.sessions bot with cleanup := .completing .testing })
            have counted := tracked.counted
            change _ + 0 = _ + 1 at moved
            omega
          flagged := tracked.flagged
          cancelled := tracked.cancelled }
  | completing pc =>
      simp only [State.cleanupStep, stands, Option.some.injEq] at moves
      subst moves
      have calling : state.calls (some bot) = some pc := by
        simp [State.calls, stands, Cleanup.call]
      have moved := tracked.consistent.tryComplete calling
      obtain ⟨count, flag, cancels⟩ :=
        tryComplete_frame state.tracker numOfBot pc
      generalize state.tracker.tryComplete numOfBot pc = result
        at moved count flag cancels
      obtain ⟨tracker, after⟩ := result
      have call : (after.elim (.finished true) .completing : Cleanup).call =
          after := by cases after <;> rfl
      have same := state.calls_setSession bot
        { state.sessions bot with
          cleanup := after.elim (.finished true) .completing }
      rw [call] at same
      have reports : Session.reports
          { state.sessions bot with
            cleanup := after.elim (.finished true) .completing } =
          (state.sessions bot).reports := by
        cases after <;> simp [Session.reports, stands, Cleanup.reports]
      exact
        { consistent := by
            rw [← same] at moved
            exact moved
          counted := count.trans (tracked.counted.trans
            (state.tally_setSession_of_eq reports).symm)
          flagged := flag.trans tracked.flagged
          cancelled := fun gone => tracked.cancelled (cancels gone) }

/-- `StartBotTest` keeps the tracker exact. -/
theorem setupStep
    (tracked : Tracked state)
    {throws : Bool}
    (moves : state.setupStep throws = some next) :
    Tracked next := by
  -- Outside `MarkSetupComplete` the setup does not call `TryComplete`.
  have between : ∀ {setup : Setup numOfBot}, state.setup.call = none →
      setup.call = none → { state with setup := setup }.calls = state.calls := by
    intro setup before after
    rw [state.calls_setup, after]
    exact Function.update_eq_self_iff.mpr before.symm
  cases stands : state.setup with
  | requesting index =>
      simp only [State.setupStep, stands, Option.ite_none_right_eq_some,
        Option.some.injEq] at moves
      obtain ⟨-, rfl⟩ := moves
      have entered := tracked.consistent.enter
        { state.tracker with isSetupComplete := true } none
        (by simp [State.calls, stands, Setup.call]) rfl rfl fun _ => rfl
      exact
        { consistent := by
            rw [show (some TryComplete.testing) =
              (.completing .testing : Setup numOfBot).call from rfl,
              ← state.calls_setup] at entered
            exact entered
          counted := tracked.counted
          flagged := rfl
          cancelled := tracked.cancelled }
  | assigning bot =>
      simp only [State.setupStep, stands, Option.some.injEq] at moves
      subst moves
      have assigned : Tracked (state.setSession bot
          { state.sessions bot with hasHandler := true }) :=
        tracked.setSession rfl rfl
      refine assigned.quiet rfl ?_ rfl ?_ rfl
      · rw [State.calls_setup]
        exact Function.update_eq_self_iff.mpr
          (by simp [State.calls, State.setSession, stands, Setup.call])
      · simp [State.setSession, stands, Setup.isMarked]
  | adding bot =>
      have outside : state.setup.call = none := by rw [stands]; rfl
      have unmarked : state.setup.isMarked = false := by rw [stands]; rfl
      simp only [State.setupStep, stands] at moves
      split at moves
      · cases moves
      split at moves
      · simp only [Option.some.injEq] at moves
        subst moves
        exact tracked.quiet rfl (between outside rfl) rfl unmarked.symm rfl
      · simp only [Option.some.injEq] at moves
        subst moves
        have later : (.requesting (bot + 1) : Setup numOfBot).call = none := rfl
        exact tracked.quiet rfl (between outside later) rfl unmarked.symm rfl
  | completing pc =>
      simp only [State.setupStep, stands, Option.some.injEq] at moves
      subst moves
      have calling : state.calls none = some pc := by
        simp [State.calls, stands, Setup.call]
      have moved := tracked.consistent.tryComplete calling
      obtain ⟨count, flag, cancels⟩ :=
        tryComplete_frame state.tracker numOfBot pc
      generalize state.tracker.tryComplete numOfBot pc = result
        at moved count flag cancels
      obtain ⟨tracker, after⟩ := result
      have call : (after.elim .finished .completing : Setup numOfBot).call =
          after := by cases after <;> rfl
      have same := state.calls_setup (after.elim .finished .completing)
      rw [call] at same
      have marked : (after.elim .finished .completing :
          Setup numOfBot).isMarked = state.setup.isMarked := by
        cases after <;> simp [stands, Setup.isMarked]
      exact
        { consistent := by
            rw [← same] at moved
            exact moved
          counted := count.trans tracked.counted
          flagged := flag.trans (tracked.flagged.trans marked.symm)
          cancelled := fun gone => tracked.cancelled (cancels gone) }
  | finished | failed => simp [State.setupStep, stands] at moves

/-- `StopBotTest` keeps the tracker exact. -/
theorem stopStep
    (tracked : Tracked state)
    (moves : state.stopStep = some next) :
    Tracked next := by
  cases stands : state.stop with
  | outside =>
      simp only [State.stopStep, stands, Option.some.injEq] at moves
      subst moves
      exact { tracked.cancelTracker with }
  | cancelled =>
      simp only [State.stopStep, stands, Option.some.injEq] at moves
      subst moves
      exact { tracked with }
  | locked bots =>
      cases bots with
      | nil =>
          simp only [State.stopStep, stands, Option.some.injEq] at moves
          subst moves
          exact { tracked with }
      | cons bot bots =>
          simp only [State.stopStep, stands, Option.some.injEq] at moves
          subst moves
          split
          next outside =>
            have begun : Tracked (state.setCleanup bot .begun) :=
              tracked.setSession (by rw [outside]; rfl)
                (by simp [Session.reports, outside, Cleanup.reports])
            exact { begun with }
          next => exact { tracked with }
  | disconnecting bot bots =>
      simp only [State.stopStep, stands] at moves
      split at moves
      · simp only [Option.some.injEq] at moves
        subst moves
        exact { tracked with }
      · cases moves

/-- Every step keeps the tracker exact. -/
theorem step
    (tracked : Tracked state)
    (registered : Registered state)
    {label : Label numOfBot}
    (moves : BotTest.step state label = some next) :
    Tracked next := by
  cases label with
  | create sessionId =>
      simp only [BotTest.step] at moves
      split at moves
      next index stands =>
        split at moves
        next bound =>
          simp only [Option.some.injEq] at moves
          subst moves
          have uncreated : (state.sessions ⟨index, bound⟩).created ≠ true := by
            intro created
            have before := ((registered.placed _).created
              (by simp [stands])).mp created
            rw [stands] at before
            exact Nat.lt_irrefl _ before
          have outside := (registered.placed ⟨index, bound⟩).untouched
            ((Bool.not_eq_true _).mp uncreated)
          have made : Tracked (state.setSession ⟨index, bound⟩
              { created := true
                sessionId := sessionId
                hasHandler := false
                cleanup := .outside }) :=
            tracked.setSession (by rw [outside])
              (by simp [Session.reports, outside])
          refine made.quiet rfl ?_ rfl ?_ rfl
          · rw [State.calls_setup]
            exact Function.update_eq_self_iff.mpr
              (by simp [State.calls, State.setSession, stands, Setup.call])
          · simp [State.setSession, stands, Setup.isMarked]
        next => cases moves
      next => cases moves
  | refuse =>
      simp only [BotTest.step] at moves
      split at moves
      next index stands =>
        simp only [Option.ite_none_right_eq_some, Option.some.injEq] at moves
        obtain ⟨-, rfl⟩ := moves
        refine tracked.cancelTracker.quiet rfl ?_ rfl ?_ rfl
        · rw [State.calls_setup]
          exact Function.update_eq_self_iff.mpr
            (by simp [State.calls, State.cancelTracker, stands, Setup.call])
        · simp [State.cancelTracker, stands, Setup.isMarked]
      next => cases moves
  | setup throws => exact tracked.setupStep moves
  | disconnect bot =>
      simp only [BotTest.step, Option.ite_none_right_eq_some,
        Option.some.injEq] at moves
      obtain ⟨⟨-, outside⟩, rfl⟩ := moves
      exact tracked.setSession (by rw [outside]; rfl)
        (by simp [Session.reports, outside, Cleanup.reports])
  | cleanup bot => exact tracked.cleanupStep moves
  | cancel =>
      simp only [BotTest.step, Option.some.injEq] at moves
      subst moves
      exact tracked.cancelTracker
  | stop => exact tracked.stopStep moves
  | replace sessionId =>
      simp only [BotTest.step, Option.ite_none_left_eq_some,
        Option.some.injEq] at moves
      obtain ⟨-, rfl⟩ := moves
      exact { tracked with }

end Tracked

theorem tracked_initial : Tracked (initial numOfBot) where
  consistent :=
    { completions := by
        rw [tally_eq_zero fun caller => by cases caller <;> rfl]
        rfl
      late := by rintro (_ | bot) pc ⟨⟩
      completedLate := nofun
      pending := nofun }
  counted := (tally_eq_zero fun _ => rfl).symm
  flagged := rfl
  cancelled := nofun

/-! ## When all bots are gone -/

/-- What holds in every state of a run that adds no dead session. -/
structure Kept (state : State numOfBot) : Prop where
  registered : Registered state
  tracked : Tracked state

theorem kept_of_addsLive
    {state : State numOfBot}
    (reached : (system numOfBot).GuardedReachable AddsLive state) :
    Kept state :=
  reached.invariant
    (fun _ begins => begins.2 ▸ ⟨registered_initial, tracked_initial⟩)
    fun _ _ _ _ kept adds moves =>
      ⟨kept.registered.step adds moves,
        kept.tracked.step kept.registered moves⟩

namespace Kept

variable {state : State numOfBot}

/-- When the setup is over and all sessions are gone, each has been counted. -/
theorem cleanup_eq
    (kept : Kept state)
    (finished : state.setup = .finished)
    (gone : ∀ bot, (state.sessions bot).created = true →
      (state.sessions bot).isGone = true)
    (bot : Fin numOfBot) :
    (state.sessions bot).cleanup = .finished true := by
  have placed := kept.registered.placed bot
  have created := (placed.created (by simp [finished])).mpr (by
    rw [finished]
    exact bot.isLt)
  have reported := placed.reported (by
    rw [finished]
    exact bot.isLt)
  have isGone := gone bot created
  unfold Session.isGone at isGone
  cases stands : (state.sessions bot).cleanup with
  | finished counted =>
      cases counted with
      | true => rfl
      | false => exact absurd stands reported
  | outside | begun | captured _ | reset _ | removing _ | removed
  | completing _ =>
      rw [stands] at isGone
      cases isGone

/-- Then the test has completed. -/
theorem completions_eq
    (kept : Kept state)
    (finished : state.setup = .finished)
    (uncancelled : state.cancelCalled = false)
    (gone : ∀ bot, (state.sessions bot).created = true →
      (state.sessions bot).isGone = true) :
    state.tracker.completions = 1 := by
  have cleanup := kept.cleanup_eq finished gone
  have silent : ∀ caller, state.calls caller = none := by
    intro caller
    cases caller with
    | none => simp [State.calls, finished, Setup.call]
    | some bot => simp [State.calls, cleanup bot, Cleanup.call]
  have flagged : state.tracker.isSetupComplete = true := by
    rw [kept.tracked.flagged, finished]
    rfl
  have counted : state.tracker.disconnectedBotCount = numOfBot := by
    rw [kept.tracked.counted]
    simp [tally, Session.reports, cleanup, Cleanup.reports]
  have completions := kept.tracked.consistent.completions
  rw [tally_eq_zero fun caller => by rw [silent]; rfl] at completions
  cases stands : state.tracker.state with
  | active =>
      obtain ⟨caller, calling⟩ :=
        kept.tracked.consistent.pending flagged counted stands
      exact absurd (silent caller) calling
  | completed => simpa [stands] using completions
  | cancelled =>
      have called := kept.tracked.cancelled stands
      rw [uncancelled] at called
      cases called

/-- Then no session is left in the dictionary. -/
theorem sessionDictionary_eq
    (kept : Kept state)
    (finished : state.setup = .finished)
    (gone : ∀ bot, (state.sessions bot).created = true →
      (state.sessions bot).isGone = true) :
    state.sessionDictionary = [] := by
  refine List.eq_nil_iff_forall_not_mem.mpr fun ⟨key, bot⟩ member => ?_
  have owns := (kept.registered.entries key bot member).2.2
  simp only [Session.Owns, kept.cleanup_eq finished gone bot] at owns

end Kept

/-- When every session lives until it is in the dictionary the test completes
exactly when all its bots are gone. -/
theorem completesWhenGone_of_addsLive
    {state : State numOfBot}
    (reached : (system numOfBot).GuardedReachable AddsLive state) :
    CompletesWhenGone state where
  once := by
    have completions := (kept_of_addsLive reached).tracked.consistent.completions
    split at completions <;> omega
  afterSetup ran := by
    have consistent := (kept_of_addsLive reached).tracked.consistent
    have completions := consistent.completions
    refine consistent.completedLate ?_
    by_contra other
    rw [if_neg other] at completions
    omega
  uncancelled cancelled := by
    have completions := (kept_of_addsLive reached).tracked.consistent.completions
    rw [cancelled] at completions
    simp only [reduceCtorEq, if_false] at completions
    omega
  gone finished uncancelled gone :=
    ⟨(kept_of_addsLive reached).completions_eq finished uncancelled gone,
      (kept_of_addsLive reached).sessionDictionary_eq finished gone⟩

/-! ## Sessions that die during the setup -/

/-- `Cleanup` runs to its end without a callback. -/
def unreportedSchedule : List (Label 1) :=
  .disconnect 0 :: List.replicate 3 (.cleanup 0)

/-- `Cleanup` runs to its end with the callback and a `TryComplete` that returns
after this many steps. -/
def reportedSchedule (steps : Nat) : List (Label 1) :=
  .disconnect 0 :: List.replicate (5 + steps) (.cleanup 0)

/-- The setup marks its end and returns after this many steps of `TryComplete`. -/
def markSchedule (steps : Nat) : List (Label 1) :=
  List.replicate (1 + steps) (.setup false)

/-- The only session dies before it has its callback. -/
def hangingState : State 1 :=
  ((system 1).run (initial 1)
    (.create 7 :: unreportedSchedule ++ [.setup false, .setup false] ++
      markSchedule 2)).getD (initial 1)

/-- The only session dies between the assignment and the dictionary. -/
def deadEntryState : State 1 :=
  ((system 1).run (initial 1)
    ([.create 7, .setup false] ++ reportedSchedule 1 ++ [.setup false] ++
      markSchedule 4)).getD (initial 1)

theorem reachable_hangingState : (system 1).Reachable hangingState :=
  .run (.initial ⟨Nat.one_pos, rfl⟩)
    (show (system 1).run (initial 1)
        (.create 7 :: unreportedSchedule ++ [.setup false, .setup false] ++
          markSchedule 2) = some hangingState from rfl)

theorem reachable_deadEntryState : (system 1).Reachable deadEntryState :=
  .run (.initial ⟨Nat.one_pos, rfl⟩)
    (show (system 1).run (initial 1)
        ([.create 7, .setup false] ++ reportedSchedule 1 ++ [.setup false] ++
          markSchedule 4) = some deadEntryState from rfl)

/-- The test of a session that dies before it has its callback never completes, and
a session that dies before it is in the dictionary stays there. -/
theorem hanging_deadEntry :
    ((system 1).Reachable hangingState ∧
      hangingState.setup = .finished ∧
      hangingState.cancelCalled = false ∧
      (∀ bot, (hangingState.sessions bot).isGone = true) ∧
      hangingState.tracker.completions = 0 ∧
      hangingState.sessionDictionary = [(0, 0)]) ∧
    ((system 1).Reachable deadEntryState ∧
      deadEntryState.setup = .finished ∧
      deadEntryState.cancelCalled = false ∧
      (∀ bot, (deadEntryState.sessions bot).isGone = true) ∧
      deadEntryState.tracker.completions = 1 ∧
      deadEntryState.sessionDictionary = [(0, 0)]) ∧
    ¬ ∀ numOfBot state, (system numOfBot).Reachable state →
      CompletesWhenGone state := by
  refine ⟨⟨reachable_hangingState, by decide, by decide, by decide, by decide,
      by decide⟩,
    ⟨reachable_deadEntryState, by decide, by decide, by decide, by decide,
      by decide⟩, fun completes => ?_⟩
  have completed := ((completes 1 _ reachable_hangingState).gone
    (by decide) (by decide) (by decide)).1
  revert completed
  decide

/-- A session that lives until the test runs, and ends it. -/
def completedSchedule : List (Label 1) :=
  [.create 7, .setup false, .setup false] ++ markSchedule 2 ++
    reportedSchedule 4

/-- The test of a session that lives until the test runs. -/
theorem completesWhenGone_at_end :
    CompletesWhenGone
      (((system 1).run (initial 1) completedSchedule).getD (initial 1)) :=
  completesWhenGone_of_addsLive
    (TransitionSystem.GuardedReachable.guardedRun
      (.initial ⟨Nat.one_pos, rfl⟩)
      (show (system 1).guardedRun AddsLive (initial 1) completedSchedule =
        some (((system 1).run (initial 1) completedSchedule).getD (initial 1))
          from rfl))

end BotTest
end BotTester
end MultiSocketRudp
