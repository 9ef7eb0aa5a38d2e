import MultiSocketRudp.Server.GenerationSteps

/-!
# Isolation of generations

The steps of the session itself complete the invariant: as long as no call
straddles the increment of the generation, only packets of the present turn are
kept, except between the increment and the reset of the queue.  A send call that
straddles the increment puts a packet of an earlier client into the containers
of the next one.
-/

namespace MultiSocketRudp
namespace Generations

open TransitionSystems ExclusiveOwnership

variable {state : State}

/-! ## Moves of the session -/

/-- In this stage nothing is known to be idle or empty. -/
def Stage.FoundNothing (stage : Stage) : Prop :=
  stage ≠ .connected ∧ stage.foundNoReceive = false ∧
    stage.foundSendPathFree = false ∧ stage.foundNoCompletion = false ∧
    stage ≠ .cleared

instance (stage : Stage) : Decidable stage.FoundNothing :=
  inferInstanceAs (Decidable (_ ∧ _ ∧ _ ∧ _ ∧ _))

namespace Sound

/-- With the send path free no thread is building a datagram. -/
theorem notStreaming_of_free
    (holds : Sound state)
    (free : state.ioMode = .ioNoneSending) :
    state.sendsInFlight = [] ∧ state.completion.owns = false ∧
      ∀ thread, (state.doSends thread).streams = false := by
  have unheld := holds.sendPath.not_holds free
  refine ⟨?_, ?_, fun thread => ?_⟩
  · by_contra flies
    exact unheld .flight flies
  · by_contra owns
    exact unheld .completion (Bool.eq_true_of_not_eq_false owns)
  · by_contra streams
    exact unheld (.thread thread)
      (SendPc.owns_of_streams (Bool.eq_true_of_not_eq_false streams))

/-- The session moves on, where the test that it has passed is witnessed. -/
theorem setStage
    (holds : Sound state) {stage : Stage}
    (fresh : stage.isFresh = true → state.connectedOnce = false)
    (connected : stage = .connected → state.connectedOnce = true)
    (receives : stage.foundNoReceive = true →
      state.receives = 0 ∧ state.calls .receiver = .idle)
    (sendPath : stage.foundSendPathFree = true →
      state.stage.foundSendPathFree = true ∨ state.ioMode = .ioNoneSending)
    (completions : stage.foundNoCompletion = true →
      state.completion = .waiting)
    (cleared : stage = .cleared →
      ∀ packetSequence, state.sendPacketInfoMap packetSequence = none)
    (queue : stage.keepsQueue = state.stage.keepsQueue ∨
      state.sendPacketInfoQueue = [] ∧ state.reservedSendPacketInfo = none)
    (pending : stage.beingInitialized = false →
      state.stage.beingInitialized = false ∨ state.pendingPacketQueue = [])
    (sequence : stage.keepsSequence = false →
      state.stage.keepsSequence = false ∨
        state.lastSendPacketSequence = 0) :
    Sound (state.setStage stage) :=
  { holds with
    fresh := fresh
    connected := connected
    sendPath := holds.sendPath.congr rfl rfl rfl rfl
    sends := by
      intro thread
      have sound := holds.sends thread
      refine { sound with streams := fun streams => ?_ }
      by_contra found
      rcases sendPath (Bool.eq_true_of_not_eq_false found) with before | free
      · exact nomatch before.symm.trans (sound.streams streams)
      · exact nomatch streams.symm.trans
          ((holds.notStreaming_of_free free).2.2 thread)
    flights := by
      intro flies
      refine ⟨(holds.flights flies).1, ?_⟩
      by_contra found
      rcases sendPath (Bool.eq_true_of_not_eq_false found) with before | free
      · exact nomatch before.symm.trans (holds.flights flies).2
      · exact flies (holds.notStreaming_of_free free).1
    noReceive := receives
    noOwningCompletion := by
      intro found
      rcases sendPath found with before | free
      · exact holds.noOwningCompletion before
      · exact (holds.notStreaming_of_free free).2.1
    noCompletion := completions
    cleared := fun clears packetSequence present =>
      absurd (cleared clears packetSequence) present
    queued := by
      change ∀ info ∈ state.sendPacketInfoQueue,
        if stage.keepsQueue then _ else _
      rcases queue with same | empty
      · rw [same]
        exact holds.queued
      · rw [empty.1]
        exact nofun
    reserved := by
      change ∀ info ∈ state.reservedSendPacketInfo,
        if stage.keepsQueue then _ else _
      rcases queue with same | empty
      · rw [same]
        exact holds.reserved
      · rw [empty.2]
        exact nofun
    pending := by
      intro initialized
      rcases pending initialized with before | empty
      · exact holds.pending before
      · exact empty.symm ▸ nofun
    sequence := by
      intro reset unconnected
      rcases sequence reset with before | zero
      · exact holds.sequence before unconnected
      · exact zero }

/-- The session moves on between stages that agree on what is still to be
reset. -/
theorem advance
    (holds : Sound state) {stage : Stage}
    (fresh : stage.isFresh = true → state.connectedOnce = false)
    (connected : stage = .connected → state.connectedOnce = true)
    (receives : stage.foundNoReceive = true →
      state.receives = 0 ∧ state.calls .receiver = .idle)
    (sendPath : stage.foundSendPathFree = true →
      state.stage.foundSendPathFree = true ∨ state.ioMode = .ioNoneSending)
    (completions : stage.foundNoCompletion = true →
      state.completion = .waiting)
    (cleared : stage = .cleared →
      ∀ packetSequence, state.sendPacketInfoMap packetSequence = none)
    (agrees : stage.keepsQueue = state.stage.keepsQueue ∧
      stage.beingInitialized = state.stage.beingInitialized ∧
      stage.keepsSequence = state.stage.keepsSequence) :
    Sound (state.setStage stage) :=
  holds.setStage fresh connected receives sendPath completions cleared
    (.inl agrees.1)
    (fun initialized => .inl (agrees.2.1.symm.trans initialized))
    (fun reset => .inl (agrees.2.2.symm.trans reset))

/-- The session moves on to a stage in which nothing is known to be idle or
empty. -/
theorem setStage_of_foundNothing
    (holds : Sound state) {stage : Stage}
    (nothing : stage.FoundNothing)
    (fresh : stage.isFresh = true → state.connectedOnce = false)
    (queue : stage.keepsQueue = state.stage.keepsQueue ∨
      state.sendPacketInfoQueue = [] ∧ state.reservedSendPacketInfo = none)
    (pending : stage.beingInitialized = false →
      state.stage.beingInitialized = false ∨ state.pendingPacketQueue = [])
    (sequence : stage.keepsSequence = false →
      state.stage.keepsSequence = false ∨
        state.lastSendPacketSequence = 0) :
    Sound (state.setStage stage) := by
  obtain ⟨unconnected, receives, sendPath, completions, uncleared⟩ := nothing
  refine holds.setStage fresh (fun connected => absurd connected unconnected)
    (fun found => ?_) (fun found => ?_) (fun found => ?_)
    (fun cleared => absurd cleared uncleared) queue pending sequence
  · cases receives.symm.trans found
  · cases sendPath.symm.trans found
  · cases completions.symm.trans found

/-- It does so between stages that agree on what is still to be reset. -/
theorem advance_of_foundNothing
    (holds : Sound state) {stage : Stage}
    (nothing : stage.FoundNothing)
    (fresh : stage.isFresh = true → state.connectedOnce = false)
    (agrees : stage.keepsQueue = state.stage.keepsQueue ∧
      stage.beingInitialized = state.stage.beingInitialized ∧
      stage.keepsSequence = state.stage.keepsSequence) :
    Sound (state.setStage stage) :=
  holds.setStage_of_foundNothing nothing fresh (.inl agrees.1)
    (fun initialized => .inl (agrees.2.1.symm.trans initialized))
    (fun reset => .inl (agrees.2.2.symm.trans reset))

/-- Before a client connects, no thread is inside `DoSend`. -/
theorem outside_of_unconnected
    (holds : Sound state)
    (unconnected : state.connectedOnce = false) (thread : Thread) :
    state.doSends thread = .outside := by
  by_contra inside
  have connected := ((holds.sends thread).within inside).2
  exact nomatch unconnected.symm.trans connected

/-- Before a client connects, the send path can be freed by anybody. -/
theorem resetMode
    (holds : Sound state)
    (unconnected : state.connectedOnce = false) :
    Sound { state with ioMode := .ioNoneSending } := by
  have unheld : ∀ party, ¬ state.Holds party := by
    intro party owns
    cases party with
    | thread thread =>
        have outside := holds.outside_of_unconnected unconnected thread
        exact nomatch (congrArg SendPc.owns outside).symm.trans owns
    | flight => exact nomatch unconnected.symm.trans (holds.flights owns).1
    | completion =>
        have busy : state.completion ≠ .waiting := fun waiting =>
          nomatch (congrArg CompletionPhase.owns waiting).symm.trans owns
        exact nomatch unconnected.symm.trans (holds.completion busy)
  exact { holds with
    sendPath :=
      { exclusive := Exclusive.of_not_owns fun party owns => by
          refine unheld party ?_
          cases party <;> exact owns
        single := holds.sendPath.single } }

/-- The generation is incremented while no call is under way. -/
theorem increment
    (holds : Sound state)
    (clears : state.stage = .cleared)
    (senders : ∀ index, state.calls (.sender index) = .idle)
    (retransmission : state.retransmission.pastGenerationTest = false)
    (bounded : state.epoch + 1 < 2 ^ 32) :
    Sound { state with
      stage := .incremented
      sessionGeneration := state.sessionGeneration + 1
      epoch := state.epoch + 1
      connectedOnce := false } := by
  have found : state.stage.foundNoReceive = true := by rw [clears]; rfl
  have free : state.stage.foundSendPathFree = true := by rw [clears]; rfl
  have waiting : state.completion = .waiting :=
    holds.noCompletion (by rw [clears]; rfl)
  have idle : ∀ caller, state.calls caller = .idle := by
    intro caller
    cases caller with
    | sender index => exact senders index
    | receiver => exact (holds.noReceive found).2
  have outside : ∀ thread, state.doSends thread = .outside := by
    intro thread
    refine holds.outside ?_
    cases thread with
    | call caller => exact congrArg CallState.isSending (idle caller)
    | retransmission =>
        cases stands : state.retransmission <;>
          simp_all [State.isSending, RetransmissionPhase.isSending,
            RetransmissionPhase.pastGenerationTest]
    | completion => simp [State.isSending, waiting]
  have unregistered : ∀ packetSequence,
      state.sendPacketInfoMap packetSequence = none := by
    intro packetSequence
    by_contra present
    obtain ⟨caller, registers⟩ := holds.cleared clears packetSequence present
    cases (congrArg CallState.registers (idle caller)).symm.trans
      registers
  have earlier : ∀ info, state.turn.Recorded info →
      info.ownerGeneration = BitVec.ofNat 32 info.origin ∧
        info.origin < state.epoch + 1 := by
    intro info recorded
    refine ⟨recorded.1, ?_⟩
    rcases recorded.2 with before | began
    · exact before.trans (Nat.lt_succ_self state.epoch)
    · exact began.1 ▸ Nat.lt_succ_self state.epoch
  have live : ∀ info, state.turn.Live info → info.origin < state.epoch + 1 :=
    fun info live => live.2.1 ▸ Nat.lt_succ_self state.epoch
  have keeps : state.stage.keepsQueue = false := by rw [clears]; rfl
  have queued := holds.queued
  have reserved := holds.reserved
  rw [keeps] at queued reserved
  exact
    { holds with
      numbered := by
        change state.sessionGeneration + 1 = BitVec.ofNat 32 (state.epoch + 1)
        rw [holds.numbered, BitVec.ofNat_add]
        rfl
      bounded := bounded
      fresh := fun _ => rfl
      connected := by simp
      sendPath := holds.sendPath.congr rfl rfl rfl rfl
      calls := fun caller => by
        change (state.calls caller).Sound _
        rw [idle caller]
        trivial
      sends := fun thread => by
        change (state.doSends thread).Sound _ _ _
        rw [outside thread]
        exact SendPc.sound_outside _ _ _
      retransmission := by
        have sound := holds.retransmission
        change state.retransmission.Sound _
        cases stands : state.retransmission with
        | waiting => trivial
        | taken info =>
            rw [stands] at sound
            exact ⟨(earlier info sound).1, .inl (earlier info sound).2⟩
        | calling info =>
            rw [stands] at sound
            exact ⟨(earlier info sound).1, .inl (earlier info sound).2⟩
        | validated info => cases stands ▸ retransmission
        | ready info => cases stands ▸ retransmission
        | sending info => cases stands ▸ retransmission
      completion := fun busy => absurd waiting busy
      flights := fun flies => by cases free.symm.trans (holds.flights flies).2
      noReceive := by rintro ⟨⟩
      noOwningCompletion := by rintro ⟨⟩
      noCompletion := by rintro ⟨⟩
      registered := fun packetSequence info found => by
        cases (unregistered packetSequence).symm.trans found
      cleared := by simp
      queued := fun info member => live info (queued info member)
      reserved := fun info member => live info (reserved info member)
      pending := by rintro ⟨⟩
      scheduled := fun info member =>
        have recorded := earlier info (holds.scheduled info member)
        ⟨recorded.1, .inl recorded.2⟩
      sequence := by rintro ⟨⟩ }

/-- A client connects. -/
theorem connect
    (holds : Sound state)
    (reserved : state.stage = .reserved) :
    Sound { state with stage := .connected, connectedOnce := true } := by
  have unconnected : state.turn.connectedOnce = false :=
    holds.fresh (by rw [reserved]; rfl)
  have keeps : state.stage.keepsQueue = false := by rw [reserved]; rfl
  have queued := holds.queued
  have kept := holds.reserved
  have pending := holds.pending (by rw [reserved]; rfl)
  rw [keeps] at queued kept
  exact
    { holds with
      fresh := nofun
      connected := fun _ => rfl
      sendPath := holds.sendPath.congr rfl rfl rfl rfl
      calls := fun caller => (holds.calls caller).of_unconnected unconnected
      sends := fun thread => by
        change (state.doSends thread).Sound _ _ _
        rw [holds.outside_of_unconnected unconnected thread]
        exact SendPc.sound_outside _ _ _
      retransmission := by
        have sound := holds.retransmission
        change state.retransmission.Sound _
        cases stands : state.retransmission with
        | waiting => trivial
        | taken info =>
            rw [stands] at sound
            exact sound.of_unconnected unconnected le_rfl
        | calling info =>
            rw [stands] at sound
            exact sound.of_unconnected unconnected le_rfl
        | validated info =>
            rw [stands] at sound
            exact absurd sound (Turn.not_live unconnected)
        | ready info =>
            rw [stands] at sound
            exact absurd sound (Turn.not_live unconnected)
        | sending info =>
            rw [stands] at sound
            exact absurd sound (Turn.not_live unconnected)
      completion := fun _ => rfl
      flights := fun _ => ⟨rfl, rfl⟩
      noReceive := nofun
      noOwningCompletion := nofun
      noCompletion := nofun
      registered := fun packetSequence info found =>
        absurd (holds.registered packetSequence info found)
          (Turn.not_live unconnected)
      cleared := nofun
      queued := fun info member =>
        absurd (queued info member) (Turn.not_live unconnected)
      reserved := fun info member =>
        absurd (kept info member) (Turn.not_live unconnected)
      pending := fun _ packet member =>
        absurd (pending packet member) (Turn.not_began unconnected)
      scheduled := fun info member =>
        (holds.scheduled info member).of_unconnected unconnected le_rfl
      sequence := nofun }

end Sound

/-! ## Runs without straddling calls -/

/-- When `InitializeSession` increments the generation, no send call is between
its test of the connected state and its return, the retransmission thread is not
between its test of the generation and its return, and the generation does not
wrap around. -/
def NothingStraddles (state : State) (label : Label) : Prop :=
  label = .release → state.stage = .cleared →
    (∀ index, state.calls (.sender index) = .idle) ∧
      state.retransmission.pastGenerationTest = false ∧
      state.epoch + 1 < 2 ^ 32

namespace Sound

/-- A step of the release keeps the invariant. -/
theorem releaseStep
    (holds : Sound state) {next : State}
    (excludes : NothingStraddles state .release)
    (moves : state.releaseStep = some next) :
    Sound next := by
  cases stands : state.stage with
  | pooled => simp [State.releaseStep, stands] at moves
  | handedOut => simp [State.releaseStep, stands] at moves
  | reserved => simp [State.releaseStep, stands] at moves
  | connected => simp [State.releaseStep, stands] at moves
  | releasing =>
      simp only [State.releaseStep, stands, Option.some.injEq] at moves
      subst moves
      exact holds.advance_of_foundNothing (by decide) (by rintro ⟨⟩)
        (by rw [stands]; exact ⟨rfl, rfl, rfl⟩)
  | flagged =>
      simp only [State.releaseStep, stands, Option.some.injEq] at moves
      subst moves
      exact holds.advance_of_foundNothing (by decide) (by rintro ⟨⟩)
        (by rw [stands]; exact ⟨rfl, rfl, rfl⟩)
  | listed =>
      simp only [State.releaseStep, stands, Option.ite_none_right_eq_some,
        Option.some.injEq] at moves
      obtain ⟨drained, rfl⟩ := moves
      exact holds.advance (by rintro ⟨⟩) (by simp) (fun _ => drained)
        (by rintro ⟨⟩) (by rintro ⟨⟩) (by simp) (by rw [stands]; exact ⟨rfl, rfl, rfl⟩)
  | receivesDrained =>
      simp only [State.releaseStep, stands, Option.ite_none_right_eq_some,
        Option.some.injEq] at moves
      obtain ⟨free, rfl⟩ := moves
      have drained := holds.noReceive (by rw [stands]; rfl)
      exact holds.advance (by rintro ⟨⟩) (by simp) (fun _ => drained)
        (fun _ => .inr free) (by rintro ⟨⟩) (by simp)
        (by rw [stands]; exact ⟨rfl, rfl, rfl⟩)
  | modeDrained =>
      simp only [State.releaseStep, stands, Option.ite_none_right_eq_some,
        Option.some.injEq] at moves
      obtain ⟨waiting, rfl⟩ := moves
      have drained := holds.noReceive (by rw [stands]; rfl)
      exact holds.advance (by rintro ⟨⟩) (by simp) (fun _ => drained)
        (fun _ => .inl (by rw [stands]; rfl)) (fun _ => waiting) (by simp)
        (by rw [stands]; exact ⟨rfl, rfl, rfl⟩)
  | completionsDrained =>
      simp only [State.releaseStep, stands, Option.ite_none_right_eq_some,
        Option.some.injEq] at moves
      obtain ⟨-, rfl⟩ := moves
      have drained := holds.noReceive (by rw [stands]; rfl)
      have waiting := holds.noCompletion (by rw [stands]; rfl)
      exact holds.advance (by rintro ⟨⟩) (by simp) (fun _ => drained)
        (fun _ => .inl (by rw [stands]; rfl)) (fun _ => waiting) (by simp)
        (by rw [stands]; exact ⟨rfl, rfl, rfl⟩)
  | cleaned =>
      simp only [State.releaseStep, stands, Option.some.injEq] at moves
      subst moves
      have drained := holds.noReceive (by rw [stands]; rfl)
      have waiting := holds.noCompletion (by rw [stands]; rfl)
      have emptied : Sound { state with sendPacketInfoMap := fun _ => none } :=
        { holds with
          sendPath := holds.sendPath.congr rfl rfl rfl rfl
          registered := by simp
          cleared := fun _ _ present => absurd rfl present }
      exact emptied.advance (by rintro ⟨⟩) (by simp) (fun _ => drained)
        (fun _ => .inl (by rw [stands]; rfl)) (fun _ => waiting)
        (fun _ _ => rfl)
        (by rw [stands]; exact ⟨rfl, rfl, rfl⟩)
  | cleared =>
      simp only [State.releaseStep, stands, Option.some.injEq] at moves
      subst moves
      obtain ⟨senders, retransmission, bounded⟩ := excludes rfl stands
      exact holds.increment stands senders retransmission bounded
  | incremented =>
      simp only [State.releaseStep, stands, Option.some.injEq] at moves
      subst moves
      have unconnected := holds.fresh (by rw [stands]; rfl)
      exact holds.setStage_of_foundNothing (by decide) (fun _ => unconnected)
        (.inl (by rw [stands]; rfl)) (by rintro ⟨⟩) (by rintro ⟨⟩)
  | lowered =>
      simp only [State.releaseStep, stands, Option.some.injEq] at moves
      subst moves
      have unconnected := holds.fresh (by rw [stands]; rfl)
      exact (holds.resetMode unconnected).setStage_of_foundNothing (by decide)
        (fun _ => unconnected) (.inl (by rw [stands]; rfl)) (by rintro ⟨⟩)
        (by rintro ⟨⟩)
  | modeReset =>
      simp only [State.releaseStep, stands, Option.some.injEq] at moves
      subst moves
      have unconnected := holds.fresh (by rw [stands]; rfl)
      have zeroed : Sound { state with lastSendPacketSequence := 0 } :=
        { holds with
          sendPath := holds.sendPath.congr rfl rfl rfl rfl
          sequence := fun _ _ => rfl }
      exact zeroed.setStage_of_foundNothing (by decide) (fun _ => unconnected)
        (.inl (by rw [stands]; rfl)) (by rintro ⟨⟩) fun _ => .inr rfl
  | sequenceReset =>
      simp only [State.releaseStep, stands, Option.some.injEq] at moves
      subst moves
      have unconnected := holds.fresh (by rw [stands]; rfl)
      have emptied : Sound { state with
          sendPacketInfoQueue := []
          reservedSendPacketInfo := none } :=
        { holds with
          sendPath := holds.sendPath.congr rfl rfl rfl rfl
          queued := by simp
          reserved := by simp }
      exact emptied.setStage_of_foundNothing (by decide) (fun _ => unconnected)
        (.inr ⟨rfl, rfl⟩) (by rintro ⟨⟩) fun _ => .inl (by rw [stands]; rfl)
  | queueReset =>
      simp only [State.releaseStep, stands, Option.some.injEq] at moves
      subst moves
      have unconnected := holds.fresh (by rw [stands]; rfl)
      have emptied : Sound { state with pendingPacketQueue := [] } :=
        holds.setPending (by rintro _ ⟨⟩)
      exact emptied.setStage_of_foundNothing (by decide) (fun _ => unconnected)
        (.inl (by rw [stands]; rfl)) (fun _ => .inr rfl)
        fun _ => .inl (by rw [stands]; rfl)
  | pendingReset =>
      simp only [State.releaseStep, stands, Option.some.injEq] at moves
      subst moves
      have unconnected := holds.fresh (by rw [stands]; rfl)
      exact holds.advance_of_foundNothing (by decide)
        (fun _ => unconnected) (by rw [stands]; exact ⟨rfl, rfl, rfl⟩)
  | disconnected =>
      simp only [State.releaseStep, stands, Option.some.injEq] at moves
      subst moves
      have unconnected := holds.fresh (by rw [stands]; rfl)
      exact holds.advance_of_foundNothing (by decide)
        (fun _ => unconnected) (by rw [stands]; exact ⟨rfl, rfl, rfl⟩)

/-- Every step without straddling calls keeps the invariant. -/
theorem step
    (holds : Sound state) {label : Label} {next : State}
    (excludes : NothingStraddles state label)
    (moves : system.step state label = some next) :
    Sound next := by
  change Generations.step state label = some next at moves
  cases label with
  | acquire =>
      simp only [Generations.step, Option.ite_none_right_eq_some,
        Option.some.injEq] at moves
      obtain ⟨stands, rfl⟩ := moves
      have unconnected := holds.fresh (by rw [stands]; rfl)
      exact holds.advance_of_foundNothing (by decide)
        (fun _ => unconnected) (by rw [stands]; exact ⟨rfl, rfl, rfl⟩)
  | reserve =>
      simp only [Generations.step, Option.ite_none_right_eq_some,
        Option.some.injEq] at moves
      obtain ⟨stands, rfl⟩ := moves
      have unconnected := holds.fresh (by rw [stands]; rfl)
      exact holds.advance_of_foundNothing (by decide)
        (fun _ => unconnected) (by rw [stands]; exact ⟨rfl, rfl, rfl⟩)
  | connect =>
      simp only [Generations.step, Option.ite_none_right_eq_some,
        Option.some.injEq] at moves
      obtain ⟨⟨stands, handling⟩, rfl⟩ := moves
      exact (holds.connect stands).moveCall handling (by simp) rfl trivial
        (.inl rfl)
  | disconnect =>
      simp only [Generations.step, Option.ite_none_right_eq_some,
        Option.some.injEq] at moves
      obtain ⟨stands, rfl⟩ := moves
      refine holds.advance_of_foundNothing (by decide) (by rintro ⟨⟩) ?_
      rcases stands with stands | stands <;> rw [stands] <;>
        exact ⟨rfl, rfl, rfl⟩
  | release => exact holds.releaseStep excludes moves
  | post =>
      simp only [Generations.step, Option.ite_none_right_eq_some,
        Option.some.injEq] at moves
      obtain ⟨accepts, rfl⟩ := moves
      refine { holds with
        sendPath := holds.sendPath.congr rfl rfl rfl rfl
        noReceive := fun found => ?_ }
      cases found.symm.trans
        (Stage.foundNoReceive_of_acceptsReceives accepts)
  | discard =>
      simp only [Generations.step, Option.ite_none_right_eq_some,
        Option.some.injEq] at moves
      obtain ⟨posted, rfl⟩ := moves
      exact { holds with
        sendPath := holds.sendPath.congr rfl rfl rfl rfl
        noReceive := fun found => absurd (holds.noReceive found).1 posted }
  | dispatch =>
      simp only [Generations.step, Option.ite_none_right_eq_some,
        Option.some.injEq] at moves
      obtain ⟨⟨posted, idle, lowered⟩, rfl⟩ := moves
      have taken : Sound { state with receives := state.receives - 1 } :=
        { holds with
          sendPath := holds.sendPath.congr rfl rfl rfl rfl
          noReceive := fun found => absurd (holds.noReceive found).1 posted }
      refine taken.setCall trivial
        (.inl (holds.outside (congrArg CallState.isSending idle)))
        (fun found => absurd (holds.noReceive found).1 posted) ?_
      exact fun _ registered => by
        cases (congrArg CallState.registers idle).symm.trans registered
  | begin index =>
      simp only [Generations.step, Option.ite_none_right_eq_some,
        Option.some.injEq] at moves
      obtain ⟨⟨stands, idle⟩, rfl⟩ := moves
      refine holds.setCall ⟨rfl, holds.connected stands⟩
        (.inl (holds.outside (congrArg CallState.isSending idle)))
        (fun _ => by simp) ?_
      exact fun _ registered => by
        cases (congrArg CallState.registers idle).symm.trans registered
  | call caller choice => exact holds.callStep moves
  | send thread choice => exact holds.sendStep moves
  | takeDue info =>
      simp only [Generations.step, Option.ite_none_right_eq_some,
        Option.some.injEq] at moves
      obtain ⟨⟨due, waiting⟩, rfl⟩ := moves
      have outside : state.doSends .retransmission = .outside :=
        holds.outside (congrArg RetransmissionPhase.isSending waiting)
      have taken : Sound { state with
          scheduled := state.scheduled.erase info } :=
        { holds with
          sendPath := holds.sendPath.congr rfl rfl rfl rfl
          scheduled := fun other member =>
            holds.scheduled other (List.mem_of_mem_erase member) }
      exact taken.setRetransmission (holds.scheduled info due) (.inl outside)
  | retransmit exceeded => exact holds.retransmissionStep moves
  | dequeue generation =>
      simp only [Generations.step, Option.ite_none_right_eq_some,
        Option.some.injEq] at moves
      obtain ⟨⟨flies, waiting⟩, rfl⟩ := moves
      exact holds.dequeue flies waiting
  | complete succeeded => exact holds.completionStep moves

/-- A new session satisfies the invariant. -/
theorem of_initial : Sound initial where
  numbered := rfl
  bounded := by decide
  fresh _ := rfl
  connected := nofun
  sendPath :=
    { exclusive := Exclusive.of_not_owns fun party owns => by
        cases party with
        | thread thread => exact nomatch owns
        | flight => exact owns rfl
        | completion => exact nomatch owns
      single := Nat.zero_le 1 }
  calls _ := trivial
  sends _ := SendPc.sound_outside _ _ _
  retransmission := trivial
  completion busy := absurd rfl busy
  flights flies := absurd rfl flies
  noReceive _ := ⟨rfl, rfl⟩
  noOwningCompletion _ := rfl
  noCompletion _ := rfl
  registered := nofun
  cleared := nofun
  queued := nofun
  reserved := nofun
  pending _ := nofun
  scheduled := nofun
  sequence _ _ := rfl

/-- The invariant holds in every run without straddling calls. -/
theorem of_reachable
    (reached : system.GuardedReachable NothingStraddles state) :
    Sound state := by
  refine reached.invariant ?_ ?_
  · rintro state rfl
    exact of_initial
  · intro state label next _ holds excludes moves
    exact holds.step excludes moves

/-- Outside the window before its reset, the queue is that of the present
turn. -/
theorem queue_live
    (holds : Sound state)
    (emptied : state.stage.keepsQueue = true →
      state.sendPacketInfoQueue = [] ∧
        state.reservedSendPacketInfo = none) :
    (∀ info ∈ state.sendPacketInfoQueue, state.turn.Live info) ∧
      ∀ info ∈ state.reservedSendPacketInfo, state.turn.Live info := by
  have queued := holds.queued
  have reserved := holds.reserved
  by_cases keeps : state.stage.keepsQueue = true
  · rw [(emptied keeps).1, (emptied keeps).2]
    exact ⟨nofun, nofun⟩
  · simp only [keeps] at queued reserved
    exact ⟨queued, reserved⟩

/-- Once it is initialized, nothing is kept of a session before a client
connects. -/
theorem untouched
    (holds : Sound state)
    (initialized : state.stage.beingInitialized = false)
    (unconnected : state.connectedOnce = false) :
    state.Untouched := by
  have notKept : state.stage.keepsQueue = true → False := fun keeps =>
    nomatch initialized.symm.trans (Stage.beingInitialized_of_keepsQueue keeps)
  have live := holds.queue_live fun keeps => (notKept keeps).elim
  have noLive : ∀ info, ¬ state.turn.Live info := fun _ =>
    Turn.not_live unconnected
  refine
    { sendPacketInfoMap := funext fun packetSequence => ?_
      sendPacketInfoQueue := ?_
      reservedSendPacketInfo := ?_
      pendingPacketQueue := ?_
      lastSendPacketSequence := holds.sequence ?_ unconnected }
  · refine Option.eq_none_iff_forall_ne_some.mpr fun info found => ?_
    exact noLive info (holds.registered packetSequence info found)
  · exact List.eq_nil_iff_forall_not_mem.mpr fun info member =>
      noLive info (live.1 info member)
  · exact Option.eq_none_iff_forall_ne_some.mpr fun info found =>
      noLive info (live.2 info found)
  · exact List.eq_nil_iff_forall_not_mem.mpr fun packet member =>
      Turn.not_began unconnected (holds.pending initialized packet member)
  · by_contra keeps
    exact notKept (Stage.keepsQueue_of_keepsSequence
      (Bool.eq_true_of_not_eq_false keeps))

end Sound

/-- In a run without straddling calls the turns are isolated, except in the
states between the increment of the generation and the reset of the queue in
which packets of the last turn are left there. -/
theorem isolated_iff_queueEmptied
    (reached : system.GuardedReachable NothingStraddles state) :
    Isolated state ↔
      (state.stage.keepsQueue = true →
        state.sendPacketInfoQueue = [] ∧
          state.reservedSendPacketInfo = none) := by
  have holds := Sound.of_reachable reached
  constructor
  · intro isolated keeps
    have queued := holds.queued
    have reserved := holds.reserved
    simp only [keeps, if_true] at queued reserved
    constructor
    · refine List.eq_nil_iff_forall_not_mem.mpr fun info member => ?_
      exact (queued info member).ne (isolated.queued info member).2
    · refine Option.eq_none_iff_forall_ne_some.mpr fun info found => ?_
      exact (reserved info found).ne (isolated.reserved info found).2
  · intro emptied
    have live := holds.queue_live emptied
    exact
      { registered := fun packetSequence info found =>
          have registered := holds.registered packetSequence info found
          ⟨registered.1, registered.2.1⟩
        queued := fun info member =>
          ⟨(live.1 info member).1, (live.1 info member).2.1⟩
        reserved := fun info member =>
          ⟨(live.2 info member).1, (live.2 info member).2.1⟩
        untouched := holds.untouched }

/-! ## Two runs -/

/-- The pool hands the session out and a client connects. -/
def connectSchedule : List Label :=
  [.acquire, .reserve, .post, .dispatch, .connect, .call .receiver .next]

/-- A caller that has found the session connected pushes its packet. -/
def pushSchedule (caller : Caller) : List Label :=
  [.call caller .next, .call caller .bypass, .call caller .next,
    .call caller .next, .call caller .next, .call caller .next,
    .call caller .next]

/-- `DoSend` transmits one packet, the call returns and the send completes. -/
def transmitSchedule (caller : Caller) (generation : BitVec 32) :
    List Label :=
  List.replicate 7 (.send (.call caller) .next) ++
    [.send (.call caller) .transmit, .call caller .next, .dequeue generation,
      .complete false, .complete false]

/-- A send call finds the session connected, and before it takes its sequence
the session is released and handed out again. -/
def straddledState : State :=
  (system.run initial
    (connectSchedule ++ [.begin 0, .disconnect] ++
      List.replicate 15 .release ++ [.acquire, .reserve] ++
      pushSchedule (.sender 0))).getD initial

/-- A packet of the first client is queued while the session is reserved for the
second one. -/
theorem straddledState_notIsolated :
    ∃ state, system.Reachable state ∧ ¬ Isolated state := by
  refine ⟨straddledState, TransitionSystem.Reachable.run (.initial rfl)
    (show system.run initial
      (connectSchedule ++ [.begin 0, .disconnect] ++
        List.replicate 15 .release ++ [.acquire, .reserve] ++
        pushSchedule (.sender 0)) = some straddledState from rfl), ?_⟩
  intro isolated
  have untouched := isolated.untouched rfl rfl
  exact nomatch untouched.sendPacketInfoQueue

/-- The step does not increment the generation. -/
def KeepsGeneration (state : State) (label : Label) : Prop :=
  label = .release → state.stage ≠ .cleared

instance (state : State) (label : Label) :
    Decidable (KeepsGeneration state label) :=
  inferInstanceAs (Decidable (_ → _))

theorem NothingStraddles.of_keepsGeneration
    (state : State) (label : Label)
    (keeps : KeepsGeneration state label) :
    NothingStraddles state label :=
  fun releases clears => absurd clears (keeps releases)

/-- The first client has been sent a packet and its session is being
released. -/
def clearedState : State :=
  (system.guardedRun KeepsGeneration initial
    (connectSchedule ++ [.begin 0] ++ pushSchedule (.sender 0) ++
      transmitSchedule (.sender 0) 1 ++ [.disconnect] ++
      List.replicate 7 .release)).getD initial

/-- A packet for the second client is queued. -/
def secondTurn : State :=
  ((system.step clearedState .release).bind fun state =>
    system.guardedRun KeepsGeneration state
      (List.replicate 7 .release ++ connectSchedule ++ [.begin 0] ++
        pushSchedule (.sender 0))).getD initial

theorem secondTurn_reachable :
    system.GuardedReachable NothingStraddles secondTurn := by
  have cleared : system.GuardedReachable NothingStraddles clearedState :=
    TransitionSystem.GuardedReachable.guardedRun_of_imp
      NothingStraddles.of_keepsGeneration (.initial rfl)
      (show system.guardedRun KeepsGeneration initial
        (connectSchedule ++ [.begin 0] ++ pushSchedule (.sender 0) ++
          transmitSchedule (.sender 0) 1 ++ [.disconnect] ++
          List.replicate 7 .release) = some clearedState from rfl)
  have excludes : NothingStraddles clearedState .release := by
    refine fun _ _ => ⟨fun index => ?_, rfl, by decide⟩
    cases index <;> rfl
  have incremented := cleared.step excludes
    (show system.step clearedState .release =
      some ((system.step clearedState .release).getD initial) from rfl)
  exact incremented.guardedRun_of_imp NothingStraddles.of_keepsGeneration
    (show system.guardedRun KeepsGeneration _
      (List.replicate 7 .release ++ connectSchedule ++ [.begin 0] ++
        pushSchedule (.sender 0)) = some secondTurn from rfl)

theorem isolated_iff_queueEmptied_secondTurn :
    secondTurn.sessionGeneration = 2 ∧
      secondTurn.sendPacketInfoQueue ≠ [] ∧ Isolated secondTurn :=
  ⟨rfl, nofun,
    (isolated_iff_queueEmptied secondTurn_reachable).mpr nofun⟩

end Generations
end MultiSocketRudp
