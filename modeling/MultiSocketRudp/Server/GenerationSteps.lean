import MultiSocketRudp.Server.GenerationInvariant

/-!
# The steps of the senders keep the invariant

One lemma for each kind of move says what must be shown of the moved part; the
steps of the callers, of `DoSend`, of the retransmission thread and of the
completion worker are then compositions of moves.
-/

namespace MultiSocketRudp
namespace Generations

open TransitionSystems

variable {state : State}

namespace Turn

variable {turn : Turn} {info : SendPacketInfo}

/-- A packet of the present turn is recorded as one. -/
theorem Live.recorded
    (live : turn.Live info)
    (numbered : turn.sessionGeneration = BitVec.ofNat 32 turn.epoch) :
    turn.Recorded info := by
  obtain ⟨generation, began⟩ := live
  exact ⟨by rw [generation, numbered, began.1], .inr began⟩

/-- Among the turns so far the generation tells the packet's turn. -/
theorem Recorded.live
    (recorded : turn.Recorded info)
    (numbered : turn.sessionGeneration = BitVec.ofNat 32 turn.epoch)
    (bounded : turn.epoch < 2 ^ 32)
    (valid : turn.sessionGeneration = info.ownerGeneration) :
    turn.Live info := by
  refine ⟨valid.symm, recorded.2.resolve_left fun earlier => ?_⟩
  have residues : BitVec.ofNat 32 turn.epoch =
      BitVec.ofNat 32 info.origin :=
    numbered.symm.trans (valid.trans recorded.1)
  have values := congrArg BitVec.toNat residues
  simp only [BitVec.toNat_ofNat] at values
  omega

/-- No send call begins before a client connects. -/
theorem not_began
    (unconnected : turn.connectedOnce = false) {origin : Nat} :
    ¬ turn.Began origin :=
  fun began => nomatch unconnected.symm.trans began.2

/-- No packet is made before a client connects. -/
theorem not_live
    (unconnected : turn.connectedOnce = false) :
    ¬ turn.Live info :=
  fun live => not_began unconnected live.2

/-- What is recorded before a client connects belongs to earlier turns. -/
theorem Recorded.of_unconnected
    {later : Turn}
    (recorded : turn.Recorded info)
    (unconnected : turn.connectedOnce = false)
    (notEarlier : turn.epoch ≤ later.epoch) :
    later.Recorded info :=
  ⟨recorded.1, .inl ((recorded.2.resolve_right
    (not_began unconnected)).trans_le notEarlier)⟩

end Turn

/-- Before a client connects no caller carries anything. -/
theorem CallState.Sound.of_unconnected
    {turn other : Turn} {call : CallState}
    (sound : call.Sound turn)
    (unconnected : turn.connectedOnce = false) :
    call.Sound other := by
  cases call <;>
    simp_all [CallState.Sound, Turn.not_began, Turn.not_live]

namespace Sound

/-! ## Consequences -/

/-- Once a client has connected, the session is not being initialized. -/
theorem notInitializing
    (holds : Sound state)
    (connected : state.connectedOnce = true) :
    state.stage.beingInitialized = false := by
  by_contra initializes
  have fresh := holds.fresh (Stage.isFresh_of_beingInitialized
    (Bool.eq_true_of_not_eq_false initializes))
  exact Bool.false_ne_true (fresh.symm.trans connected)

/-- Once a client has connected, the queue is that of the present turn. -/
theorem notKeepingQueue
    (holds : Sound state)
    (connected : state.connectedOnce = true) :
    state.stage.keepsQueue = false := by
  by_contra keeps
  have fresh := holds.fresh (Stage.isFresh_of_keepsQueue
    (Bool.eq_true_of_not_eq_false keeps))
  exact Bool.false_ne_true (fresh.symm.trans connected)

/-- Queued packets are those of the present turn once a client has
connected. -/
theorem queued_live
    (holds : Sound state)
    (connected : state.connectedOnce = true) :
    ∀ info ∈ state.sendPacketInfoQueue, state.turn.Live info := by
  simpa [holds.notKeepingQueue connected] using holds.queued

/-- A reserved packet is one of the present turn once a client has
connected. -/
theorem reserved_live
    (holds : Sound state)
    (connected : state.connectedOnce = true) :
    ∀ info ∈ state.reservedSendPacketInfo, state.turn.Live info := by
  simpa [holds.notKeepingQueue connected] using holds.reserved

/-- A thread that is not sending is outside `DoSend`. -/
theorem outside
    (holds : Sound state) {thread : Thread}
    (still : state.isSending thread = false) :
    state.doSends thread = .outside := by
  by_contra inside
  have sending := ((holds.sends thread).within inside).1
  exact Bool.false_ne_true (still.symm.trans sending)

/-- A caller that is busy is not the logic worker once no receive is left. -/
theorem not_receiver
    (holds : Sound state) {caller : Caller}
    (busy : state.calls caller ≠ .idle)
    (found : state.stage.foundNoReceive = true) :
    caller ≠ .receiver := by
  rintro rfl
  exact busy (holds.noReceive found).2

/-! ## Moves of a caller -/

/-- A caller moves on. -/
theorem setCall
    (holds : Sound state) {caller : Caller} {call : CallState}
    (sound : call.Sound state.turn)
    (outside : state.doSends (.call caller) = .outside ∨
      call.isSending = true)
    (notReceiver : state.stage.foundNoReceive = true → caller ≠ .receiver)
    (registers : ∀ packetSequence,
      (state.calls caller).registers = some packetSequence →
      call.registers = some packetSequence ∨
        state.sendPacketInfoMap packetSequence = none ∨
        state.stage ≠ .cleared) :
    Sound (state.setCall caller call) :=
  { holds with
    calls := Function.forall_update_iff _
        (fun _ (other : CallState) => other.Sound state.turn) |>.mpr
      ⟨sound, fun other _ => holds.calls other⟩
    sendPath := holds.sendPath.congr rfl rfl rfl rfl
    sends := by
      intro thread
      by_cases own : thread = .call caller
      · subst own
        rcases outside with outside | sending
        · change (state.doSends (.call caller)).Sound _ _ _
          rw [outside]
          exact SendPc.sound_outside _ _ _
        · have before := holds.sends (.call caller)
          refine { before with within := fun inside => ⟨?_, (before.within inside).2⟩ }
          change ((state.setCall caller call).calls caller).isSending = _
          rwa [State.calls_setCall_self]
      · have same : (state.setCall caller call).isSending thread =
            state.isSending thread := by
          cases thread with
          | call other =>
              have distinct : other ≠ caller := fun same =>
                own (congrArg Thread.call same)
              exact congrArg CallState.isSending
                (state.calls_setCall_of_ne call distinct)
          | retransmission => rfl
          | completion => rfl
        rw [same]
        exact holds.sends thread
    noReceive := fun found =>
      ⟨(holds.noReceive found).1,
        (state.calls_setCall_of_ne call (notReceiver found).symm).trans
          (holds.noReceive found).2⟩
    cleared := by
      intro clears packetSequence present
      obtain ⟨other, erases⟩ := holds.cleared clears packetSequence present
      by_cases own : other = caller
      · subst own
        refine ⟨other, ?_⟩
        rw [State.calls_setCall_self]
        rcases registers packetSequence erases with kept | gone | elsewhere
        · exact kept
        · exact absurd gone present
        · exact absurd clears elsewhere
      · refine ⟨other, ?_⟩
        rw [state.calls_setCall_of_ne call own]
        exact erases }

/-- A caller that is not sending moves on, and what it has registered stays
registered by it. -/
theorem moveCall
    (holds : Sound state) {caller : Caller} {before after : CallState}
    (stands : state.calls caller = before)
    (busy : before ≠ .idle)
    (still : before.isSending = false)
    (sound : after.Sound state.turn)
    (registers : before.registers = none ∨
      before.registers = after.registers ∨ state.stage ≠ .cleared) :
    Sound (state.setCall caller after) := by
  subst stands
  refine holds.setCall sound (.inl (holds.outside still))
    (holds.not_receiver busy) fun packetSequence registered => ?_
  rcases registers with nothing | kept | elsewhere
  · exact nomatch nothing.symm.trans registered
  · exact .inl (kept.symm.trans registered)
  · exact .inr (.inr elsewhere)

/-- A packet of the present turn is inserted by a caller that will erase it. -/
theorem insertSendPacketInfo
    (holds : Sound state) {info : SendPacketInfo}
    (live : state.turn.Live info)
    (registers : ∃ caller,
      (state.calls caller).registers = some info.sendPacketSequence) :
    Sound (state.insertSendPacketInfo info) := by
  unfold State.insertSendPacketInfo
  by_cases absent : state.sendPacketInfoMap info.sendPacketSequence = none
  · rw [if_pos absent]
    refine { holds with
      sendPath := holds.sendPath.congr rfl rfl rfl rfl
      registered := ?_
      cleared := ?_ }
    · intro packetSequence other found
      by_cases same : packetSequence = info.sendPacketSequence
      · subst same
        have found := (Function.update_self ..).symm.trans found
        exact Option.some.inj found ▸ live
      · exact holds.registered packetSequence other
          ((Function.update_of_ne same ..).symm.trans found)
    · intro clears packetSequence present
      by_cases same : packetSequence = info.sendPacketSequence
      · exact same ▸ registers
      · refine holds.cleared clears packetSequence fun gone => ?_
        exact present ((Function.update_of_ne same ..).trans gone)
  · rw [if_neg absent]
    exact holds

/-- A registered packet is erased. -/
theorem eraseSendPacketInfo
    (holds : Sound state) (packetSequence : PacketSequence) :
    Sound (state.eraseSendPacketInfo packetSequence) := by
  have kept : ∀ other info,
      (state.eraseSendPacketInfo packetSequence).sendPacketInfoMap other =
        some info →
      state.sendPacketInfoMap other = some info := by
    intro other info found
    by_cases same : other = packetSequence
    · subst same
      exact nomatch (Function.update_self ..).symm.trans found
    · exact (Function.update_of_ne same ..).symm.trans found
  refine { holds with
    sendPath := holds.sendPath.congr rfl rfl rfl rfl
    registered := fun other info found =>
      holds.registered other info (kept other info found)
    cleared := ?_ }
  intro clears other present
  obtain ⟨info, found⟩ := Option.ne_none_iff_exists'.mp present
  refine holds.cleared clears other ?_
  rw [kept other info found]
  exact Option.some_ne_none info

/-- A packet of the present turn is pushed. -/
theorem pushSendPacketInfo
    (holds : Sound state) {info : SendPacketInfo}
    (live : state.turn.Live info) :
    Sound (state.pushSendPacketInfo info) :=
  { holds with
    sendPath := holds.sendPath.congr rfl rfl rfl rfl
    queued := by
      intro other member
      have keeps := holds.notKeepingQueue live.2.2
      change if state.stage.keepsQueue then _ else _
      rw [keeps]
      rcases List.mem_append.mp member with old | new
      · exact holds.queued_live live.2.2 other old
      · exact List.mem_singleton.mp new ▸ live }

/-- Another flag is set. -/
theorem markErased
    (holds : Sound state) (info : SendPacketInfo) :
    Sound (state.markErased info) :=
  { holds with
    sendPath := holds.sendPath.congr rfl rfl rfl rfl }

/-- The pending queue keeps to send calls of the present turn. -/
theorem setPending
    (holds : Sound state) {pending : List PendingPacket}
    (keeps : state.turn.Keeps pending) :
    Sound { state with pendingPacketQueue := pending } :=
  { holds with
    sendPath := holds.sendPath.congr rfl rfl rfl rfl
    pending := fun _ => keeps }

/-! ## Moves inside `DoSend` -/

/-- A sending thread moves on inside `DoSend` and may store an IO mode. -/
theorem setSend
    (holds : Sound state) {thread : Thread} {pc : SendPc} {ioMode : IoMode}
    (sound : pc.Sound state.turn state.stage (state.isSending thread))
    (sendPath :
      SendPathSound ({ state with ioMode := ioMode }.setSend thread pc)) :
    Sound ({ state with ioMode := ioMode }.setSend thread pc) :=
  { holds with
    sendPath := sendPath
    sends := Function.forall_update_iff _
        (fun other (otherPc : SendPc) => otherPc.Sound state.turn state.stage
          (state.isSending other)) |>.mpr
      ⟨sound, fun other _ => holds.sends other⟩ }

/-- A thread that does not take the send path moves on inside `DoSend`. -/
theorem moveSend
    (holds : Sound state) {thread : Thread} {pc : SendPc}
    (sound : pc.Sound state.turn state.stage (state.isSending thread))
    (owned : pc.owns = true → (state.doSends thread).owns = true) :
    Sound (state.setSend thread pc) :=
  holds.setSend sound (holds.sendPath.setSend owned)

/-! ## Steps of a caller -/

/-- A step of a caller keeps the invariant. -/
theorem callStep
    (holds : Sound state) {caller : Caller} {choice : CallChoice}
    {next : State}
    (moves : state.callStep caller choice = some next) :
    Sound next := by
  have sound := holds.calls caller
  cases stands : state.calls caller with
  | idle => simp [State.callStep, stands] at moves
  | tested origin =>
      rw [stands] at sound
      simp only [State.callStep, stands, Option.some.injEq] at moves
      subst moves
      by_cases ends : choice = .giveUp
      · rw [if_pos ends]
        exact holds.moveCall stands (by simp) rfl
          (CallState.sound_resting caller _) (.inl rfl)
      · rw [if_neg ends]
        have counted : Sound { state with
            lastSendPacketSequence := state.lastSendPacketSequence + 1 } :=
          { holds with
            sendPath := holds.sendPath.congr rfl rfl rfl rfl
            sequence := fun _ fresh =>
              absurd (fresh.symm.trans sound.2) Bool.false_ne_true }
        exact counted.moveCall stands (by simp) rfl sound (.inl rfl)
  | allocated packetSequence origin =>
      rw [stands] at sound
      cases choice with
      | bypass =>
          simp only [State.callStep, stands, Option.ite_none_right_eq_some,
            Option.some.injEq] at moves
          obtain ⟨-, rfl⟩ := moves
          exact holds.moveCall stands (by simp) rfl
            ⟨sound, fun _ member => by cases member⟩ (.inl rfl)
      | store =>
          simp only [State.callStep, stands, Option.some.injEq] at moves
          subst moves
          have keeps := holds.pending (holds.notInitializing sound.2)
          have stored :
              Sound (state.pushToPendingQueue packetSequence origin) := by
            refine holds.setPending fun packet member => ?_
            rcases List.mem_append.mp member with old | new
            · exact keeps packet old
            · exact List.mem_singleton.mp new ▸ sound
          exact stored.moveCall stands (by simp) rfl
            (CallState.sound_resting caller _) (.inl rfl)
      | giveUp =>
          simp only [State.callStep, stands, Option.some.injEq] at moves
          subst moves
          exact holds.moveCall stands (by simp) rfl
            (CallState.sound_resting caller _) (.inl rfl)
      | next => simp [State.callStep, stands] at moves
      | acknowledge other => simp [State.callStep, stands] at moves
      | flush count => simp [State.callStep, stands] at moves
  | creating packetSequence origin rest =>
      rw [stands] at sound
      simp only [State.callStep, stands, Option.some.injEq] at moves
      subst moves
      have made : Sound { state with packetsMade := state.packetsMade + 1 } :=
        { holds with
          sendPath := holds.sendPath.congr rfl rfl rfl rfl }
      exact made.moveCall stands (by simp) rfl ⟨⟨rfl, sound.1⟩, sound.2⟩
        (.inl rfl)
  | created info rest =>
      rw [stands] at sound
      simp only [State.callStep, stands, Option.some.injEq] at moves
      subst moves
      have moved : Sound (state.setCall caller (.calling info rest)) :=
        holds.moveCall stands (by simp) rfl sound (.inl rfl)
      refine moved.insertSendPacketInfo sound.1 ⟨caller, ?_⟩
      rw [State.calls_setCall_self]
      rfl
  | calling info rest =>
      rw [stands] at sound
      simp only [State.callStep, stands, Option.some.injEq] at moves
      subst moves
      by_cases valid : state.isOwnerValid info = true
      · rw [if_pos valid]
        exact holds.moveCall stands (by simp) rfl sound (.inr (.inl rfl))
      · rw [if_neg valid]
        exact holds.moveCall stands (by simp) rfl sound.1 (.inr (.inl rfl))
  | validated info rest =>
      rw [stands] at sound
      simp only [State.callStep, stands, Option.some.injEq] at moves
      subst moves
      by_cases flagged : state.nowInReleaseThread = true
      · rw [if_pos flagged]
        exact holds.moveCall stands (by simp) rfl sound.1 (.inr (.inl rfl))
      · rw [if_neg flagged]
        refine holds.moveCall stands (by simp) rfl sound (.inr (.inr ?_))
        intro clears
        exact flagged (congrArg Stage.nowInReleaseThread clears)
  | ready info rest =>
      rw [stands] at sound
      simp only [State.callStep, stands, Option.some.injEq] at moves
      subst moves
      have calls := holds.not_receiver (fun idle => by cases stands.symm.trans idle)
      have moved : Sound (state.setCall caller (.sending info rest)) :=
        holds.setCall sound (.inr rfl) calls fun _ registered => by
          cases (congrArg CallState.registers stands).symm.trans registered
      refine (moved.pushSendPacketInfo sound.1).moveSend
        (SendPc.sound_of_notStreaming ?_ sound.1.2.2 rfl rfl) (by rintro ⟨⟩)
      exact congrArg CallState.isSending (state.calls_setCall_self caller _)
  | sending info rest =>
      rw [stands] at sound
      have returns : ∀ call : CallState, call.Sound state.turn →
          Sound ((state.setSend (.call caller) .outside).setCall caller
            call) := by
        intro call callSound
        have left := holds.moveSend (SendPc.sound_outside _ _ _)
          ((by rintro ⟨⟩) : SendPc.outside.owns = true →
            (state.doSends (.call caller)).owns = true)
        refine left.setCall callSound (.inl ?_)
          (holds.not_receiver fun idle => by cases stands.symm.trans idle) ?_
        · exact state.doSends_setSend_self (.call caller) .outside
        · intro _ registered
          cases (congrArg CallState.registers stands).symm.trans registered
      simp only [State.callStep, stands] at moves
      split at moves
      · simp only [Option.some.injEq] at moves
        subst moves
        exact returns _ (CallState.sound_resume caller sound.2)
      · simp only [Option.some.injEq] at moves
        subst moves
        exact returns _ sound.1
      · cases moves
  | failed info =>
      rw [stands] at sound
      simp only [State.callStep, stands, Option.some.injEq] at moves
      subst moves
      exact (holds.markErased info).moveCall stands (by simp) rfl sound
        (.inr (.inl rfl))
  | marked info =>
      rw [stands] at sound
      simp only [State.callStep, stands, Option.some.injEq] at moves
      subst moves
      have erased := holds.eraseSendPacketInfo info.sendPacketSequence
      refine erased.setCall (CallState.sound_resting caller _)
        (.inl (holds.outside (congrArg CallState.isSending stands)))
        (holds.not_receiver fun idle => by cases stands.symm.trans idle) ?_
      intro packetSequence registered
      have same : info.sendPacketSequence = packetSequence :=
        Option.some.inj
          ((congrArg CallState.registers stands).symm.trans registered)
      subst same
      exact .inr (.inl (Function.update_self _ _ _))
  | handling =>
      simp only [State.callStep, stands] at moves
      split at moves
      · next packetSequence =>
        split at moves
        · next info found =>
          split at moves
          · cases moves
          · simp only [Option.some.injEq] at moves
            subst moves
            exact (holds.eraseSendPacketInfo packetSequence).moveCall stands
              (by simp) rfl (holds.registered packetSequence info found)
              (.inl rfl)
        · cases moves
      · simp only [Option.some.injEq] at moves
        subst moves
        exact holds.moveCall stands (by simp) rfl trivial (.inl rfl)
  | acknowledged info =>
      rw [stands] at sound
      simp only [State.callStep, stands, Option.some.injEq] at moves
      subst moves
      exact (holds.markErased info).moveCall stands (by simp) rfl sound.2.2
        (.inl rfl)
  | flushing =>
      rw [stands] at sound
      simp only [State.callStep, stands] at moves
      split at moves
      · next count =>
        simp only [Option.some.injEq] at moves
        subst moves
        have keeps := holds.pending (holds.notInitializing sound)
        have flushed : Sound { state with
            pendingPacketQueue := state.pendingPacketQueue.drop count } :=
          holds.setPending fun packet member =>
            keeps packet (List.mem_of_mem_drop member)
        exact flushed.moveCall stands (by simp) rfl
          (CallState.sound_resume caller fun packet member =>
            keeps packet (List.mem_of_mem_take member)) (.inl rfl)
      · cases moves
  | handled =>
      simp only [State.callStep, stands, Option.some.injEq] at moves
      subst moves
      exact holds.moveCall stands (by simp) rfl trivial (.inl rfl)

/-! ## Steps inside `DoSend` -/

/-- Dequeuing and reserving move packets of the present turn only. -/
theorem setQueue
    (holds : Sound state)
    {queue : List SendPacketInfo} {reserved : Option SendPacketInfo}
    (connected : state.connectedOnce = true)
    (queued : ∀ info ∈ queue, state.turn.Live info)
    (kept : ∀ info ∈ reserved, state.turn.Live info) :
    Sound { state with
      sendPacketInfoQueue := queue
      reservedSendPacketInfo := reserved } :=
  { holds with
    sendPath := holds.sendPath.congr rfl rfl rfl rfl
    queued := by
      change ∀ info ∈ queue, if state.stage.keepsQueue then _ else _
      rw [holds.notKeepingQueue connected]
      exact queued
    reserved := by
      change ∀ info ∈ reserved, if state.stage.keepsQueue then _ else _
      rw [holds.notKeepingQueue connected]
      exact kept }

/-- The owner of the send path hands a datagram to the network. -/
theorem transmit
    (holds : Sound state) {thread : Thread}
    (streams : (state.doSends thread).streams = true)
    (owns : (state.doSends thread).owns = true) :
    Sound ({ state with
      sendsInFlight :=
        state.sessionGeneration :: state.sendsInFlight }.setSend thread
      (.returned true)) := by
  have sound := holds.sends thread
  have within := sound.within fun outside =>
    nomatch (congrArg SendPc.streams outside).symm.trans streams
  exact
    { holds with
      sendPath := holds.sendPath.transmit owns state.sessionGeneration
      flights := fun _ => ⟨within.2, sound.streams streams⟩
      sends := Function.forall_update_iff _
          (fun other (otherPc : SendPc) => otherPc.Sound state.turn state.stage
            (state.isSending other)) |>.mpr
        ⟨SendPc.sound_of_notStreaming within.1 within.2 rfl rfl,
          fun other _ => holds.sends other⟩ }

/-- What a thread inside `DoSend` may rely on where it holds nothing. -/
theorem quiet
    (holds : Sound state) {thread : Thread}
    (inside : state.doSends thread ≠ .outside) {pc : SendPc}
    (held : pc.held = none)
    (still : pc.streams = false) :
    pc.Sound state.turn state.stage (state.isSending thread) :=
  SendPc.sound_of_notStreaming ((holds.sends thread).within inside).1
    ((holds.sends thread).within inside).2 held still

/-- What the owner of the send path may rely on. -/
theorem streaming
    (holds : Sound state) {thread : Thread}
    (streams : (state.doSends thread).streams = true) {pc : SendPc}
    (held : ∀ info ∈ pc.held, state.turn.Live info) :
    pc.Sound state.turn state.stage (state.isSending thread) where
  within _ := (holds.sends thread).within fun outside =>
    nomatch (congrArg SendPc.streams outside).symm.trans streams
  held := held
  streams _ := (holds.sends thread).streams streams

/-- A step that ends `MakeSendStream` keeps the invariant. -/
theorem finishStep
    (holds : Sound state) {thread : Thread} {choice : SendChoice}
    {next : State}
    (streams : (state.doSends thread).streams = true)
    (owns : (state.doSends thread).owns = true)
    (moves : state.finishStep thread choice = some next) :
    Sound next := by
  cases choice with
  | transmit =>
      simp only [State.finishStep, Option.some.injEq] at moves
      subst moves
      exact holds.transmit streams owns
  | abandon after =>
      simp only [State.finishStep, Option.some.injEq] at moves
      subst moves
      exact holds.moveSend (holds.streaming streams nofun) fun _ => owns
  | next => cases moves
  | drop => cases moves
  | reserve => cases moves

/-- A step of `MakeSendStream` keeps the invariant. -/
theorem buildStep
    (holds : Sound state) {thread : Thread} {choice : SendChoice}
    {held : Option SendPacketInfo} {next : State}
    (stands : state.doSends thread = .building held)
    (moves : state.buildStep thread held choice = some next) :
    Sound next := by
  have streams : (state.doSends thread).streams = true :=
    congrArg SendPc.streams stands
  have owns : (state.doSends thread).owns = true :=
    congrArg SendPc.owns stands
  have sound := holds.sends thread
  have connected : state.connectedOnce = true :=
    (sound.within fun outside => nomatch stands.symm.trans outside).2
  rw [stands] at sound
  cases held with
  | none =>
      cases choice with
      | next =>
          simp only [State.buildStep] at moves
          split at moves
          · cases moves
          · next info queue head =>
            simp only [Option.some.injEq] at moves
            subst moves
            have queued := holds.queued_live connected
            rw [head] at queued
            have popped : Sound { state with sendPacketInfoQueue := queue } :=
              holds.setQueue connected
                (fun other member => queued other (.tail info member))
                (holds.reserved_live connected)
            refine popped.moveSend (popped.streaming streams ?_) fun _ => owns
            exact fun other member =>
              Option.some.inj member ▸ queued info List.mem_cons_self
      | transmit =>
          have ends : state.finishStep thread .transmit = some next := moves
          exact holds.finishStep streams owns ends
      | abandon after =>
          have ends : state.finishStep thread (.abandon after) = some next :=
            moves
          exact holds.finishStep streams owns ends
      | drop => cases moves
      | reserve => cases moves
  | some info =>
      have live : state.turn.Live info := sound.held info rfl
      cases choice with
      | next =>
          simp only [State.buildStep, Option.ite_none_left_eq_some,
            Option.some.injEq] at moves
          obtain ⟨-, rfl⟩ := moves
          have scheduled : Sound { state with
              scheduled := info :: state.scheduled } :=
            { holds with
              sendPath := holds.sendPath.congr rfl rfl rfl rfl
              scheduled := List.forall_mem_cons.mpr
                ⟨live.recorded holds.numbered, holds.scheduled⟩ }
          exact scheduled.moveSend (scheduled.streaming streams nofun)
            fun _ => owns
      | drop =>
          simp only [State.buildStep, Option.some.injEq] at moves
          subst moves
          exact holds.moveSend (holds.streaming streams nofun) fun _ => owns
      | reserve =>
          simp only [State.buildStep, Option.some.injEq] at moves
          subst moves
          have kept : Sound { state with
              reservedSendPacketInfo := some info } :=
            holds.setQueue connected (holds.queued_live connected)
              fun other member => Option.some.inj member ▸ live
          exact kept.moveSend (kept.streaming streams nofun) fun _ => owns
      | abandon after =>
          simp only [State.buildStep, Option.some.injEq] at moves
          subst moves
          exact holds.moveSend (holds.streaming streams nofun) fun _ => owns
      | transmit => cases moves

/-- A step inside `DoSend` keeps the invariant. -/
theorem sendStep
    (holds : Sound state) {thread : Thread} {choice : SendChoice}
    {next : State}
    (moves : state.sendStep thread choice = some next) :
    Sound next := by
  cases stands : state.doSends thread with
  | outside => simp [State.sendStep, stands] at moves
  | returned result => simp [State.sendStep, stands] at moves
  | entering =>
      simp only [State.sendStep, stands, Option.some.injEq] at moves
      subst moves
      have inside : state.doSends thread ≠ .outside := by simp [stands]
      by_cases flagged : state.nowInReleaseThread = true
      · rw [if_pos flagged]
        exact holds.moveSend (holds.quiet inside rfl rfl) nofun
      · rw [if_neg flagged]
        exact holds.moveSend (holds.quiet inside rfl rfl) nofun
  | contending =>
      simp only [State.sendStep, stands, Option.some.injEq] at moves
      subst moves
      have inside : state.doSends thread ≠ .outside := by simp [stands]
      by_cases free : state.ioMode = .ioNoneSending
      · rw [if_pos free]
        exact holds.setSend (holds.quiet inside rfl rfl)
          (holds.sendPath.acquire free thread)
      · rw [if_neg free]
        exact holds.moveSend (holds.quiet inside rfl rfl) nofun
  | testing =>
      simp only [State.sendStep, stands, Option.some.injEq] at moves
      subst moves
      have inside : state.doSends thread ≠ .outside := by simp [stands]
      have owns : (state.doSends thread).owns = true :=
        congrArg SendPc.owns stands
      by_cases flagged : state.nowInReleaseThread = true
      · rw [if_pos flagged]
        exact holds.moveSend (holds.quiet inside rfl rfl) fun _ => owns
      · rw [if_neg flagged]
        refine holds.moveSend
          { within := fun _ => (holds.sends thread).within inside
            held := nofun
            streams := fun _ => ?_ } fun _ => owns
        by_contra found
        exact flagged (Stage.nowInReleaseThread_of_foundSendPathFree
          (Bool.eq_true_of_not_eq_false found))
  | looking =>
      simp only [State.sendStep, stands, Option.some.injEq] at moves
      subst moves
      have streams : (state.doSends thread).streams = true :=
        congrArg SendPc.streams stands
      have owns : (state.doSends thread).owns = true :=
        congrArg SendPc.owns stands
      by_cases nothing : state.isNothingToSend = true
      · rw [if_pos nothing]
        exact holds.moveSend (holds.streaming streams nofun) fun _ => owns
      · rw [if_neg nothing]
        exact holds.moveSend (holds.streaming streams nofun) fun _ => owns
  | starting =>
      simp only [State.sendStep, stands, Option.some.injEq] at moves
      subst moves
      have streams : (state.doSends thread).streams = true :=
        congrArg SendPc.streams stands
      have connected : state.connectedOnce = true :=
        ((holds.sends thread).within fun outside =>
          nomatch stands.symm.trans outside).2
      have taken : Sound { state with reservedSendPacketInfo := none } :=
        holds.setQueue connected (holds.queued_live connected) nofun
      exact taken.moveSend
        (taken.streaming streams (holds.reserved_live connected))
        fun _ => congrArg SendPc.owns stands
  | building held =>
      simp only [State.sendStep, stands] at moves
      exact holds.buildStep stands moves
  | full =>
      simp only [State.sendStep, stands] at moves
      exact holds.finishStep (congrArg SendPc.streams stands)
        (congrArg SendPc.owns stands) moves
  | releasing after =>
      simp only [State.sendStep, stands, Option.some.injEq] at moves
      subst moves
      have inside : state.doSends thread ≠ .outside := by simp [stands]
      exact holds.setSend
        (holds.quiet inside (SendPc.held_resume after)
          (SendPc.streams_resume after))
        (holds.sendPath.release (congrArg SendPc.owns stands)
          (SendPc.owns_resume after))
  | rechecking =>
      simp only [State.sendStep, stands, Option.some.injEq] at moves
      subst moves
      have inside : state.doSends thread ≠ .outside := by simp [stands]
      by_cases nothing : state.isNothingToSend = true
      · rw [if_pos nothing]
        exact holds.moveSend (holds.quiet inside rfl rfl) nofun
      · rw [if_neg nothing]
        exact holds.moveSend (holds.quiet inside rfl rfl) nofun

/-! ## Steps of the retransmission thread -/

/-- The retransmission thread moves on without entering or leaving `DoSend`. -/
theorem setRetransmission
    (holds : Sound state) {phase : RetransmissionPhase}
    (sound : phase.Sound state.turn)
    (outside : state.doSends .retransmission = .outside ∨
      phase.isSending = true) :
    Sound { state with retransmission := phase } :=
  { holds with
    sendPath := holds.sendPath.congr rfl rfl rfl rfl
    retransmission := sound
    sends := by
      intro thread
      cases thread with
      | call caller => exact holds.sends (.call caller)
      | completion => exact holds.sends .completion
      | retransmission =>
          rcases outside with outside | sending
          · change (state.doSends .retransmission).Sound _ _ _
            rw [outside]
            exact SendPc.sound_outside _ _ _
          · have before := holds.sends .retransmission
            exact { before with
              within := fun inside => ⟨sending, (before.within inside).2⟩ } }

/-- A step of the retransmission thread keeps the invariant. -/
theorem retransmissionStep
    (holds : Sound state) {exceeded : Bool} {next : State}
    (moves : state.retransmissionStep exceeded = some next) :
    Sound next := by
  have sound := holds.retransmission
  cases stands : state.retransmission with
  | waiting => simp [State.retransmissionStep, stands] at moves
  | taken info =>
      rw [stands] at sound
      have outside : state.doSends .retransmission = .outside :=
        holds.outside (congrArg RetransmissionPhase.isSending stands)
      simp only [State.retransmissionStep, stands, Option.some.injEq] at moves
      subst moves
      refine holds.setRetransmission ?_ (.inl outside)
      split
      · trivial
      · exact sound
  | calling info =>
      rw [stands] at sound
      have outside : state.doSends .retransmission = .outside :=
        holds.outside (congrArg RetransmissionPhase.isSending stands)
      simp only [State.retransmissionStep, stands, Option.some.injEq] at moves
      subst moves
      refine holds.setRetransmission ?_ (.inl outside)
      split
      · next valid =>
        exact sound.live holds.numbered holds.bounded
          (of_decide_eq_true valid)
      · trivial
  | validated info =>
      rw [stands] at sound
      have outside : state.doSends .retransmission = .outside :=
        holds.outside (congrArg RetransmissionPhase.isSending stands)
      simp only [State.retransmissionStep, stands, Option.some.injEq] at moves
      subst moves
      refine holds.setRetransmission ?_ (.inl outside)
      split
      · trivial
      · exact sound
  | ready info =>
      rw [stands] at sound
      simp only [State.retransmissionStep, stands, Option.some.injEq] at moves
      subst moves
      have moved : Sound { state with retransmission := .sending info } :=
        holds.setRetransmission sound (.inr rfl)
      exact (moved.pushSendPacketInfo sound).moveSend
        (SendPc.sound_of_notStreaming rfl sound.2.2 rfl rfl) nofun
  | sending info =>
      simp only [State.retransmissionStep, stands] at moves
      split at moves
      · next result returned =>
        simp only [Option.some.injEq] at moves
        subst moves
        have left : Sound (state.setSend .retransmission .outside) :=
          holds.moveSend (SendPc.sound_outside _ _ _) nofun
        exact left.setRetransmission trivial
          (.inl (state.doSends_setSend_self .retransmission .outside))
      · cases moves

/-! ## Steps of the completion worker -/

/-- The completion worker moves on and may store an IO mode. -/
theorem setCompletion
    (holds : Sound state) {completion : CompletionPhase} {ioMode : IoMode}
    (connected : state.connectedOnce = true)
    (sendPath :
      SendPathSound
        { state with ioMode := ioMode, completion := completion })
    (outside : state.doSends .completion = .outside ∨ completion = .sending)
    (owned : completion.owns = true → state.completion.owns = true)
    (ended : state.completion ≠ .waiting) :
    Sound { state with ioMode := ioMode, completion := completion } :=
  { holds with
    sendPath := sendPath
    sends := by
      intro thread
      cases thread with
      | call caller => exact holds.sends (.call caller)
      | retransmission => exact holds.sends .retransmission
      | completion =>
          rcases outside with outside | sending
          · change (state.doSends .completion).Sound _ _ _
            rw [outside]
            exact SendPc.sound_outside _ _ _
          · have before := holds.sends .completion
            exact { before with
              within := fun inside =>
                ⟨decide_eq_true sending, (before.within inside).2⟩ }
    completion := fun _ => connected
    noOwningCompletion := by
      intro found
      by_contra owns
      have owned := owned (Bool.eq_true_of_not_eq_false owns)
      exact nomatch (holds.noOwningCompletion found).symm.trans owned
    noCompletion := fun found => absurd (holds.noCompletion found) ended }

/-- The completion worker takes a datagram that completes. -/
theorem dequeue
    (holds : Sound state) {generation : BitVec 32}
    (flies : generation ∈ state.sendsInFlight)
    (waiting : state.completion = .waiting) :
    Sound { state with
      sendsInFlight := state.sendsInFlight.erase generation
      completion := .dequeued generation } := by
  obtain ⟨connected, unfound⟩ := holds.flights (List.ne_nil_of_mem flies)
  have outside : state.doSends .completion = .outside :=
    holds.outside (by simp [State.isSending, waiting])
  refine { holds with
    sendPath := holds.sendPath.dequeue flies
    sends := ?_
    completion := fun _ => connected
    flights := fun _ => ⟨connected, unfound⟩
    noOwningCompletion := fun found => nomatch unfound.symm.trans found
    noCompletion := fun found => nomatch unfound.symm.trans
      (Stage.foundSendPathFree_of_foundNoCompletion found) }
  intro thread
  cases thread with
  | call caller => exact holds.sends (.call caller)
  | retransmission => exact holds.sends .retransmission
  | completion =>
      change (state.doSends .completion).Sound _ _ _
      rw [outside]
      exact SendPc.sound_outside _ _ _

/-- A step of the completion worker keeps the invariant. -/
theorem completionStep
    (holds : Sound state) {succeeded : Bool} {next : State}
    (moves : state.completionStep succeeded = some next) :
    Sound next := by
  cases stands : state.completion with
  | waiting => simp [State.completionStep, stands] at moves
  | dequeued generation =>
      have busy : state.completion ≠ .waiting := by simp [stands]
      have outside : state.doSends .completion = .outside :=
        holds.outside (by simp [State.isSending, stands])
      simp only [State.completionStep, stands, Option.some.injEq] at moves
      subst moves
      have owned : ∀ phase : CompletionPhase, phase.owns = true →
          state.completion.owns = true :=
        fun _ _ => congrArg CompletionPhase.owns stands
      exact holds.setCompletion (holds.completion busy)
        (holds.sendPath.setCompletion (owned _)) (.inl outside) (owned _) busy
  | storing =>
      have busy : state.completion ≠ .waiting := by simp [stands]
      have outside : state.doSends .completion = .outside :=
        holds.outside (by simp [State.isSending, stands])
      have owns : state.completion.owns = true :=
        congrArg CompletionPhase.owns stands
      simp only [State.completionStep, stands, Option.some.injEq] at moves
      subst moves
      refine holds.setCompletion (holds.completion busy)
        (holds.sendPath.complete owns ?_) (.inl outside) (fun _ => owns) busy
      cases succeeded <;> rfl
  | testing =>
      have busy : state.completion ≠ .waiting := by simp [stands]
      have outside : state.doSends .completion = .outside :=
        holds.outside (by simp [State.isSending, stands])
      simp only [State.completionStep, stands, Option.some.injEq] at moves
      subst moves
      by_cases flagged : state.nowInReleaseThread = true
      · rw [if_pos flagged]
        exact holds.setCompletion (holds.completion busy)
          (holds.sendPath.setCompletion nofun) (.inl outside) nofun busy
      · rw [if_neg flagged]
        have moved : Sound { state with completion := .sending } :=
          holds.setCompletion (holds.completion busy)
            (holds.sendPath.setCompletion nofun) (.inl outside) nofun busy
        exact moved.moveSend
          (SendPc.sound_of_notStreaming rfl (holds.completion busy) rfl rfl)
          nofun
  | sending =>
      have busy : state.completion ≠ .waiting := by simp [stands]
      simp only [State.completionStep, stands] at moves
      split at moves
      · simp only [Option.some.injEq] at moves
        subst moves
        have left : Sound (state.setSend .completion .outside) :=
          holds.moveSend (SendPc.sound_outside _ _ _) nofun
        exact left.setCompletion (holds.completion busy)
          (left.sendPath.setCompletion nofun)
          (.inl (state.doSends_setSend_self .completion .outside)) nofun busy
      · cases moves

end Sound

end Generations
end MultiSocketRudp
