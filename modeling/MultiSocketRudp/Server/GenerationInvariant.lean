import MultiSocketRudp.Lib.ExclusiveOwnership
import MultiSocketRudp.Server.Generations

/-!
# What excluding straddling calls keeps true

The generation of a session is incremented after the drain test, which waits for
receives, completions and the send path.  It does not wait for send calls and
for the retransmission thread.  When none of these straddles the increment,
whatever a call carries belongs to the turn of the session in which it runs.
-/

namespace MultiSocketRudp
namespace Generations

open TransitionSystems ExclusiveOwnership

/-! ## Stages -/

namespace Stage

/-- `CanFinalizeIO` has found no receive. -/
def foundNoReceive : Stage → Bool
  | .receivesDrained => true
  | .modeDrained | .completionsDrained | .cleaned | .cleared => true
  | _ => false

/-- `CanFinalizeIO` has found the send path free. -/
def foundSendPathFree : Stage → Bool
  | .modeDrained | .completionsDrained | .cleaned | .cleared => true
  | _ => false

/-- `CanFinalizeIO` has found no active completion. -/
def foundNoCompletion : Stage → Bool
  | .completionsDrained | .cleaned | .cleared => true
  | _ => false

/-- The generation is new and no client has connected in it. -/
def isFresh : Stage → Bool
  | .incremented | .lowered | .modeReset | .sequenceReset | .queueReset
  | .pendingReset | .disconnected | .pooled | .handedOut | .reserved => true
  | _ => false

/-- The generation is new and the send sequence is not yet reset. -/
def keepsSequence : Stage → Bool
  | .incremented | .lowered | .modeReset => true
  | _ => false

theorem isFresh_of_keepsQueue
    {stage : Stage}
    (keeps : stage.keepsQueue = true) :
    stage.isFresh = true := by
  cases stage <;> first | rfl | cases keeps

theorem isFresh_of_beingInitialized
    {stage : Stage}
    (initializes : stage.beingInitialized = true) :
    stage.isFresh = true := by
  cases stage <;> first | rfl | cases initializes

theorem nowInReleaseThread_of_foundSendPathFree
    {stage : Stage}
    (found : stage.foundSendPathFree = true) :
    stage.nowInReleaseThread = true := by
  cases stage <;> first | rfl | cases found

theorem foundNoReceive_of_acceptsReceives
    {stage : Stage}
    (accepts : stage.acceptsReceives = true) :
    stage.foundNoReceive = false := by
  cases stage <;> first | rfl | cases accepts

theorem foundSendPathFree_of_foundNoCompletion
    {stage : Stage}
    (found : stage.foundNoCompletion = true) :
    stage.foundSendPathFree = true := by
  cases stage <;> first | rfl | cases found

theorem beingInitialized_of_keepsQueue
    {stage : Stage}
    (keeps : stage.keepsQueue = true) :
    stage.beingInitialized = true := by
  cases stage <;> first | rfl | cases keeps

theorem keepsQueue_of_keepsSequence
    {stage : Stage}
    (keeps : stage.keepsSequence = true) :
    stage.keepsQueue = true := by
  cases stage <;> first | rfl | cases keeps

end Stage

/-! ## Turns -/

/-- What names a turn of the session, and whether a client has connected in
it. -/
structure Turn where
  sessionGeneration : BitVec 32
  epoch : Nat
  connectedOnce : Bool

/-- The present turn. -/
def State.turn (state : State) : Turn :=
  ⟨state.sessionGeneration, state.epoch, state.connectedOnce⟩

namespace Turn

/-- A send call that began in this turn. -/
def Began (turn : Turn) (origin : Nat) : Prop :=
  origin = turn.epoch ∧ turn.connectedOnce = true

/-- A packet of a send call that began in this turn. -/
def Live (turn : Turn) (info : SendPacketInfo) : Prop :=
  info.ownerGeneration = turn.sessionGeneration ∧ turn.Began info.origin

/-- A packet of this turn or an earlier one. -/
def Recorded (turn : Turn) (info : SendPacketInfo) : Prop :=
  info.ownerGeneration = BitVec.ofNat 32 info.origin ∧
    (info.origin < turn.epoch ∨ turn.Began info.origin)

/-- The buffers belong to send calls that began in this turn. -/
def Keeps (turn : Turn) (rest : List PendingPacket) : Prop :=
  ∀ packet ∈ rest, turn.Began packet.origin

end Turn

/-! ## Where a thread stands -/

namespace CallState

/-- The caller is inside `DoSend`. -/
def isSending : CallState → Bool
  | .sending _ _ => true
  | _ => false

/-- The sequence that the caller has registered and may still erase. -/
def registers : CallState → Option PacketSequence
  | .calling info _ => some info.sendPacketSequence
  | .validated info _ => some info.sendPacketSequence
  | .failed info => some info.sendPacketSequence
  | .marked info => some info.sendPacketSequence
  | _ => none

/-- What a caller carries belongs to the present turn. -/
def Sound (turn : Turn) : CallState → Prop
  | .idle => True
  | .handling => True
  | .handled => True
  | .tested origin => turn.Began origin
  | .allocated _ origin => turn.Began origin
  | .creating _ origin rest => turn.Began origin ∧ turn.Keeps rest
  | .created info rest => turn.Live info ∧ turn.Keeps rest
  | .calling info rest => turn.Live info ∧ turn.Keeps rest
  | .validated info rest => turn.Live info ∧ turn.Keeps rest
  | .ready info rest => turn.Live info ∧ turn.Keeps rest
  | .sending info rest => turn.Live info ∧ turn.Keeps rest
  | .failed info => turn.Live info
  | .marked info => turn.Live info
  | .acknowledged info => turn.Live info
  | .flushing => turn.connectedOnce = true

theorem sound_resting (caller : Caller) (turn : Turn) :
    caller.resting.Sound turn := by
  cases caller <;> trivial

theorem sound_resume
    (caller : Caller) {turn : Turn} {rest : List PendingPacket}
    (keeps : turn.Keeps rest) :
    (caller.resume rest).Sound turn := by
  cases rest with
  | nil => exact sound_resting caller turn
  | cons packet rest =>
      exact ⟨keeps packet List.mem_cons_self, fun other member =>
        keeps other (List.mem_cons_of_mem packet member)⟩

end CallState

namespace SendPc

/-- The thread has taken the send path. -/
def owns : SendPc → Bool
  | .testing | .looking | .starting | .building _ | .full
  | .releasing _ => true
  | _ => false

/-- The thread has found the session not releasing since. -/
def streams : SendPc → Bool
  | .looking | .starting | .building _ | .full => true
  | _ => false

/-- The packet that `MakeSendStream` holds. -/
def held : SendPc → Option SendPacketInfo
  | .building held => held
  | _ => none

/-- What a thread inside `DoSend` may rely on. -/
structure Sound
    (turn : Turn) (stage : Stage) (isSending : Bool) (pc : SendPc) :
    Prop where
  within : pc ≠ .outside → isSending = true ∧ turn.connectedOnce = true
  held : ∀ info ∈ pc.held, turn.Live info
  streams : pc.streams = true → stage.foundSendPathFree = false

theorem sound_outside
    (turn : Turn) (stage : Stage) (isSending : Bool) :
    Sound turn stage isSending .outside where
  within inside := absurd rfl inside
  held _ member := nomatch member
  streams streams := Bool.noConfusion streams

/-- A thread of a connected turn may stand inside `DoSend` where it holds
nothing. -/
theorem sound_of_notStreaming
    {turn : Turn} {stage : Stage} {isSending : Bool} {pc : SendPc}
    (sending : isSending = true)
    (connected : turn.connectedOnce = true)
    (held : pc.held = none)
    (still : pc.streams = false) :
    Sound turn stage isSending pc where
  within _ := ⟨sending, connected⟩
  held _ member := nomatch held.symm.trans member
  streams streams := nomatch still.symm.trans streams

theorem owns_of_streams
    {pc : SendPc}
    (streams : pc.streams = true) :
    pc.owns = true := by
  cases pc <;> first | rfl | cases streams

theorem owns_resume (after : AfterRelease) :
    after.resume.owns = false := by
  cases after <;> rfl

theorem held_resume (after : AfterRelease) :
    after.resume.held = none := by
  cases after <;> rfl

theorem streams_resume (after : AfterRelease) :
    after.resume.streams = false := by
  cases after <;> rfl

end SendPc

namespace RetransmissionPhase

/-- `MultiSocketRUDPCore::SendPacket` has found the generation current. -/
def pastGenerationTest : RetransmissionPhase → Bool
  | .validated _ | .ready _ | .sending _ => true
  | _ => false

/-- The thread is inside `DoSend`. -/
def isSending : RetransmissionPhase → Bool
  | .sending _ => true
  | _ => false

/-- A packet that has passed the generation test belongs to the present turn. -/
def Sound (turn : Turn) : RetransmissionPhase → Prop
  | .waiting => True
  | .taken info => turn.Recorded info
  | .calling info => turn.Recorded info
  | .validated info => turn.Live info
  | .ready info => turn.Live info
  | .sending info => turn.Live info

end RetransmissionPhase

/-- The worker has not yet freed the send path. -/
def CompletionPhase.owns : CompletionPhase → Bool
  | .dequeued _ | .storing => true
  | _ => false

/-- The thread is inside `DoSend`. -/
def State.isSending (state : State) : Thread → Bool
  | .call caller => (state.calls caller).isSending
  | .retransmission => state.retransmission.isSending
  | .completion => state.completion = .sending

/-! ## The send path -/

/-- Who may have the send path. -/
inductive Holder
  | thread (thread : Thread)
  | flight
  | completion
  deriving DecidableEq, Repr

/-- The send path is this party's. -/
def State.Holds (state : State) : Holder → Prop
  | .thread thread => (state.doSends thread).owns = true
  | .flight => state.sendsInFlight ≠ []
  | .completion => state.completion.owns = true

/-- One party has the send path, and a datagram in flight is the only one. -/
structure SendPathSound (state : State) : Prop where
  exclusive : Exclusive (state.ioMode = .ioSending) state.Holds
  single : state.sendsInFlight.length ≤ 1

namespace SendPathSound

variable {state : State}

/-- With the send path free nobody has it. -/
theorem not_holds
    (sound : SendPathSound state)
    (free : state.ioMode = .ioNoneSending) (party : Holder) :
    ¬ state.Holds party :=
  sound.exclusive.not_owns
    (fun sending => IoMode.noConfusion (free.symm.trans sending)) party

/-- After a move inside `DoSend` the other parties are as before. -/
theorem holds_setSend
    {thread : Thread} {pc : SendPc} {party : Holder}
    (holds : (state.setSend thread pc).Holds party) :
    state.Holds party ∧ party ≠ .thread thread ∨
      party = .thread thread ∧ pc.owns = true := by
  cases party with
  | flight => exact .inl ⟨holds, nofun⟩
  | completion => exact .inl ⟨holds, nofun⟩
  | thread other =>
      by_cases same : other = thread
      · subst same
        have owns : ((state.setSend other pc).doSends other).owns = true :=
          holds
        rw [State.doSends_setSend_self] at owns
        exact .inr ⟨rfl, owns⟩
      · have owns : ((state.setSend thread pc).doSends other).owns = true :=
          holds
        rw [State.doSends_setSend_of_ne state pc same] at owns
        exact .inl ⟨owns, fun equal => same (Holder.thread.inj equal)⟩

/-- A thread that does not take the send path leaves its owner. -/
theorem setSend
    (sound : SendPathSound state) {thread : Thread} {pc : SendPc}
    (owned : pc.owns = true → (state.doSends thread).owns = true) :
    SendPathSound (state.setSend thread pc) where
  exclusive := by
    refine sound.exclusive.mono fun party holds => ?_
    rcases holds_setSend holds with ⟨before, _⟩ | ⟨rfl, owns⟩
    · exact before
    · exact owned owns
  single := sound.single

/-- A thread that wins the compare-and-swap owns the send path. -/
theorem acquire
    (sound : SendPathSound state)
    (free : state.ioMode = .ioNoneSending) (thread : Thread) :
    SendPathSound
      ({ state with ioMode := .ioSending }.setSend thread .testing) where
  exclusive := by
    refine sound.exclusive.acquire
      (fun sending => IoMode.noConfusion (free.symm.trans sending)) rfl
      (.thread thread) fun party holds => ?_
    exact (holds_setSend holds).imp And.left And.left
  single := sound.single

/-- When its owner stores the free mode, nobody has the send path. -/
theorem release
    (sound : SendPathSound state) {thread : Thread} {pc : SendPc}
    (owns : (state.doSends thread).owns = true)
    (frees : pc.owns = false) :
    SendPathSound
      ({ state with ioMode := .ioNoneSending }.setSend thread pc) where
  exclusive := by
    have holds : state.Holds (.thread thread) := owns
    refine sound.exclusive.release holds fun party after => ?_
    exact (holds_setSend after).resolve_right fun ⟨_, owns⟩ =>
      nomatch frees.symm.trans owns
  single := sound.single

/-- A thread that hands over a datagram passes the send path on to it. -/
theorem transmit
    (sound : SendPathSound state) {thread : Thread}
    (owns : (state.doSends thread).owns = true) (generation : BitVec 32) :
    SendPathSound
      ({ state with
        sendsInFlight := generation :: state.sendsInFlight }.setSend thread
        (.returned true)) := by
  have holds : state.Holds (.thread thread) := owns
  have landed : state.sendsInFlight = [] := by
    by_contra flies
    exact Holder.noConfusion
      (sound.exclusive.unique (.thread thread) .flight holds flies)
  refine
    { exclusive := sound.exclusive.handOver holds .flight fun party after => ?_
      single := by simp [State.setSend, landed] }
  rcases holds_setSend after with ⟨before, distinct⟩ | ⟨_, owns⟩
  · cases party with
    | flight => exact .inr rfl
    | thread other => exact .inl ⟨before, distinct⟩
    | completion => exact .inl ⟨before, distinct⟩
  · exact nomatch owns

/-- The worker takes the send path from the datagram that completes. -/
theorem dequeue
    (sound : SendPathSound state) {generation : BitVec 32}
    (flies : generation ∈ state.sendsInFlight) :
    SendPathSound
      { state with
        sendsInFlight := state.sendsInFlight.erase generation
        completion := .dequeued generation } := by
  have holds : state.Holds .flight := List.ne_nil_of_mem flies
  have landed : state.sendsInFlight.erase generation = [] := by
    have erased := List.length_erase_of_mem flies
    have single := sound.single
    exact List.length_eq_zero_iff.mp (by omega)
  refine
    { exclusive :=
        sound.exclusive.handOver holds .completion fun party after => ?_
      single := by simp [landed] }
  cases party with
  | completion => exact .inr rfl
  | thread thread => exact .inl ⟨after, nofun⟩
  | flight => exact absurd landed after

/-- When the worker stores the free mode, nobody has the send path. -/
theorem complete
    (sound : SendPathSound state)
    (owns : state.completion.owns = true) {completion : CompletionPhase}
    (frees : completion.owns = false) :
    SendPathSound
      { state with ioMode := .ioNoneSending, completion := completion } where
  exclusive := by
    have holds : state.Holds .completion := owns
    refine sound.exclusive.release holds fun party after => ?_
    cases party with
    | completion => exact nomatch frees.symm.trans after
    | thread thread => exact ⟨after, nofun⟩
    | flight => exact ⟨after, nofun⟩
  single := sound.single

/-- A worker that does not take the send path leaves its owner. -/
theorem setCompletion
    (sound : SendPathSound state) {completion : CompletionPhase}
    (owned : completion.owns = true → state.completion.owns = true) :
    SendPathSound { state with completion := completion } where
  exclusive := by
    refine sound.exclusive.mono fun party holds => ?_
    cases party with
    | completion => exact owned holds
    | thread thread => exact holds
    | flight => exact holds
  single := sound.single

/-- Nothing but the owners and the mode matters. -/
theorem congr
    (sound : SendPathSound state) {other : State}
    (mode : other.ioMode = state.ioMode)
    (threads : other.doSends = state.doSends)
    (flights : other.sendsInFlight = state.sendsInFlight)
    (completion : other.completion = state.completion) :
    SendPathSound other where
  exclusive := by
    rw [mode]
    refine sound.exclusive.mono fun party holds => ?_
    cases party with
    | thread thread => simpa only [State.Holds, threads] using holds
    | flight => simpa only [State.Holds, flights] using holds
    | completion => simpa only [State.Holds, completion] using holds
  single := flights ▸ sound.single

end SendPathSound

/-! ## The invariant -/

/-- What holds as long as no call straddles the increment of the generation. -/
structure Sound (state : State) : Prop where
  numbered : state.sessionGeneration = BitVec.ofNat 32 state.epoch
  bounded : state.epoch < 2 ^ 32
  fresh : state.stage.isFresh = true → state.connectedOnce = false
  connected : state.stage = .connected → state.connectedOnce = true
  sendPath : SendPathSound state
  calls : ∀ caller, (state.calls caller).Sound state.turn
  sends : ∀ thread,
    (state.doSends thread).Sound state.turn state.stage
      (state.isSending thread)
  retransmission : state.retransmission.Sound state.turn
  completion : state.completion ≠ .waiting → state.connectedOnce = true
  flights : state.sendsInFlight ≠ [] →
    state.connectedOnce = true ∧ state.stage.foundSendPathFree = false
  noReceive : state.stage.foundNoReceive = true →
    state.receives = 0 ∧ state.calls .receiver = .idle
  noOwningCompletion : state.stage.foundSendPathFree = true →
    state.completion.owns = false
  noCompletion : state.stage.foundNoCompletion = true →
    state.completion = .waiting
  registered : ∀ packetSequence info,
    state.sendPacketInfoMap packetSequence = some info →
    state.turn.Live info
  /-- What is registered after the map has been cleared will be erased. -/
  cleared : state.stage = .cleared → ∀ packetSequence,
    state.sendPacketInfoMap packetSequence ≠ none →
    ∃ caller, (state.calls caller).registers = some packetSequence
  queued : ∀ info ∈ state.sendPacketInfoQueue,
    if state.stage.keepsQueue then info.origin < state.epoch
    else state.turn.Live info
  reserved : ∀ info ∈ state.reservedSendPacketInfo,
    if state.stage.keepsQueue then info.origin < state.epoch
    else state.turn.Live info
  pending : state.stage.beingInitialized = false →
    state.turn.Keeps state.pendingPacketQueue
  scheduled : ∀ info ∈ state.scheduled, state.turn.Recorded info
  sequence : state.stage.keepsSequence = false →
    state.connectedOnce = false → state.lastSendPacketSequence = 0

end Generations
end MultiSocketRudp
