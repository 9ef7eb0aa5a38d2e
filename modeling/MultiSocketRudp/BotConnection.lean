import MultiSocketRudp.BotTester.RudpSession
import MultiSocketRudp.Reliability
import Mathlib.Data.Set.List

/-!
# One bot session and its server session

The bot tester sends without flow control: every packet goes out at once and
again until it is acknowledged.  Towards the server the bot is a client like the
one of `Connection`, so that the server session and the network are taken from
there; the bot appears to them as a client with the same payloads.

The DISCONNECT packet takes a sequence of its own, behind which nothing can be
handled any more.
-/

namespace MultiSocketRudp
namespace BotConnection

open BotTester.RudpSession ReceivePath SendPath TransitionSystems

/-- Both ends and the datagrams in flight. -/
structure State (Payload : Type) where
  bot : Session Payload
  server : ServerSession (Option Payload)
  toServer : List (ClientFrame (Option Payload))
  toClient : List SendReply

/-- The atomic steps of the connection. -/
inductive Label (Payload : Type)
  /-- The bot makes a step on its own. -/
  | bot (label : SessionLabel Payload)
  /-- A reply reaches the bot. -/
  | deliverReply (reply : SendReply)
  /-- The server session or the network makes a step. -/
  | network (label : Connection.Label (Option Payload))
  /-- The DISCONNECT packet reaches the server session. -/
  | deliverDisconnect

/-- The step is not made by the client. -/
def isNetworkStep {Payload : Type} : Connection.Label Payload → Bool
  | .client _ | .deliverReply _ => false
  | _ => true

variable {Payload : Type}

/-- The sequence that the receive task works on. -/
def replied : BotTester.RudpSession.Receiver → Option PacketSequence
  | .idle => none
  | .acking packetSequence | .marked packetSequence => some packetSequence

/-- The bot as a client of `Connection`. -/
def asClient (bot : Session Payload) : Client (Option Payload) where
  lastSendPacketSequence := BitVec.ofNat 64 bot.sent.length
  sendPacketInfoMap := []
  pendingPacketQueue := []
  remoteAdvertisedWindow := 1
  isConnected := true
  threadStopFlag := false
  calls _ := .idle
  receiver :=
    match replied bot.receiver with
    | none => .idle
    | some packetSequence => .windowStored packetSequence
  retransmission := none
  sent := bot.sent
  dropped := bot.dropped

/-- The connection with the bot as its client. -/
def State.asConnection (state : State Payload) :
    Connection.State (Option Payload) where
  client := asClient state.bot
  server := state.server
  toServer := state.toServer
  toClient := state.toClient

/-- One atomic step. -/
def step
    [DecidableEq Payload]
    (config : Connection.Config) (state : State Payload) :
    Label Payload → Option (State Payload)
  | .bot label =>
      if isOwnStep label then
        (sessionStep state.bot label).map fun (bot, enqueued) =>
          { state with bot, toServer := enqueued ++ state.toServer }
      else none
  | .deliverReply reply =>
      if reply ∈ state.toClient then
        (sessionStep state.bot (.onSendReply reply.packetSequence)).map
          fun (bot, _) =>
            { state with bot, toClient := state.toClient.erase reply }
      else none
  | .network label =>
      if isNetworkStep label then
        (Connection.step config state.asConnection label).map fun next =>
          { state with
            server := next.server
            toServer := next.toServer
            toClient := next.toClient }
      else none
  | .deliverDisconnect =>
      if state.bot.disconnectSent ∧ state.server.processing = .idle then
        some
          { state with
            server :=
              if state.server.canProcessPacket config.clientAddress then
                state.server.doDisconnect
              else state.server }
      else none

/-- The session is reserved for the bot, which is about to connect. -/
def initial (config : Connection.Config) : State Payload where
  bot := .created config.sessionId
  server := .reserved config.sessionId config.maximumHoldingPacketQueueSize
  toServer := []
  toClient := []

/-- The runs of a bot session and its server session. -/
def system
    [DecidableEq Payload] (config : Connection.Config) :
    TransitionSystem (State Payload) (Label Payload) where
  Initial state := state = initial config
  step := step config

/-- The step takes a new sequence. -/
def Label.takesSequence : Label Payload → Bool
  | .bot (.allocate _ _) | .bot (.disconnectAsync _) => true
  | _ => false

/-- At most `2 ^ 63` sequences are taken. -/
def SequencesBounded (state : State Payload) (label : Label Payload) : Prop :=
  label.takesSequence = true → state.bot.sent.length < 2 ^ 63

instance (state : State Payload) (label : Label Payload) :
    Decidable (SequencesBounded state label) :=
  inferInstanceAs
    (Decidable (label.takesSequence = true →
      state.bot.sent.length < 2 ^ 63))

/-! ## What the protocol promises -/

/-- The handlers of the server are called with the bot's packets in order, each
once; replies are for packets whose handler has returned success; and the bot has
dropped from its store only packets that were handled. -/
structure Reliable (state : State Payload) : Prop where
  in_order : ∃ handled : List Payload,
    state.server.handlerLog = handled.map some ∧
      handled.map some <+: state.bot.sent
  replies : ∀ reply ∈ state.toClient,
    reply.packetSequence ≠ loginPacketSequence →
      reply.packetSequence ∈ state.server.succeeded
  dropped : ∀ packetSequence ∈ state.bot.dropped,
    packetSequence ≠ loginPacketSequence →
      packetSequence.toNat ≤ state.server.handlerLog.length

/-! ## Packets with a payload -/

/-- The packet is not a numbered one without a payload. -/
def Carries : ClientFrame (Option Payload) → Prop
  | .connect _ _ => True
  | .send frame => frame.payload.isSome

/-- Everything on the way to a handler has a payload. -/
structure AllCarry
    (server : ServerSession (Option Payload))
    (toServer : List (ClientFrame (Option Payload))) : Prop where
  toServer : ∀ frame ∈ toServer, Carries frame
  held : ∀ frame ∈ server.recvHoldingPackets, frame.payload.isSome
  handling : ∀ frame, server.processing = .handling frame →
    frame.payload.isSome
  handled : ∀ payload ∈ server.handlerLog, payload.isSome

namespace AllCarry

variable {server : ServerSession (Option Payload)}
variable {toServer : List (ClientFrame (Option Payload))}

/-- A disconnect touches no packet. -/
theorem doDisconnect
    (holds : AllCarry server toServer) :
    AllCarry server.doDisconnect toServer := by
  unfold ServerSession.doDisconnect
  split <;>
    exact ⟨holds.toServer, holds.held, holds.handling, holds.handled⟩

/-- A packet of the bot is dispatched. -/
theorem processByPacketType
    {clientAddr : SockaddrIn} {frame : ClientFrame (Option Payload)}
    (holds : AllCarry server toServer)
    (idle : server.processing = .idle)
    (carries : Carries frame) :
    AllCarry (server.processByPacketType clientAddr frame) toServer := by
  obtain ⟨inFlight, held, handling, handled⟩ := holds
  cases frame with
  | connect packetSequence recvSessionId =>
      simp only [ServerSession.processByPacketType, ServerSession.tryConnect]
      repeat' split
      all_goals
        refine ⟨inFlight, ?_, ?_, handled⟩
        all_goals simp_all
  | send frame =>
      simp only [ServerSession.processByPacketType,
        ServerSession.onRecvPacket, ServerSession.onReceive]
      have payload : frame.payload.isSome := carries
      repeat' split
      all_goals
        refine ⟨inFlight, ?_, ?_, handled⟩
        all_goals simp_all

/-- The packets in flight are among some others. -/
theorem mono
    {fewer : List (ClientFrame (Option Payload))}
    (holds : AllCarry server toServer)
    (among : ∀ frame ∈ fewer, frame ∈ toServer) :
    AllCarry server fewer :=
  { holds with
    toServer := fun frame member => holds.toServer frame (among frame member) }

/-- A handler returns. -/
theorem processPacket
    {frame : DataFrame (Option Payload)}
    (holds : AllCarry server toServer)
    (stands : server.processing = .handling frame)
    (result : HandlerResult) :
    AllCarry (server.processPacket frame result) toServer := by
  have payload := holds.handling frame stands
  have handled : ∀ payload ∈ server.handlerLog ++ [frame.payload],
      payload.isSome := by
    intro other member
    rcases List.mem_append.mp member with old | last
    · exact holds.handled other old
    · rw [List.mem_singleton.mp last]
      exact payload
  cases result with
  | unknownPacket =>
      exact ⟨holds.toServer, holds.held, fun _ stands => (by cases stands),
        holds.handled⟩
  | failed | succeeded =>
      exact ⟨holds.toServer, holds.held, fun _ stands => (by cases stands),
        handled⟩

/-- A reply is sent. -/
theorem afterReply
    (holds : AllCarry server toServer)
    (packetSequence : PacketSequence) (thenDrain : Bool) :
    AllCarry (server.afterReply packetSequence thenDrain) toServer := by
  cases thenDrain with
  | true =>
      exact ⟨holds.toServer,
        fun frame member => holds.held frame (List.mem_of_mem_filter member),
        fun _ stands => (by cases stands), holds.handled⟩
  | false =>
      exact ⟨holds.toServer, holds.held, fun _ stands => (by cases stands),
        holds.handled⟩

/-- The next held packet is looked for. -/
theorem drain
    (holds : AllCarry server toServer) :
    AllCarry server.drain toServer := by
  unfold ServerSession.drain
  dsimp only
  split
  · exact ⟨holds.toServer, holds.held, fun _ stands => (by cases stands),
      holds.handled⟩
  next frame found =>
    refine ⟨holds.toServer,
      fun other member => holds.held other (List.mem_of_mem_filter member),
      fun other stands => ?_, holds.handled⟩
    cases stands
    exact holds.held frame (List.mem_of_find?_eq_some found)

/-- The server session and the network keep it. -/
theorem networkStep
    [DecidableEq Payload]
    {config : Connection.Config}
    {state next : Connection.State (Option Payload)}
    {label : Connection.Label (Option Payload)}
    (holds : AllCarry state.server state.toServer)
    (network : isNetworkStep label = true)
    (moves : Connection.step config state label = some next) :
    AllCarry next.server next.toServer := by
  cases label with
  | client label => cases network
  | deliverReply reply => cases network
  | deliver frame =>
      simp only [Connection.step, Option.ite_none_right_eq_some,
        Option.some.injEq] at moves
      obtain ⟨⟨idle, inFlight⟩, rfl⟩ := moves
      exact (holds.processByPacketType idle (holds.toServer frame inFlight)).mono
        fun _ => List.mem_of_mem_erase
  | handle frame result =>
      simp only [Connection.step, Option.ite_none_right_eq_some,
        Option.some.injEq] at moves
      obtain ⟨stands, rfl⟩ := moves
      exact holds.processPacket stands result
  | sendReply packetSequence thenDrain sent =>
      cases sent with
      | true =>
          simp only [Connection.step, Option.ite_none_right_eq_some,
            Option.some.injEq] at moves
          obtain ⟨-, rfl⟩ := moves
          exact holds.afterReply packetSequence thenDrain
      | false =>
          simp only [Connection.step, Option.ite_none_right_eq_some,
            Option.some.injEq] at moves
          obtain ⟨-, rfl⟩ := moves
          exact holds.doDisconnect.afterReply packetSequence thenDrain
  | drain =>
      simp only [Connection.step, Option.ite_none_right_eq_some,
        Option.some.injEq] at moves
      obtain ⟨-, rfl⟩ := moves
      exact holds.drain
  | disconnectByError =>
      simp only [Connection.step, Option.ite_none_right_eq_some,
        Option.some.injEq] at moves
      obtain ⟨-, rfl⟩ := moves
      have idle : AllCarry { state.server with processing := .idle }
          state.toServer :=
        ⟨holds.toServer, holds.held, fun _ stands => (by cases stands),
          holds.handled⟩
      exact idle.doDisconnect
  | loseFrame frame =>
      simp only [Connection.step, Option.ite_none_right_eq_some,
        Option.some.injEq] at moves
      obtain ⟨-, rfl⟩ := moves
      exact holds.mono fun _ => List.mem_of_mem_erase
  | duplicateFrame frame =>
      simp only [Connection.step, Option.ite_none_right_eq_some,
        Option.some.injEq] at moves
      obtain ⟨inFlight, rfl⟩ := moves
      refine holds.mono fun other member => ?_
      rcases List.mem_cons.mp member with rfl | old
      · exact inFlight
      · exact old
  | loseReply reply | duplicateReply reply =>
      simp only [Connection.step, Option.ite_none_right_eq_some,
        Option.some.injEq] at moves
      obtain ⟨-, rfl⟩ := moves
      exact holds

end AllCarry

/-! ## The invariant of the bot -/

/-- The packet that a call works on. -/
def Call.frame? : BotTester.RudpSession.Call Payload →
    Option (ClientFrame (Option Payload))
  | .idle => none
  | .encoded frame | .stored frame => some frame

/-- The packet is one of the bot. -/
def Genuine
    (sent : List (Option Payload)) (frame : ClientFrame (Option Payload)) :
    Prop :=
  ValidFrame sent frame ∧ Carries frame

theorem Genuine.append
    {sent : List (Option Payload)} {frame : ClientFrame (Option Payload)}
    (genuine : Genuine sent frame) (later : List (Option Payload)) :
    Genuine (sent ++ later) frame :=
  ⟨genuine.1.append later, genuine.2⟩

/-- Everything that the bot keeps is its own. -/
structure BotInvariant (bot : Session Payload) : Prop where
  length_eq : bot.isDisposed = false →
    bot.lastSendSequence.toNat = bot.sent.length
  small : bot.sent.length ≤ 2 ^ 63
  calls : ∀ call frame, Call.frame? (bot.calls call) = some frame →
    Genuine bot.sent frame
  infos : ∀ packetSequence info, bot.infos packetSequence = some info →
    Genuine bot.sent info.sentBuffer

/-- What a step of the bot does, as far as the connection notices it. -/
structure BotOutcome
    (bot next : Session Payload)
    (enqueued : List (ClientFrame (Option Payload))) : Prop where
  holds : BotInvariant next
  sent : ∃ later, next.sent = bot.sent ++ later
  enqueued : ∀ frame ∈ enqueued, Genuine next.sent frame
  /-- Only what a reply has named is dropped. -/
  dropped : ∀ packetSequence ∈ next.dropped,
    packetSequence ∈ bot.dropped ∨
      replied bot.receiver = some packetSequence
  /-- The receive task takes no reply by itself. -/
  receiver : ∀ packetSequence, replied next.receiver = some packetSequence →
    replied bot.receiver = some packetSequence

namespace BotInvariant

variable {bot next : Session Payload}

/-- A sequence is taken. -/
theorem length_next
    (holds : BotInvariant bot)
    (running : bot.isDisposed = false)
    (bounded : bot.sent.length < 2 ^ 63) :
    (bot.lastSendSequence + 1).toNat = bot.sent.length + 1 := by
  have length_eq := holds.length_eq running
  rw [BitVec.toNat_add, length_eq]
  exact Nat.mod_eq_of_lt (by
    change bot.sent.length + 1 < 2 ^ 64
    omega)

/-- A call moves on with a packet of the bot, or ends. -/
theorem calls_update
    (holds : BotInvariant bot)
    (call : Nat) {moved : BotTester.RudpSession.Call Payload}
    (genuine : ∀ frame, Call.frame? moved = some frame →
      Genuine bot.sent frame)
    (other : Nat) (frame : ClientFrame (Option Payload))
    (works :
      Call.frame? (Function.update bot.calls call moved other) = some frame) :
    Genuine bot.sent frame := by
  rw [Function.update_apply] at works
  split at works
  · exact genuine frame works
  · exact holds.calls other frame works

/-- An object changes, but not what it sends. -/
theorem infos_update
    (holds : BotInvariant bot)
    (packetSequence : PacketSequence)
    {changed : Option (BotTester.RudpSession.SendPacketInfo Payload)}
    (genuine : ∀ info, changed = some info →
      Genuine bot.sent info.sentBuffer)
    (other : PacketSequence)
    (info : BotTester.RudpSession.SendPacketInfo Payload)
    (found :
      Function.update bot.infos packetSequence changed other = some info) :
    Genuine bot.sent info.sentBuffer := by
  rw [Function.update_apply] at found
  split at found
  · exact genuine info found
  · exact holds.infos other info found

/-- A step that numbers nothing and sends nothing. -/
theorem quiet
    (later : BotInvariant next)
    (sent : next.sent = bot.sent)
    (dropped : next.dropped = bot.dropped)
    (receiver : ∀ packetSequence,
      replied next.receiver = some packetSequence →
        replied bot.receiver = some packetSequence) :
    BotOutcome bot next [] where
  holds := later
  sent := ⟨[], by rw [sent, List.append_nil]⟩
  enqueued := by simp
  dropped packetSequence member := .inl (dropped ▸ member)
  receiver := receiver

/-- What is handed to the network is a packet of the bot. -/
theorem genuine_transmit
    {sent : List (Option Payload)} {frame : ClientFrame (Option Payload)}
    (genuine : Genuine sent frame) (outcome : SendOutcome)
    (other : ClientFrame (Option Payload))
    (member : other ∈ transmit frame outcome) :
    Genuine sent other := by
  unfold transmit at member
  split at member
  · obtain rfl := List.mem_singleton.mp member
    exact genuine
  · cases member

/-- Every bounded step of the bot on its own keeps its invariant. -/
theorem sessionStep
    {label : SessionLabel Payload}
    {enqueued : List (ClientFrame (Option Payload))}
    (holds : BotInvariant bot)
    (own : isOwnStep label = true)
    (bounded : (Label.bot label).takesSequence = true →
      bot.sent.length < 2 ^ 63)
    (moves :
      BotTester.RudpSession.sessionStep bot label = some (next, enqueued)) :
    BotOutcome bot next enqueued := by
  simp only [BotTester.RudpSession.sessionStep,
    Option.ite_none_left_eq_some, Bool.not_eq_true] at moves
  obtain ⟨running, moves⟩ := moves
  cases label with
  | allocate call payload =>
      have below := bounded rfl
      have next_eq := holds.length_next running below
      dsimp only at moves
      split at moves
      · cases moves
        refine
          { holds :=
              { length_eq := fun _ => by
                  rw [next_eq, List.length_append, List.length_singleton]
                small := by
                  rw [List.length_append, List.length_singleton]
                  omega
                calls := ?_
                infos := fun packetSequence info found =>
                  (holds.infos packetSequence info found).append _ }
            sent := ⟨[some payload], rfl⟩
            enqueued := by simp
            dropped := fun _ member => .inl member
            receiver := fun _ => id }
        intro other frame works
        dsimp only at works
        rw [Function.update_apply] at works
        split at works
        · cases works
          refine ⟨⟨by rw [next_eq]; omega, ?_⟩, rfl⟩
          change (bot.sent ++ [some payload])[
            (bot.lastSendSequence + 1).toNat - 1]? = some (some payload)
          rw [next_eq]
          simp
        · exact (holds.calls other frame works).append _
      · cases moves
  | enqueueSendBuffer call now =>
      dsimp only at moves
      split at moves
      next frame stands =>
        cases moves
        have genuine := holds.calls call frame (by rw [stands]; rfl)
        exact quiet
          { holds with
            calls := holds.calls_update call fun other same => by
              cases same
              exact genuine
            infos := holds.infos_update frame.packetSequence
              fun info same => by
                cases same
                exact genuine } rfl rfl fun _ => id
      next => cases moves
  | sendDatagram call outcome =>
      dsimp only at moves
      split at moves
      next frame stands =>
        cases moves
        have genuine := holds.calls call frame (by rw [stands]; rfl)
        exact
          { holds :=
              { holds with
                calls := holds.calls_update call fun other same => by
                  cases same }
            sent := ⟨[], (List.append_nil _).symm⟩
            enqueued := genuine_transmit genuine outcome
            dropped := fun _ member => .inl member
            receiver := fun _ => id }
      next => cases moves
  | onSendReply packetSequence => cases own
  | markAckReceived now =>
      dsimp only at moves
      split at moves
      next packetSequence stands =>
        cases moves
        refine quiet { holds with infos := ?_ } rfl rfl fun other same => ?_
        · intro other info found
          dsimp only at found
          split at found
          · refine holds.infos_update packetSequence ?_ other info found
            intro changed same
            obtain ⟨before, exists_, rfl⟩ := Option.map_eq_some_iff.mp same
            have genuine := holds.infos packetSequence before exists_
            unfold SendPacketInfo.markAckReceived
            split <;> exact genuine
          · exact holds.infos other info found
        · rw [stands]
          exact same
      next => cases moves
  | removeAndGetSendBuffer =>
      dsimp only at moves
      split at moves
      next packetSequence stands =>
        cases moves
        refine
          { holds := { holds with }
            sent := ⟨[], (List.append_nil _).symm⟩
            enqueued := by simp
            dropped := fun other member => ?_
            receiver := fun other same => by cases same }
        dsimp only at member
        split at member
        · rcases List.mem_cons.mp member with rfl | old
          · exact .inr (by rw [stands]; rfl)
          · exact .inl old
        · exact .inl member
      next => cases moves
  | tick now =>
      simp only [Option.ite_none_right_eq_some, Option.some.injEq,
        Prod.mk.injEq] at moves
      obtain ⟨-, rfl, rfl⟩ := moves
      exact quiet { holds with } rfl rfl fun _ => id
  | getAllSendPacketInfos =>
      dsimp only at moves
      split at moves
      · cases moves
        exact quiet { holds with } rfl rfl fun _ => id
      · cases moves
  | isRetransmissionTime =>
      dsimp only at moves
      split at moves
      · obtain ⟨info, -, same⟩ := Option.map_eq_some_iff.mp moves
        cases same
        exact quiet { holds with } rfl rfl fun _ => id
      · cases moves
  | examine =>
      dsimp only at moves
      split at moves
      next now packetSequence remaining _ =>
        obtain ⟨info, found, same⟩ := Option.map_eq_some_iff.mp moves
        split at same
        · cases same
          exact quiet { holds with } rfl rfl fun _ => id
        split at same
        · cases same
          exact quiet { holds with } rfl rfl fun _ => id
        · cases same
          exact quiet
            { holds with
              infos := holds.infos_update packetSequence
                fun changed same => by
                  cases same
                  exact holds.infos packetSequence info found }
            rfl rfl fun _ => id
      next => cases moves
  | containsPacket =>
      dsimp only at moves
      split at moves
      · cases moves
        exact quiet { holds with } rfl rfl fun _ => id
      · cases moves
  | resend outcome =>
      dsimp only at moves
      split at moves
      next now packetSequence remaining _ =>
        obtain ⟨info, found, same⟩ := Option.map_eq_some_iff.mp moves
        cases same
        exact
          { holds := { holds with }
            sent := ⟨[], (List.append_nil _).symm⟩
            enqueued :=
              genuine_transmit (holds.infos packetSequence info found) outcome
            dropped := fun _ member => .inl member
            receiver := fun _ => id }
      next => cases moves
  | finish =>
      dsimp only at moves
      split at moves
      · cases moves
        exact quiet { holds with } rfl rfl fun _ => id
      · cases moves
  | disconnectAsync byRetransmission =>
      have below := bounded rfl
      have next_eq := holds.length_next running below
      have later : BotInvariant
          { bot with
            lastSendSequence := bot.lastSendSequence + 1
            sent := bot.sent ++ [none]
            disconnectSent := true } :=
        { length_eq := fun _ => by
            rw [next_eq, List.length_append, List.length_singleton]
          small := by
            rw [List.length_append, List.length_singleton]
            omega
          calls := fun call frame works =>
            (holds.calls call frame works).append _
          infos := fun packetSequence info found =>
            (holds.infos packetSequence info found).append _ }
      dsimp only at moves
      split at moves
      · cases moves
        exact
          { holds := later
            sent := ⟨[none], rfl⟩
            enqueued := by simp
            dropped := fun _ member => .inl member
            receiver := fun _ => id }
      · cases moves
        exact
          { holds := { later with }
            sent := ⟨[none], rfl⟩
            enqueued := by simp
            dropped := fun _ member => .inl member
            receiver := fun _ => id }
      · cases moves
  | cleanup =>
      cases moves
      exact quiet
        { holds with length_eq := fun running => by cases running }
        rfl rfl fun _ => id

end BotInvariant

/-! ## The invariant of the connection -/

/-- The server session and the network leave the client alone. -/
theorem client_networkStep
    [DecidableEq Payload]
    {config : Connection.Config}
    {state next : Connection.State Payload} {label : Connection.Label Payload}
    (network : isNetworkStep label = true)
    (moves : Connection.step config state label = some next) :
    next.client = state.client := by
  cases label with
  | client label => cases network
  | deliverReply reply => cases network
  | sendReply packetSequence thenDrain sent =>
      cases sent <;>
        simp only [Connection.step, Option.ite_none_right_eq_some,
          Option.some.injEq] at moves <;>
        obtain ⟨-, rfl⟩ := moves <;> rfl
  | _ =>
      simp only [Connection.step, Option.ite_none_right_eq_some,
        Option.some.injEq] at moves
      obtain ⟨-, rfl⟩ := moves
      rfl

/-- The connection keeps its invariant with the bot as its client, and
everything on the way to a handler has a payload. -/
structure Invariant (state : State Payload) : Prop where
  bot : BotInvariant state.bot
  connection : Connection.Invariant state.asConnection
  carry : AllCarry state.server state.toServer

namespace Invariant

variable {state : State Payload}

/-- The bot appears as a valid client. -/
theorem asClient_holds
    {bot : Session Payload} (holds : BotInvariant bot) :
    ClientInvariant (asClient bot) where
  length_eq := by
    have small := holds.small
    change (BitVec.ofNat 64 bot.sent.length).toNat = bot.sent.length
    rw [BitVec.toNat_ofNat]
    exact Nat.mod_eq_of_lt (by omega)
  small := holds.small
  calls _ := trivial
  pending := by simp [asClient]
  map := by simp [asClient]
  receiver := by
    simp only [asClient]
    split <;> trivial
  retransmission := by simp [asClient]

/-- The bot has its CONNECT packet encoded. -/
theorem bot_created (sessionId : SessionIdType) :
    BotInvariant (Session.created sessionId : Session Payload) where
  length_eq _ := rfl
  small := by simp [Session.created]
  calls := by
    intro call frame works
    simp only [Session.created, Function.update_apply] at works
    split at works
    · cases works
      exact ⟨rfl, trivial⟩
    · cases works
  infos := by simp [Session.created]

/-- Nothing has been sent yet. -/
theorem initial (config : Connection.Config) :
    Invariant (BotConnection.initial config : State Payload) where
  bot := bot_created config.sessionId
  connection :=
    { Connection.invariant_initial config with
      client := asClient_holds (bot_created config.sessionId)
      toServer := by simp [BotConnection.initial, State.asConnection]
      receiver := by
        intro packetSequence stored
        cases stored
      dropped := by
        simp [BotConnection.initial, State.asConnection, asClient,
          Session.created] }
  carry :=
    { toServer := by simp [BotConnection.initial]
      held := by simp [BotConnection.initial, ServerSession.reserved]
      handling := by simp [BotConnection.initial, ServerSession.reserved]
      handled := by simp [BotConnection.initial, ServerSession.reserved] }

/-- The client that stands for the bot works on the bot's reply. -/
theorem windowStored_iff
    {bot : Session Payload} {packetSequence : PacketSequence} :
    (asClient bot).receiver = .windowStored packetSequence ↔
      replied bot.receiver = some packetSequence := by
  simp only [asClient]
  cases replied bot.receiver <;> simp

/-- The bot makes a step. -/
theorem botStep
    {bot : Session Payload}
    {enqueued : List (ClientFrame (Option Payload))}
    {toClient : List SendReply}
    (holds : Invariant state)
    (outcome : BotOutcome state.bot bot enqueued)
    (fewer : ∀ reply ∈ toClient, reply ∈ state.toClient) :
    Invariant
      { state with bot, toServer := enqueued ++ state.toServer, toClient } where
  bot := outcome.holds
  connection :=
    { client := asClient_holds outcome.holds
      server := by
        obtain ⟨later, sent_eq⟩ := outcome.sent
        change ServerInvariant bot.sent state.server
        rw [sent_eq]
        exact holds.connection.server.append later
      toServer := by
        intro frame member
        change ValidFrame bot.sent frame
        rcases List.mem_append.mp member with new | old
        · exact (outcome.enqueued frame new).1
        · obtain ⟨later, sent_eq⟩ := outcome.sent
          rw [sent_eq]
          exact (holds.connection.toServer frame old).append later
      toClient := fun reply member =>
        holds.connection.toClient reply (fewer reply member)
      receiver := fun packetSequence stored =>
        holds.connection.receiver packetSequence
          (windowStored_iff.mpr
            (outcome.receiver packetSequence (windowStored_iff.mp stored)))
      dropped := fun packetSequence member =>
        (outcome.dropped packetSequence member).elim
          (holds.connection.dropped packetSequence)
          fun named => holds.connection.receiver packetSequence
            (windowStored_iff.mpr named) }
  carry :=
    { holds.carry with
      toServer := by
        intro frame member
        rcases List.mem_append.mp member with new | old
        · exact (outcome.enqueued frame new).2
        · exact holds.carry.toServer frame old }

/-- A reply reaches the bot. -/
theorem deliverReply
    {reply : SendReply} {bot : Session Payload}
    {enqueued : List (ClientFrame (Option Payload))}
    (holds : Invariant state)
    (inFlight : reply ∈ state.toClient)
    (moves :
      BotTester.RudpSession.sessionStep state.bot
        (.onSendReply reply.packetSequence) = some (bot, enqueued)) :
    Invariant
      { state with bot, toClient := state.toClient.erase reply } := by
  simp only [BotTester.RudpSession.sessionStep,
    Option.ite_none_left_eq_some, Option.ite_none_right_eq_some,
    Option.some.injEq, Prod.mk.injEq] at moves
  obtain ⟨-, -, rfl, rfl⟩ := moves
  have fewer (other : SendReply)
      (member : other ∈ state.toClient.erase reply) :
      other ∈ state.toClient :=
    List.mem_of_mem_erase member
  split
  · have outcome : BotOutcome state.bot state.bot [] :=
      BotInvariant.quiet holds.bot rfl rfl fun _ => id
    exact holds.botStep outcome fewer
  · refine
      { bot := { holds.bot with }
        connection := ?_
        carry := holds.carry }
    exact
      { holds.connection with
        client := asClient_holds { holds.bot with }
        toClient := fun other member =>
          holds.connection.toClient other (fewer other member)
        receiver := fun packetSequence stored => by
          have named := windowStored_iff.mp stored
          cases named
          exact holds.connection.toClient reply inFlight }

/-- The server session or the network makes a step. -/
theorem networkStep
    [DecidableEq Payload]
    {config : Connection.Config}
    {label : Connection.Label (Option Payload)}
    {next : Connection.State (Option Payload)}
    (holds : Invariant state)
    (network : isNetworkStep label = true)
    (moves : Connection.step config state.asConnection label = some next) :
    Invariant
      { state with
        server := next.server
        toServer := next.toServer
        toClient := next.toClient } := by
  have bounded : Connection.SendsBounded state.asConnection label := by
    cases label with
    | client label => cases network
    | _ => nofun
  have kept := Connection.invariant_step holds.connection bounded moves
  have same : next.client = asClient state.bot :=
    client_networkStep network moves
  refine
    { bot := holds.bot
      connection := ?_
      carry := holds.carry.networkStep network moves }
  obtain ⟨client, server, toServer, toClient⟩ := next
  obtain rfl : client = asClient state.bot := same
  exact kept

/-- The DISCONNECT packet reaches the server session. -/
theorem deliverDisconnect
    {config : Connection.Config}
    (holds : Invariant state)
    (idle : state.server.processing = .idle) :
    Invariant
      { state with
        server :=
          if state.server.canProcessPacket config.clientAddress then
            state.server.doDisconnect
          else state.server } := by
  split
  next mine =>
    simp only [ServerSession.canProcessPacket, decide_eq_true_eq] at mine
    have connected : state.server.clientAddr ≠ .zero := by
      rw [mine.1]
      exact config.clientAddress_ne
    have progress : Progress state.bot.sent
        { state.server with nowInReleaseThread := true } := by
      rw [Progress, idle]
      exact .inl rfl
    have server : ServerInvariant state.bot.sent state.server.doDisconnect :=
      ServerInvariant.doDisconnect holds.connection.server connected progress
    have frame := ServerInvariant.doDisconnect_eq
      holds.connection.server.released
    have grows : ∀ packetSequence ∈ state.server.succeeded,
        packetSequence ∈ state.server.doDisconnect.succeeded := by
      intro packetSequence member
      exact (congrArg ServerSession.succeeded frame).symm ▸ member
    exact
      { bot := holds.bot
        connection := holds.connection.server_step server grows fun _ => id
        carry := holds.carry.doDisconnect }
  next => exact holds

/-- Every bounded step keeps the invariant. -/
theorem step
    [DecidableEq Payload]
    {config : Connection.Config} {next : State Payload}
    {label : Label Payload}
    (holds : Invariant state)
    (bounded : SequencesBounded state label)
    (moves : BotConnection.step config state label = some next) :
    Invariant next := by
  cases label with
  | bot label =>
      simp only [BotConnection.step, Option.ite_none_right_eq_some,
        Option.map_eq_some_iff] at moves
      obtain ⟨own, ⟨bot, enqueued⟩, moved, rfl⟩ := moves
      exact holds.botStep (holds.bot.sessionStep own bounded moved)
        fun _ => id
  | deliverReply reply =>
      simp only [BotConnection.step, Option.ite_none_right_eq_some,
        Option.map_eq_some_iff] at moves
      obtain ⟨inFlight, ⟨bot, enqueued⟩, moved, rfl⟩ := moves
      exact holds.deliverReply inFlight moved
  | network label =>
      simp only [BotConnection.step, Option.ite_none_right_eq_some,
        Option.map_eq_some_iff] at moves
      obtain ⟨network, after, moved, rfl⟩ := moves
      exact holds.networkStep network moved
  | deliverDisconnect =>
      simp only [BotConnection.step, Option.ite_none_right_eq_some,
        Option.some.injEq] at moves
      obtain ⟨⟨-, idle⟩, rfl⟩ := moves
      exact holds.deliverDisconnect idle

/-- The invariant holds in every run of at most `2 ^ 63` sequences. -/
theorem of_reachable
    [DecidableEq Payload]
    {config : Connection.Config}
    (reached : (system config).GuardedReachable SequencesBounded state) :
    Invariant state := by
  refine reached.invariant ?_ ?_
  · rintro _ rfl
    exact initial config
  · intro before label after _ holds bounded moves
    exact holds.step bounded moves

/-- The invariant gives the promise. -/
theorem reliable
    (holds : Invariant state) :
    Reliable state where
  in_order := by
    have inside : state.server.handlerLog ∈
        Set.range (List.map (some : Payload → Option Payload)) := by
      rw [Set.range_list_map]
      intro payload member
      obtain ⟨content, rfl⟩ :=
        Option.isSome_iff_exists.mp (holds.carry.handled payload member)
      exact ⟨content, rfl⟩
    obtain ⟨handled, log⟩ := inside
    refine ⟨handled, log.symm, ?_⟩
    have first : state.server.handlerLog =
        state.bot.sent.take state.server.handlerLog.length :=
      holds.connection.server.log_eq
    rw [log, first]
    exact List.take_prefix _ _
  replies := holds.connection.toClient
  dropped packetSequence member data :=
    holds.connection.server.succeeded_le packetSequence
      (holds.connection.dropped packetSequence member data)

end Invariant

/-- In every run in which a bot takes at most `2 ^ 63` sequences, the server
handles its packets in order and each once, replies are in flight only for what
has succeeded, and the bot's store drops only what was handled. -/
theorem reliable_from_bot
    [DecidableEq Payload]
    {config : Connection.Config} {state : State Payload}
    (reached : (system config).GuardedReachable SequencesBounded state) :
    Reliable state :=
  (Invariant.of_reachable reached).reliable

/-! ## A retransmission -/

/-- The bot connects; its first packet is lost, sent again and acknowledged. -/
def retransmittedPacket : List (Label Nat) :=
  let frame : DataFrame (Option Nat) := ⟨1, some 7⟩
  [.bot (.enqueueSendBuffer 0 100), .bot (.sendDatagram 0 .sent),
    .network (.deliver (.connect 0 0)), .network (.sendReply 0 false true),
    .deliverReply ⟨0, 1⟩, .bot (.markAckReceived 101),
    .bot .removeAndGetSendBuffer, .bot (.allocate 1 7),
    .bot (.enqueueSendBuffer 1 110), .bot (.sendDatagram 1 .dropped),
    .bot (.tick 131), .bot .getAllSendPacketInfos, .bot .isRetransmissionTime,
    .bot .examine, .bot (.resend .sent), .bot .finish,
    .network (.deliver (.send frame)), .network (.handle frame .succeeded),
    .network (.sendReply 1 true true), .network .drain, .deliverReply ⟨1, 1⟩,
    .bot (.markAckReceived 140), .bot .removeAndGetSendBuffer]

/-- The state after it. -/
def retransmitted : State Nat :=
  ((system Connection.narrowConfig).run (initial Connection.narrowConfig)
    retransmittedPacket).getD (initial Connection.narrowConfig)

theorem guardedRun_retransmittedPacket :
    (system Connection.narrowConfig).guardedRun SequencesBounded
      (initial Connection.narrowConfig) retransmittedPacket =
        some retransmitted := rfl

example :
    retransmitted.server.handlerLog = [some 7] ∧
      retransmitted.bot.dropped = [1, 0] ∧
      retransmitted.bot.transmissions = [1, 1, 0] :=
  ⟨rfl, rfl, rfl⟩

theorem reliable_from_bot_retransmitted : Reliable retransmitted :=
  reliable_from_bot
    (TransitionSystem.GuardedReachable.guardedRun (.initial rfl)
      guardedRun_retransmittedPacket)

end BotConnection
end MultiSocketRudp
