import MultiSocketRudp.Server.ReceivePath

/-!
# The invariant of the receive path

The packets that reach a session carry the payload of their sequence, relative
to the list of payloads that the client has passed to `SendPacket`.  The session
expects the sequence behind the handled ones, and every sequence up to there has
succeeded, so that an older packet may be acknowledged again.

Sequences are compared by their signed 64-bit difference, which is exact for at
most `2 ^ 63` payloads.
-/

namespace MultiSocketRudp
namespace ReceivePath

open SerialNumber

variable {Payload : Type}

/-! ## Valid packets -/

/-- The frame carries the payload of its sequence. -/
def ValidData (sent : List Payload) (frame : DataFrame Payload) : Prop :=
  0 < frame.packetSequence.toNat ∧
    sent[frame.packetSequence.toNat - 1]? = some frame.payload

/-- Packets of the client carry what belongs to their sequence. -/
def ValidFrame (sent : List Payload) : ClientFrame Payload → Prop
  | .connect packetSequence _ => packetSequence = loginPacketSequence
  | .send frame => ValidData sent frame

theorem ValidData.le_length
    {sent : List Payload} {frame : DataFrame Payload}
    (valid : ValidData sent frame) :
    frame.packetSequence.toNat ≤ sent.length := by
  have inside := (List.getElem?_eq_some_iff.mp valid.2).1
  have positive := valid.1
  omega

theorem ValidData.append
    {sent : List Payload} {frame : DataFrame Payload}
    (valid : ValidData sent frame)
    (later : List Payload) :
    ValidData (sent ++ later) frame := by
  refine ⟨valid.1, ?_⟩
  rw [List.getElem?_append_left (List.getElem?_eq_some_iff.mp valid.2).1]
  exact valid.2

theorem ValidFrame.append
    {sent : List Payload} {frame : ClientFrame Payload}
    (valid : ValidFrame sent frame)
    (later : List Payload) :
    ValidFrame (sent ++ later) frame := by
  cases frame with
  | connect packetSequence sessionId => exact valid
  | send frame => exact ValidData.append valid later

/-! ## The invariant of the session -/

/-- Every sequence up to a count has succeeded. -/
def Covers (succeeded : List PacketSequence) (count : Nat) : Prop :=
  ∀ packetSequence : PacketSequence,
    0 < packetSequence.toNat →
    packetSequence.toNat ≤ count →
    packetSequence ∈ succeeded

/-- The session expects the sequence behind the handled ones, all of which have
succeeded. -/
def CaughtUp (session : ServerSession Payload) : Prop :=
  session.nextRecvPacketSequence.toNat = session.handlerLog.length + 1 ∧
    Covers session.succeeded session.handlerLog.length

/-- What a connected session is doing agrees with what it has handled.  After an
error nothing is promised, but nothing is handled any more either. -/
def Progress (sent : List Payload) (session : ServerSession Payload) : Prop :=
  match session.processing with
  | .idle => session.nowInReleaseThread = true ∨ CaughtUp session
  | .handling frame =>
      session.nextRecvPacketSequence.toNat =
          session.handlerLog.length + 2 ∧
        frame.packetSequence.toNat = session.handlerLog.length + 1 ∧
        ValidData sent frame ∧
        Covers session.succeeded session.handlerLog.length
  | .replying packetSequence _ =>
      CaughtUp session ∧
        (packetSequence ≠ loginPacketSequence →
          packetSequence ∈ session.succeeded)
  | .draining => CaughtUp session
  | .failing => True

/-- The invariant of the session, relative to the payloads of the client. -/
structure ServerInvariant
    (sent : List Payload) (session : ServerSession Payload) : Prop where
  /-- The handlers were called with the first payloads in order. -/
  log_eq : session.handlerLog = sent.take session.handlerLog.length
  /-- What has succeeded was handled. -/
  succeeded_le : ∀ packetSequence ∈ session.succeeded,
    packetSequence.toNat ≤ session.handlerLog.length
  /-- Held packets are valid. -/
  holding : ∀ frame ∈ session.recvHoldingPackets, ValidData sent frame
  /-- The release flag is up whenever the state is RELEASING. -/
  released : session.state ≠ .disconnected ∧
    (session.state = .releasing → session.nowInReleaseThread = true)
  /-- A reserved session has no client yet. -/
  fresh : session.state = .reserved → session.clientAddr = .zero
  /-- Without a client nothing has been handled. -/
  untouched : session.clientAddr = .zero →
    session.processing = .idle ∧ session.handlerLog = []
  /-- With a client, the session follows its packets. -/
  progress : session.clientAddr ≠ .zero → Progress sent session

namespace ServerInvariant

variable {sent : List Payload} {session : ServerSession Payload}

theorem log_length_le
    (holds : ServerInvariant sent session) :
    session.handlerLog.length ≤ sent.length := by
  have lengths := congrArg List.length holds.log_eq
  rw [List.length_take] at lengths
  omega

/-- More payloads of the client do not disturb the session. -/
theorem append
    (holds : ServerInvariant sent session)
    (later : List Payload) :
    ServerInvariant (sent ++ later) session where
  log_eq := by
    rw [List.take_append_of_le_length holds.log_length_le]
    exact holds.log_eq
  succeeded_le := holds.succeeded_le
  holding frame member := (holds.holding frame member).append later
  released := holds.released
  fresh := holds.fresh
  untouched := holds.untouched
  progress connected := by
    have progress := holds.progress connected
    unfold Progress at progress ⊢
    split at progress
    case h_2 =>
      obtain ⟨next, current, valid, covers⟩ := progress
      exact ⟨next, current, valid.append later, covers⟩
    all_goals exact progress

/-- A session that does something is connected. -/
theorem connected_of_processing
    (holds : ServerInvariant sent session)
    {processing : Processing Payload}
    (stands : session.processing = processing)
    (busy : processing ≠ .idle) :
    session.clientAddr ≠ .zero := by
  intro address
  have idle := (holds.untouched address).1
  exact busy (stands ▸ idle)

/-- A disconnect on the receive-logic thread raises the release flag. -/
theorem doDisconnect_eq
    {session : ServerSession Payload}
    (released : session.state ≠ .disconnected ∧
      (session.state = .releasing → session.nowInReleaseThread = true)) :
    session.doDisconnect =
      { session with state := .releasing, nowInReleaseThread := true } := by
  unfold ServerSession.doDisconnect SessionState.tryTransitionToReleasing
  cases state : session.state with
  | disconnected => exact absurd state released.1
  | reserved => rfl
  | connected => rfl
  | releasing =>
      obtain ⟨sessionId, state, flag⟩ := session
      obtain rfl := state
      obtain rfl : flag = true := released.2 rfl
      rfl

/-- A disconnect keeps everything but the state and the flag. -/
theorem doDisconnect
    (holds : ServerInvariant sent session)
    (connected : session.clientAddr ≠ .zero)
    (progress : Progress sent { session with nowInReleaseThread := true }) :
    ServerInvariant sent session.doDisconnect := by
  rw [doDisconnect_eq holds.released]
  exact
    { holds with
      released := ⟨by simp, fun _ => rfl⟩
      fresh := by simp
      untouched := fun address => absurd address connected
      progress := fun _ => progress }

/-- An older sequence of the client has succeeded. -/
theorem succeeded_of_older
    (holds : ServerInvariant sent session)
    (small : sent.length ≤ 2 ^ 63)
    (caughtUp : CaughtUp session)
    {frame : DataFrame Payload}
    (valid : ValidData sent frame)
    (older :
      signedDiff frame.packetSequence session.nextRecvPacketSequence < 0) :
    frame.packetSequence ∈ session.succeeded := by
  obtain ⟨next_eq, covers⟩ := caughtUp
  have positive := valid.1
  have frame_le := valid.le_length
  have log_le := holds.log_length_le
  rw [signedDiff_eq_sub (by norm_num; omega) (by norm_num; omega)] at older
  exact covers frame.packetSequence positive (by omega)

/-- The expected sequence moves over the current packet. -/
theorem next_succ
    (holds : ServerInvariant sent session)
    (small : sent.length ≤ 2 ^ 63)
    (caughtUp : CaughtUp session) :
    (session.nextRecvPacketSequence + 1).toNat =
      session.handlerLog.length + 2 := by
  have log_le := holds.log_length_le
  rw [BitVec.toNat_add, caughtUp.1]
  exact Nat.mod_eq_of_lt (by
    change session.handlerLog.length + 1 + 1 < 2 ^ 64
    omega)

/-- The expected packet is handed to its handler. -/
theorem handling
    (holds : ServerInvariant sent session)
    (small : sent.length ≤ 2 ^ 63)
    (connected : session.clientAddr ≠ .zero)
    (caughtUp : CaughtUp session)
    {frame : DataFrame Payload}
    (valid : ValidData sent frame)
    (expected : frame.packetSequence = session.nextRecvPacketSequence)
    {held : List (DataFrame Payload)}
    (holding : ∀ frame ∈ held, ValidData sent frame) :
    ServerInvariant sent
      { session with
        recvHoldingPackets := held
        nextRecvPacketSequence := session.nextRecvPacketSequence + 1
        processing := .handling frame } :=
  { holds with
    holding := holding
    untouched := fun address => absurd address connected
    progress := fun _ =>
      ⟨holds.next_succ small caughtUp, by rw [expected, caughtUp.1], valid,
        caughtUp.2⟩ }

/-- Replying on behalf of what has succeeded. -/
theorem replying
    (holds : ServerInvariant sent session)
    (connected : session.clientAddr ≠ .zero)
    (caughtUp : CaughtUp session)
    {packetSequence : PacketSequence}
    (succeeded :
      packetSequence ≠ loginPacketSequence →
        packetSequence ∈ session.succeeded)
    (thenDrain : Bool) :
    ServerInvariant sent
      { session with processing := .replying packetSequence thenDrain } :=
  { holds with
    untouched := fun address => absurd address connected
    progress := fun _ => ⟨caughtUp, succeeded⟩ }

/-- `OnReceive` on a valid packet. -/
theorem onReceive
    (holds : ServerInvariant sent session)
    (small : sent.length ≤ 2 ^ 63)
    (connected : session.clientAddr ≠ .zero)
    (caughtUp : CaughtUp session)
    {frame : DataFrame Payload}
    (valid : ValidData sent frame) :
    ServerInvariant sent (session.onReceive frame) := by
  unfold ServerSession.onReceive
  simp only
  split
  case isTrue older =>
    exact holds.replying connected caughtUp
      (fun _ => holds.succeeded_of_older small caughtUp valid older) false
  split
  case isTrue same =>
    exact holds.handling small connected caughtUp valid
      (eq_of_signedDiff_eq_zero same) holds.holding
  split
  · exact holds
  split
  · exact
      { holds with
        untouched := fun address => absurd address connected
        progress := fun _ => trivial }
  · refine { holds with holding := fun other member => ?_ }
    rcases List.mem_cons.mp member with rfl | old
    · exact valid
    · exact holds.holding other old

/-- `OnRecvPacket` on a valid packet. -/
theorem onRecvPacket
    (holds : ServerInvariant sent session)
    (small : sent.length ≤ 2 ^ 63)
    (connected : session.clientAddr ≠ .zero)
    (caughtUp : CaughtUp session)
    {frame : DataFrame Payload}
    (valid : ValidData sent frame) :
    ServerInvariant sent (session.onRecvPacket frame) := by
  unfold ServerSession.onRecvPacket
  split
  case isTrue older =>
    exact holds.replying connected caughtUp
      (fun _ => holds.succeeded_of_older small caughtUp valid older) false
  split
  · exact holds.onReceive small connected caughtUp valid
  · exact holds

/-- `TryConnect` on an idle session. -/
theorem tryConnect
    (holds : ServerInvariant sent session)
    {clientAddress : SockaddrIn}
    (address_ne : clientAddress ≠ .zero)
    (packetSequence : PacketSequence)
    (recvSessionId : SessionIdType) :
    ServerInvariant sent
      (session.tryConnect packetSequence recvSessionId clientAddress) := by
  unfold ServerSession.tryConnect
  split
  · exact holds
  case isFalse accepted =>
    have login : packetSequence = loginPacketSequence := by
      by_contra other
      exact accepted (.inl other)
    cases state : session.state with
    | reserved =>
        have empty := (holds.untouched (holds.fresh state)).2
        simp only [SessionState.tryTransitionToConnected]
        exact
          { log_eq := holds.log_eq
            succeeded_le := holds.succeeded_le
            holding := by simp
            released := by simp
            fresh := by simp
            untouched := fun address => absurd address address_ne
            progress := fun _ => by
              refine ⟨⟨?_, ?_⟩, fun other => absurd login other⟩
              · simp [empty, loginPacketSequence]
              · intro sequence positive upTo
                simp only [empty, List.length_nil] at upTo
                omega }
    | disconnected => simpa [SessionState.tryTransitionToConnected] using holds
    | connected => simpa [SessionState.tryTransitionToConnected] using holds
    | releasing => simpa [SessionState.tryTransitionToConnected] using holds

/-- A packet that is dispatched to an idle session. -/
theorem processByPacketType
    (holds : ServerInvariant sent session)
    (small : sent.length ≤ 2 ^ 63)
    {clientAddress : SockaddrIn}
    (address_ne : clientAddress ≠ .zero)
    (idle : session.processing = .idle)
    {frame : ClientFrame Payload}
    (valid : ValidFrame sent frame) :
    ServerInvariant sent
      (session.processByPacketType clientAddress frame) := by
  cases frame with
  | connect packetSequence recvSessionId =>
      simp only [ServerSession.processByPacketType]
      split
      · exact holds
      · exact holds.tryConnect address_ne packetSequence recvSessionId
  | send frame =>
      simp only [ServerSession.processByPacketType]
      split
      · exact holds
      case isFalse notReleasing =>
        split
        case isTrue mine =>
          simp only [ServerSession.canProcessPacket, decide_eq_true_eq]
            at mine
          have connected : session.clientAddr ≠ .zero := mine.1 ▸ address_ne
          have progress := holds.progress connected
          rw [Progress, idle] at progress
          exact holds.onRecvPacket small connected
            (progress.resolve_left notReleasing) valid
        · exact holds

/-- The callback on the packet being handled. -/
theorem processPacket
    (holds : ServerInvariant sent session)
    {frame : DataFrame Payload}
    (stands : session.processing = .handling frame)
    (result : HandlerResult) :
    ServerInvariant sent (session.processPacket frame result) := by
  have connected := holds.connected_of_processing stands (by simp)
  have progress := holds.progress connected
  rw [Progress, stands] at progress
  obtain ⟨next_eq, current, valid, covers⟩ := progress
  have payload : sent[session.handlerLog.length]? = some frame.payload := by
    have stored := valid.2
    rwa [current, Nat.add_sub_cancel] at stored
  have log_eq :
      session.handlerLog ++ [frame.payload] =
        sent.take (session.handlerLog ++ [frame.payload]).length := by
    rw [List.length_append, List.length_singleton, List.take_add_one, payload,
      ← holds.log_eq]
    rfl
  have grows (packetSequence : PacketSequence)
      (member : packetSequence ∈ session.succeeded) :
      packetSequence.toNat ≤
        (session.handlerLog ++ [frame.payload]).length := by
    have bound := holds.succeeded_le packetSequence member
    rw [List.length_append]
    omega
  cases result with
  | unknownPacket =>
      exact
        { holds with
          untouched := fun address => absurd address connected
          progress := fun _ => trivial }
  | failed =>
      exact
        { holds with
          log_eq := log_eq
          succeeded_le := grows
          untouched := fun address => absurd address connected
          progress := fun _ => trivial }
  | succeeded =>
      simp only [ServerSession.processPacket]
      refine
        { holds with
          log_eq := log_eq
          succeeded_le := ?_
          untouched := fun address => absurd address connected
          progress := fun _ => ⟨⟨?_, ?_⟩, fun _ => List.mem_cons_self⟩ }
      · intro packetSequence member
        rcases List.mem_cons.mp member with rfl | old
        · rw [current, List.length_append, List.length_singleton]
        · exact grows packetSequence old
      · change session.nextRecvPacketSequence.toNat = _
        rw [next_eq, List.length_append, List.length_singleton]
      · intro packetSequence positive upTo
        rw [List.length_append, List.length_singleton] at upTo
        by_cases last : packetSequence = frame.packetSequence
        · exact last ▸ List.mem_cons_self
        · have distinct :
              packetSequence.toNat ≠ frame.packetSequence.toNat :=
            fun same => last (BitVec.eq_of_toNat_eq same)
          exact List.mem_cons_of_mem _
            (covers packetSequence positive (by omega))

/-- A session that replies is connected, caught up and answers what has
succeeded. -/
theorem at_replying
    (holds : ServerInvariant sent session)
    {packetSequence : PacketSequence} {thenDrain : Bool}
    (stands : session.processing = .replying packetSequence thenDrain) :
    session.clientAddr ≠ .zero ∧
      CaughtUp session ∧
      (packetSequence ≠ loginPacketSequence →
        packetSequence ∈ session.succeeded) := by
  have connected := holds.connected_of_processing stands (by simp)
  have progress := holds.progress connected
  rw [Progress, stands] at progress
  exact ⟨connected, progress⟩

/-- After a reply the session drains or waits. -/
theorem afterReply
    (holds : ServerInvariant sent session)
    (connected : session.clientAddr ≠ .zero)
    (caughtUp : CaughtUp session)
    (packetSequence : PacketSequence)
    (thenDrain : Bool) :
    ServerInvariant sent (session.afterReply packetSequence thenDrain) := by
  unfold ServerSession.afterReply
  split
  · exact
      { holds with
        holding := fun frame member =>
          holds.holding frame (List.mem_of_mem_filter member)
        untouched := fun address => absurd address connected
        progress := fun _ => caughtUp }
  · exact
      { holds with
        untouched := fun address => absurd address connected
        progress := fun _ => .inr caughtUp }

/-- One round of the drain. -/
theorem drain
    (holds : ServerInvariant sent session)
    (small : sent.length ≤ 2 ^ 63)
    (stands : session.processing = .draining) :
    ServerInvariant sent session.drain := by
  have connected := holds.connected_of_processing stands (by simp)
  have progress := holds.progress connected
  rw [Progress, stands] at progress
  unfold ServerSession.drain
  simp only
  split
  · exact
      { holds with
        untouched := fun address => absurd address connected
        progress := fun _ => .inr progress }
  case h_2 frame found =>
    have expected := List.find?_some found
    simp only [decide_eq_true_eq] at expected
    exact holds.handling small connected progress
      (holds.holding frame (List.mem_of_find?_eq_some found)) expected
      fun other member => holds.holding other (List.mem_of_mem_filter member)

/-- After an error the session is released. -/
theorem disconnectByError
    (holds : ServerInvariant sent session)
    (stands : session.processing = .failing) :
    ServerInvariant sent session.disconnectByError := by
  have connected := holds.connected_of_processing stands (by simp)
  unfold ServerSession.disconnectByError
  rw [doDisconnect_eq]
  · exact
      { holds with
        released := ⟨by simp, fun _ => rfl⟩
        fresh := by simp
        untouched := fun address => absurd address connected
        progress := fun _ => .inl rfl }
  · exact holds.released

end ServerInvariant

end ReceivePath
end MultiSocketRudp
