import MultiSocketRudp.Server.ReceivePath

/-!
# The window that a session advertises

Packets are marked in the receive window when their handler has returned, in the
order of their sequences.  So the mark is always made at the window start, the
window moves on at once, and nothing in it is ever in use: the session
advertises its whole window in every reply.

After a failed handler the expected sequence is ahead of the window, and this no
longer holds for what is processed then.
-/

namespace MultiSocketRudp

open SerialNumber

namespace RudpReceiveWindow

/-- Nothing in the window is in use. -/
structure Clear (window : RudpReceiveWindow) : Prop where
  flags :
    window.receivedFlags = List.replicate window.windowSize.toNat false
  unused : window.usedCount = 0
  start : window.windowSize.toNat = 0 ∨
    window.startIndex < window.windowSize.toNat

namespace Clear

variable {window : RudpReceiveWindow}

theorem ofSize (recvWindowSize : Byte) (startSequence : PacketSequence) :
    Clear (.ofSize recvWindowSize startSequence) where
  flags := rfl
  unused := rfl
  start := Nat.eq_zero_or_pos _

theorem reset
    (clear : Clear window)
    (startSequence : PacketSequence) :
    Clear (window.reset startSequence) where
  flags := by
    change List.replicate window.receivedFlags.length false = _
    rw [clear.flags, List.length_replicate]
    rfl
  unused := rfl
  start := Nat.eq_zero_or_pos _

/-- A clear window is advertised whole. -/
theorem getAdvertiseWindow
    (clear : Clear window) :
    window.getAdvertiseWindow = window.windowSize := by
  rw [RudpReceiveWindow.getAdvertiseWindow, clear.unused]
  exact BitVec.sub_zero _

/-- Marking the window start moves a clear window by one. -/
theorem markReceived
    (clear : Clear window)
    (positive : 0 < window.windowSize.toNat) :
    window.markReceived window.windowStart =
      { window with
        startIndex := (window.startIndex + 1) % window.windowSize.toNat
        windowStart := window.windowStart + 1 } := by
  have inside : window.startIndex < window.windowSize.toNat :=
    clear.start.resolve_left (by omega)
  have accepted : window.canReceive window.windowStart = true := by
    simp [canReceive, positive]
  have flagged : (window.receivedFlags.set window.startIndex true).getD
      window.startIndex false = true := by
    simp [clear.flags, inside]
  have single :
      (window.receivedFlags.set window.startIndex true).count true = 1 := by
    rw [clear.flags, List.count_set (by simpa using inside)]
    simp [List.count_replicate]
  have restored : (window.receivedFlags.set window.startIndex true).set
      window.startIndex false = window.receivedFlags := by
    rw [List.set_set, clear.flags, List.set_replicate_self]
  unfold RudpReceiveWindow.markReceived
  rw [if_pos accepted]
  simp only [signedDiff_self, Int.toNat_zero, Nat.add_zero,
    Nat.mod_eq_of_lt inside]
  rw [if_neg (by simp [clear.flags, inside])]
  simp only [slideAll, single, slide, startFlag, flagged, if_true, advance,
    restored, clear.unused]
  rw [show (0 + 1 - 1 : Byte) = 0 from rfl]

end Clear

end RudpReceiveWindow

namespace ReceivePath

variable {Payload : Type}

/-- The expected sequence against the window start, by where the receive thread
stands; with the release flag up an idle session processes nothing more. -/
def Aligned (session : ServerSession Payload) : Prop :=
  match session.processing with
  | .idle => session.nowInReleaseThread = false →
      session.receiveWindow.windowStart = session.nextRecvPacketSequence
  | .handling frame =>
      0 < session.receiveWindow.windowSize.toNat ∧
        session.receiveWindow.windowStart = frame.packetSequence ∧
        session.nextRecvPacketSequence = frame.packetSequence + 1
  | .replying _ thenDrain =>
      (thenDrain = true → 0 < session.receiveWindow.windowSize.toNat) ∧
        session.receiveWindow.windowStart = session.nextRecvPacketSequence
  | .draining =>
      0 < session.receiveWindow.windowSize.toNat ∧
        session.receiveWindow.windowStart = session.nextRecvPacketSequence
  | .failing => True

/-- The receive window is clear and in step with the receive thread. -/
structure InStep
    (size : Byte) (session : ServerSession Payload) : Prop where
  size : session.receiveWindow.windowSize = size
  clear : session.receiveWindow.Clear
  aligned : Aligned session

namespace InStep

variable {size : Byte} {session next : ServerSession Payload}

theorem reserved (sessionId : SessionIdType) :
    InStep size (.reserved sessionId size : ServerSession Payload) where
  size := rfl
  clear := .ofSize size 0
  aligned _ := rfl

/-- Every reply advertises the whole window. -/
theorem reply
    (inStep : InStep size session)
    (packetSequence : PacketSequence) :
    session.reply packetSequence = ⟨packetSequence, size⟩ := by
  rw [ServerSession.reply, inStep.clear.getAdvertiseWindow, inStep.size]

/-- A release leaves the receive path alone. -/
theorem congr
    (inStep : InStep size session)
    (window : next.receiveWindow = session.receiveWindow)
    (expected : next.nextRecvPacketSequence = session.nextRecvPacketSequence)
    (processing : next.processing = session.processing)
    (released : next.nowInReleaseThread = false →
      session.nowInReleaseThread = false) :
    InStep size next where
  size := window ▸ inStep.size
  clear := window ▸ inStep.clear
  aligned := by
    have aligned := inStep.aligned
    unfold Aligned at aligned ⊢
    rw [processing, window, expected]
    split at aligned
    · exact fun unreleased => aligned (released unreleased)
    · exact aligned
    · exact aligned
    · exact aligned
    · trivial

theorem doDisconnect
    (inStep : InStep size session) :
    InStep size session.doDisconnect := by
  unfold ServerSession.doDisconnect
  split
  · exact inStep.congr rfl rfl rfl nofun
  · exact inStep.congr rfl rfl rfl id

/-- An idle session tries to connect. -/
theorem tryConnect
    (inStep : InStep size session)
    (packetSequence : PacketSequence)
    (recvSessionId : SessionIdType)
    (inClientAddr : SockaddrIn) :
    InStep size
      (session.tryConnect packetSequence recvSessionId inClientAddr) := by
  unfold ServerSession.tryConnect
  split
  · exact inStep
  · split
    · exact inStep
    · exact
        { size := inStep.size
          clear := inStep.clear.reset _
          aligned := ⟨nofun, rfl⟩ }

/-- An idle session that is not released receives a data packet. -/
theorem onRecvPacket
    (inStep : InStep size session)
    (idle : session.processing = .idle)
    (unreleased : session.nowInReleaseThread = false)
    (frame : DataFrame Payload) :
    InStep size (session.onRecvPacket frame) := by
  have start :
      session.receiveWindow.windowStart = session.nextRecvPacketSequence := by
    have aligned := inStep.aligned
    unfold Aligned at aligned
    rw [idle] at aligned
    exact aligned unreleased
  unfold ServerSession.onRecvPacket
  split
  · exact
      { inStep with
        aligned := ⟨nofun, start⟩ }
  · split
    · next accepted =>
        unfold ServerSession.onReceive
        dsimp only
        split
        · exact { inStep with aligned := ⟨nofun, start⟩ }
        · split
          · next same =>
              have expected :
                  frame.packetSequence = session.nextRecvPacketSequence :=
                eq_of_signedDiff_eq_zero same
              have positive :
                  0 < session.receiveWindow.windowSize.toNat := by
                simp only [RudpReceiveWindow.canReceive, decide_eq_true_eq]
                  at accepted
                omega
              exact
                { inStep with
                  aligned := ⟨positive, start.trans expected.symm, by
                    rw [expected]⟩ }
          · split
            · exact inStep
            · split
              · exact { inStep with aligned := trivial }
              · exact inStep.congr rfl rfl rfl id
    · exact inStep

/-- An idle session receives a packet. -/
theorem processByPacketType
    (inStep : InStep size session)
    (idle : session.processing = .idle)
    (clientAddr : SockaddrIn)
    (frame : ClientFrame Payload) :
    InStep size (session.processByPacketType clientAddr frame) := by
  cases frame with
  | connect packetSequence recvSessionId =>
      unfold ServerSession.processByPacketType
      dsimp only
      split
      · exact inStep
      · exact inStep.tryConnect packetSequence recvSessionId clientAddr
  | send frame =>
      unfold ServerSession.processByPacketType
      dsimp only
      split
      · exact inStep
      · next unreleased =>
          split
          · exact inStep.onRecvPacket idle (by simpa using unreleased) frame
          · exact inStep

/-- The packet handler returns. -/
theorem processPacket
    (inStep : InStep size session)
    {frame : DataFrame Payload}
    (stands : session.processing = .handling frame)
    (result : HandlerResult) :
    InStep size (session.processPacket frame result) := by
  cases result with
  | unknownPacket => exact { inStep with aligned := trivial }
  | failed => exact { inStep with aligned := trivial }
  | succeeded =>
      have aligned := inStep.aligned
      unfold Aligned at aligned
      rw [stands] at aligned
      obtain ⟨positive, start, expected⟩ := aligned
      have marked := inStep.clear.markReceived positive
      rw [start] at marked
      unfold ServerSession.processPacket
      dsimp only
      rw [marked]
      exact
        { size := inStep.size
          clear :=
            { flags := inStep.clear.flags
              unused := inStep.clear.unused
              start := .inr (Nat.mod_lt _ positive) }
          aligned := ⟨fun _ => positive, expected.symm⟩ }

/-- The session goes on after a reply. -/
theorem afterReply
    (inStep : InStep size session)
    {packetSequence : PacketSequence} {thenDrain : Bool}
    (stands : session.processing = .replying packetSequence thenDrain) :
    InStep size (session.afterReply packetSequence thenDrain) := by
  have aligned := inStep.aligned
  unfold Aligned at aligned
  rw [stands] at aligned
  obtain ⟨positive, start⟩ := aligned
  cases thenDrain with
  | true => exact { inStep with aligned := ⟨positive rfl, start⟩ }
  | false => exact { inStep with aligned := fun _ => start }

/-- The session looks for the next held packet. -/
theorem drain
    (inStep : InStep size session)
    (stands : session.processing = .draining) :
    InStep size session.drain := by
  have aligned := inStep.aligned
  unfold Aligned at aligned
  rw [stands] at aligned
  obtain ⟨positive, start⟩ := aligned
  unfold ServerSession.drain
  dsimp only
  split
  · exact { inStep with aligned := fun _ => start }
  · next frame found =>
      have expected :
          frame.packetSequence = session.nextRecvPacketSequence := by
        simpa using List.find?_some found
      exact
        { inStep with
          aligned := ⟨positive, start.trans expected.symm, by rw [expected]⟩ }

/-- The receive thread disconnects the session while no other thread is doing
so. -/
theorem disconnectByError
    (inStep : InStep size session)
    (settled : session.state = .connected ∨
      session.nowInReleaseThread = true) :
    InStep size session.disconnectByError := by
  have flagged : session.disconnectByError.nowInReleaseThread = true := by
    rcases settled with connected | flagged
    · simp [ServerSession.disconnectByError, ServerSession.doDisconnect,
        connected, SessionState.tryTransitionToReleasing]
    · unfold ServerSession.disconnectByError ServerSession.doDisconnect
      split <;> first | rfl | exact flagged
  have same : session.disconnectByError.receiveWindow =
      session.receiveWindow := by
    unfold ServerSession.disconnectByError ServerSession.doDisconnect
    split <;> rfl
  have idle : session.disconnectByError.processing = .idle := by
    unfold ServerSession.disconnectByError ServerSession.doDisconnect
    split <;> rfl
  exact
    { size := same ▸ inStep.size
      clear := same ▸ inStep.clear
      aligned := by
        unfold Aligned
        rw [idle]
        exact fun unreleased => nomatch flagged.symm.trans unreleased }

end InStep

end ReceivePath
end MultiSocketRudp
