import MultiSocketRudp.Server.CallSteps

/-!
# The state of a session changes by a disconnect only

Neither the send path nor the retransmission thread connects a session again, so
that a session found disconnected stays so.
-/

namespace MultiSocketRudp
namespace Retransmission

open SendStream

namespace State

variable
  (server : State) (caller : Caller)
  (item : QueueItem) (reserved : Bool)
  (locals : StreamLocals)

theorem state_beginRefresh :
    (server.beginRefresh caller item reserved locals).state =
      server.state := by
  unfold beginRefresh
  split
  · rfl
  split <;> rfl

theorem state_finishRefresh (deadline : Nat) :
    (server.finishRefresh caller item reserved locals deadline).state =
      server.state := by
  unfold finishRefresh
  split
  · rfl
  dsimp only
  split <;> rfl

theorem state_checkTaken :
    (server.checkTaken caller item reserved locals).state = server.state := by
  unfold checkTaken
  dsimp only
  repeat' split
  all_goals first | rfl | exact state_beginRefresh ..

theorem state_takeReserved (bufferCount : Nat) :
    (server.takeReserved caller bufferCount).state = server.state := by
  unfold takeReserved
  dsimp only
  split <;> rfl

theorem state_popQueue :
    (server.popQueue caller locals).state = server.state := by
  unfold popQueue
  split <;> rfl

theorem state_checkDue
    (maxPacketRetransmissionCount : Nat) (entry : HeapEntry) :
    (server.checkDue maxPacketRetransmissionCount entry).state =
      server.state := by
  unfold checkDue
  dsimp only
  split <;> rfl

theorem state_insertSendPacketInfo (packet : PacketRef) :
    (server.insertSendPacketInfo packet).state = server.state := by
  cases packet <;> rfl

theorem state_eraseSendPacketInfo (packet : PacketRef) :
    (server.eraseSendPacketInfo packet).state = server.state := by
  cases packet <;> rfl

end State

/-- The state of the session changes by a disconnect only. -/
theorem state_step
    {maxPacketRetransmissionCount : Nat}
    {server next : State} {label : Label}
    (moves :
      step maxPacketRetransmissionCount server label =
        some next) :
    next.state = server.state ∨ next.state = server.doDisconnect.state := by
  cases label with
  | takeSequence useSize =>
      obtain rfl := Option.some.inj moves
      exact .inl rfl
  | disconnect =>
      obtain rfl := Option.some.inj moves
      exact .inr rfl
  | acquire caller =>
      simp only [step, Option.ite_none_right_eq_some] at moves
      obtain ⟨-, moves⟩ := moves
      split at moves <;> obtain rfl := Option.some.inj moves <;> exact .inl rfl
  | tryRioSend caller length result =>
      cases result <;>
        simp only [step, Option.ite_none_right_eq_some,
          Option.some.injEq] at moves <;>
        obtain ⟨-, rfl⟩ := moves <;> exact .inl rfl
  | failDisconnect _ | oversizeDisconnect _ _ | disconnectExceeded _
  | disconnectFailed =>
      simp only [step, Option.ite_none_right_eq_some,
        Option.some.injEq] at moves
      obtain ⟨-, rfl⟩ := moves
      exact .inr rfl
  | insert packet =>
      simp only [step, Option.ite_none_right_eq_some,
        Option.some.injEq] at moves
      obtain ⟨-, rfl⟩ := moves
      exact .inl (State.state_insertSendPacketInfo server packet)
  | eraseFromMap packet =>
      simp only [step, Option.ite_none_right_eq_some,
        Option.some.injEq] at moves
      obtain ⟨-, rfl⟩ := moves
      exact .inl (State.state_eraseSendPacketInfo server packet)
  | takeReserved caller bufferCount =>
      simp only [step, Option.ite_none_right_eq_some,
        Option.some.injEq] at moves
      obtain ⟨-, rfl⟩ := moves
      exact .inl (State.state_takeReserved server caller bufferCount)
  | checkTaken caller item reserved locals =>
      simp only [step, Option.ite_none_right_eq_some,
        Option.some.injEq] at moves
      obtain ⟨-, rfl⟩ := moves
      exact .inl (State.state_checkTaken server caller item reserved locals)
  | finishRefresh caller item reserved locals deadline =>
      simp only [step, Option.ite_none_right_eq_some,
        Option.some.injEq] at moves
      obtain ⟨-, rfl⟩ := moves
      exact .inl
        (State.state_finishRefresh server caller item reserved locals deadline)
  | popQueue caller locals =>
      simp only [step, Option.ite_none_right_eq_some,
        Option.some.injEq] at moves
      obtain ⟨-, rfl⟩ := moves
      exact .inl (State.state_popQueue server caller locals)
  | checkDue entry =>
      simp only [step, Option.ite_none_right_eq_some,
        Option.some.injEq] at moves
      obtain ⟨-, rfl⟩ := moves
      exact .inl (State.state_checkDue server maxPacketRetransmissionCount entry)
  | _ =>
      simp only [step, Option.ite_none_right_eq_some,
        Option.some.injEq] at moves
      obtain ⟨-, rfl⟩ := moves
      exact .inl rfl

/-- A session that is connected after a step was so before. -/
theorem connected_of_step
    {maxPacketRetransmissionCount : Nat}
    {server next : State} {label : Label}
    (moves :
      step maxPacketRetransmissionCount server label =
        some next)
    (connected : next.state = .connected) :
    server.state = .connected := by
  rcases state_step moves with same | disconnected
  · rw [← same, connected]
  · have different := PlacesInvariant.doDisconnect_ne_connected server
    rw [← disconnected] at different
    exact absurd connected different

end Retransmission
end MultiSocketRudp
