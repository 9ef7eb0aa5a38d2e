import MultiSocketRudp.Protocol
import MultiSocketRudp.Lib.SerialNumber

/-!
# Congestion control

`RUDPFlowController` admits a packet by the distance of its sequence from the
highest acknowledged one.  The window lies between one and its maximum in every
state, which the structure carries.
-/

namespace MultiSocketRudp

open SerialNumber

/-- `RUDPFlowController::INITIAL_CWND`. -/
def initialCwnd : Nat := 4

/-- `RUDPFlowController::MAX_CWND`. -/
def maxCwnd : Nat := 250

/-- `GAP_THRESHOLD` of `OnReplyReceived`. -/
def gapThreshold : Int := 5

/-- `RUDPFlowController`, with the bounds of its 8-bit window. -/
structure RudpFlowController where
  cwnd : Nat
  lastReplySequence : PacketSequence
  inRecovery : Bool
  /-- The window is never closed. -/
  cwnd_pos : 0 < cwnd
  /-- The window stays within its maximum. -/
  cwnd_le : cwnd ≤ maxCwnd

namespace RudpFlowController

/-- `Reset`, which is also the constructed state. -/
def reset : RudpFlowController where
  cwnd := initialCwnd
  lastReplySequence := 0
  inRecovery := false
  cwnd_pos := by decide
  cwnd_le := by decide

/-- `CanSendPacket` at the last acknowledged sequence, as
`RUDPFlowManager::CanSend` calls it. -/
def canSend
    (flow : RudpFlowController) (nextSendSequence : PacketSequence) : Bool :=
  let diff := signedDiff nextSendSequence flow.lastReplySequence
  let outstanding := if 1 < diff then diff - 1 else 0
  outstanding < flow.cwnd

/-- `OnTimeout` and `OnCongestionEvent`: the window is halved, down to one. -/
def onTimeout (flow : RudpFlowController) : RudpFlowController :=
  { flow with
    cwnd := max (flow.cwnd / 2) 1
    inRecovery := true
    cwnd_pos := by omega
    cwnd_le := by
      have bound := flow.cwnd_le
      unfold maxCwnd at *
      omega }

/-- The tail of `OnReplyReceived`: outside of recovery the window grows by one,
and recovery ends. -/
def grow
    (flow : RudpFlowController) (replySequence : PacketSequence) :
    RudpFlowController :=
  if flow.inRecovery then
    { flow with lastReplySequence := replySequence, inRecovery := false }
  else
    { flow with
      lastReplySequence := replySequence
      cwnd := min (flow.cwnd + 1) maxCwnd
      cwnd_pos := by unfold maxCwnd; omega
      cwnd_le := by omega }

/-- `OnReplyReceived`, which `RUDPFlowManager::OnAckReceived` calls. -/
def onAckReceived
    (flow : RudpFlowController) (replySequence : PacketSequence) :
    RudpFlowController :=
  let diff := signedDiff replySequence flow.lastReplySequence
  if diff ≤ 0 then flow
  else if gapThreshold ≤ diff - 1 then flow.onTimeout.grow replySequence
  else flow.grow replySequence

@[simp] theorem lastReplySequence_reset :
    reset.lastReplySequence = 0 := rfl

@[simp] theorem lastReplySequence_onTimeout (flow : RudpFlowController) :
    flow.onTimeout.lastReplySequence = flow.lastReplySequence := rfl

@[simp] theorem lastReplySequence_grow
    (flow : RudpFlowController) (replySequence : PacketSequence) :
    (flow.grow replySequence).lastReplySequence = replySequence := by
  unfold grow
  split <;> rfl

/-- An acknowledgement moves the highest acknowledged sequence forward only. -/
theorem lastReplySequence_onAckReceived
    (flow : RudpFlowController) (replySequence : PacketSequence) :
    (flow.onAckReceived replySequence).lastReplySequence =
      if signedDiff replySequence flow.lastReplySequence ≤ 0 then
        flow.lastReplySequence
      else replySequence := by
  simp only [onAckReceived]
  split
  · rfl
  · split <;> simp

/-- A timeout admits nothing new. -/
theorem canSend_onTimeout
    {flow : RudpFlowController} {sequence : PacketSequence}
    (admitted : flow.onTimeout.canSend sequence = true) :
    flow.canSend sequence = true := by
  have positive := flow.cwnd_pos
  have narrower : flow.onTimeout.cwnd ≤ flow.cwnd := by
    change max (flow.cwnd / 2) 1 ≤ flow.cwnd
    omega
  simp only [canSend, decide_eq_true_eq] at admitted ⊢
  rw [lastReplySequence_onTimeout] at admitted
  exact admitted.trans_le (by exact_mod_cast narrower)

/-- A sequence that is not admitted is more than one behind the last
acknowledged one. -/
theorem lt_signedDiff_of_not_canSend
    {flow : RudpFlowController} {sequence : PacketSequence}
    (refused : flow.canSend sequence = false) :
    1 < signedDiff sequence flow.lastReplySequence := by
  have positive := flow.cwnd_pos
  simp only [canSend, decide_eq_false_iff_not] at refused
  by_contra near
  rw [if_neg near] at refused
  omega

end RudpFlowController

end MultiSocketRudp
