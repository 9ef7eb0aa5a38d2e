import MultiSocketRudp.Protocol
import MultiSocketRudp.Lib.SerialNumber
import Mathlib.Data.List.Basic
import Mathlib.Data.List.Count

/-!
# The receive window

`RUDPReceiveWindow` keeps one flag for each sequence from the window start on, in
a ring.  Marking a sequence sets its flag and then moves the window start over
every flag that is set.
-/

namespace MultiSocketRudp

open SerialNumber

/-- `RUDPReceiveWindow`. -/
structure RudpReceiveWindow where
  windowStart : PacketSequence
  windowSize : Byte
  receivedFlags : List Bool
  usedCount : Byte
  startIndex : Nat
  deriving DecidableEq, Repr

namespace RudpReceiveWindow

/-- A window of the given size after `Reset`. -/
def ofSize
    (recvWindowSize : Byte) (startSequence : PacketSequence) :
    RudpReceiveWindow where
  windowStart := startSequence
  windowSize := recvWindowSize
  receivedFlags := List.replicate recvWindowSize.toNat false
  usedCount := 0
  startIndex := 0

/-- `Reset`. -/
def reset
    (window : RudpReceiveWindow) (startSequence : PacketSequence) :
    RudpReceiveWindow :=
  { window with
    windowStart := startSequence
    startIndex := 0
    usedCount := 0
    receivedFlags := List.replicate window.receivedFlags.length false }

/-- `ResizeRecvWindowSize`: the vector keeps its first flags. -/
def resizeRecvWindowSize
    (window : RudpReceiveWindow) (recvWindowSize : Byte) :
    RudpReceiveWindow :=
  { window with
    windowSize := recvWindowSize
    receivedFlags :=
      window.receivedFlags.take recvWindowSize.toNat ++
        List.replicate (recvWindowSize.toNat - window.receivedFlags.length)
          false }

/-- `CanReceive`. -/
def canReceive
    (window : RudpReceiveWindow) (inSequence : PacketSequence) : Bool :=
  let diff := signedDiff inSequence window.windowStart
  0 ≤ diff ∧ diff < window.windowSize.toNat

/-- The flag at the start of the window. -/
def startFlag (window : RudpReceiveWindow) : Bool :=
  window.receivedFlags.getD window.startIndex false

/-- One iteration of the loop in `MarkReceived`. -/
def advance (window : RudpReceiveWindow) : RudpReceiveWindow :=
  { window with
    receivedFlags := window.receivedFlags.set window.startIndex false
    startIndex := (window.startIndex + 1) % window.windowSize.toNat
    windowStart := window.windowStart + 1
    usedCount := window.usedCount - 1 }

/-- The loop of `MarkReceived`, with a bound on its iterations. -/
def slide : Nat → RudpReceiveWindow → RudpReceiveWindow
  | 0, window => window
  | bound + 1, window =>
      if window.startFlag then slide bound window.advance else window

/-- Every iteration clears a flag, so the loop ends within as many iterations as
flags are set. -/
def slideAll (window : RudpReceiveWindow) : RudpReceiveWindow :=
  slide (window.receivedFlags.count true) window

/-- `MarkReceived`. -/
def markReceived
    (window : RudpReceiveWindow) (inSequence : PacketSequence) :
    RudpReceiveWindow :=
  if window.canReceive inSequence then
    let offset := (signedDiff inSequence window.windowStart).toNat
    let index := (window.startIndex + offset) % window.windowSize.toNat
    if window.receivedFlags.getD index false then window.slideAll
    else
      slideAll
        { window with
          receivedFlags := window.receivedFlags.set index true
          usedCount := window.usedCount + 1 }
  else window

/-- `GetWindowEnd`. -/
def getWindowEnd (window : RudpReceiveWindow) : PacketSequence :=
  window.windowStart + window.windowSize.setWidth 64

/-- `GetAdvertiseWindow`. -/
def getAdvertiseWindow (window : RudpReceiveWindow) : Byte :=
  window.windowSize - window.usedCount

/-- An iteration clears one set flag. -/
theorem count_advance
    {window : RudpReceiveWindow}
    (set : window.startFlag = true) :
    window.advance.receivedFlags.count true + 1 =
      window.receivedFlags.count true := by
  have inside : window.startIndex < window.receivedFlags.length := by
    by_contra outside
    rw [startFlag, List.getD_eq_getElem?_getD,
      List.getElem?_eq_none (not_lt.mp outside)] at set
    exact absurd set (by decide)
  have flag : window.receivedFlags[window.startIndex] = true := by
    rw [startFlag, List.getD_eq_getElem?_getD,
      List.getElem?_eq_getElem inside] at set
    exact set
  have present : 0 < window.receivedFlags.count true :=
    List.count_pos_iff.mpr (flag ▸ List.getElem_mem inside)
  simp only [advance, List.count_set inside, flag]
  simp
  omega

/-- The loop stops at a flag that is not set. -/
theorem startFlag_slide
    (bound : Nat)
    {window : RudpReceiveWindow}
    (enough : window.receivedFlags.count true ≤ bound) :
    (slide bound window).startFlag = false := by
  induction bound generalizing window with
  | zero =>
      cases set : window.startFlag with
      | false => exact set
      | true =>
          have cleared := count_advance set
          omega
  | succ bound inductionHypothesis =>
      rw [slide]
      split
      case isTrue set =>
        have cleared := count_advance set
        exact inductionHypothesis (by omega)
      case isFalse unset => simpa using unset

/-- The loop of `MarkReceived` runs to its end. -/
theorem startFlag_slideAll (window : RudpReceiveWindow) :
    window.slideAll.startFlag = false :=
  startFlag_slide _ le_rfl

end RudpReceiveWindow

end MultiSocketRudp
