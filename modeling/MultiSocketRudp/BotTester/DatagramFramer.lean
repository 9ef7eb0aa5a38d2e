import MultiSocketRudp.BotTester.NetBuffer
import MultiSocketRudp.Common.PacketFraming
import Mathlib.Data.List.GetD

/-!
# How the bot tester splits a datagram

`ProcessReceivedStreamAsync` walks through the datagram with an offset.
`DatagramFramer` reads the size of the packet there, and the packet is processed
when it lies inside the datagram.  A payload length is a word, so that there is no
smaller limit for it.
-/

namespace MultiSocketRudp
namespace BotTester

open PacketCrypto (getPayloadLength packetAnnouncement announcedSize
  announcedSize_eq_some isFrame_of_le)
open SelfDelimiting

/-- `DatagramFramer.TryGetPacketSize` at an offset that is not negative. -/
def tryGetPacketSize (data : List Byte) (offset : Nat) : Option Nat :=
  if (data.length : Int) - headerSize < offset then none
  else
    let payloadLength :=
      (data.getD (offset + 1) 0).toNat ||| (data.getD (offset + 2) 0).toNat <<< 8
    if payloadLength = 0 then none
    else some (headerSize + payloadLength)

theorem tryGetPacketSize_pos
    {data : List Byte}
    {offset packetSize : Nat}
    (found : tryGetPacketSize data offset = some packetSize) :
    0 < packetSize := by
  simp only [tryGetPacketSize, Option.ite_none_left_eq_some,
    Option.some.injEq] at found
  obtain ⟨-, -, rfl⟩ := found
  exact Nat.add_pos_left (by decide) _

/-- `ProcessReceivedStreamAsync` from an offset on: the packets that it processes
when it can process each of them. -/
def processReceivedStream (data : List Byte) (offset : Nat) : List (List Byte) :=
  if offset + headerSize ≤ data.length then
    match _ : tryGetPacketSize data offset with
    | none => []
    | some packetSize =>
        if data.length < offset + packetSize then []
        else
          (data.drop offset).take packetSize ::
            processReceivedStream data (offset + packetSize)
  else []
termination_by data.length - offset
decreasing_by
  have positive := tryGetPacketSize_pos
    ‹tryGetPacketSize data offset = some packetSize›
  omega

/-- The largest payload length that a word can hold. -/
def maxPayloadLength : Nat := 2 ^ 16 - 1

/-- The two bytes of the payload length as a number. -/
theorem toNat_littleEndian_pair (low high : Byte) :
    (PacketCrypto.littleEndian [low, high]).toNat =
      low.toNat ||| high.toNat <<< 8 := by
  have lowByte := low.isLt
  have highByte := high.isLt
  have shifted : high.toNat <<< 8 = high.toNat * 256 := Nat.shiftLeft_eq _ _
  have zero : BitVec.toNat (0 : PacketSequence) = 0 := rfl
  simp only [PacketCrypto.littleEndian, BitVec.toNat_or, BitVec.toNat_shiftLeft,
    BitVec.toNat_setWidth, zero, Nat.zero_shiftLeft, Nat.zero_mod, Nat.zero_or]
  rw [Nat.mod_eq_of_lt (by omega : high.toNat < 2 ^ 64),
    Nat.mod_eq_of_lt (by omega : low.toNat < 2 ^ 64),
    Nat.mod_eq_of_lt (by omega : high.toNat <<< 8 < 2 ^ 64), Nat.or_comm]

/-- A payload length is a word. -/
theorem toNat_or_shiftLeft_le (low high : Byte) :
    low.toNat ||| high.toNat <<< 8 ≤ maxPayloadLength := by
  have lowByte := low.isLt
  have highByte := high.isLt
  rw [Nat.or_comm, ← Nat.shiftLeft_add_eq_or_of_lt lowByte, Nat.shiftLeft_eq,
    maxPayloadLength]
  omega

/-- The payload length of the header at an offset. -/
theorem getPayloadLength_drop
    {data : List Byte}
    {offset : Nat}
    (header : offset + headerSize ≤ data.length) :
    getPayloadLength (data.drop offset) =
      (data.getD (offset + 1) 0).toNat |||
        (data.getD (offset + 2) 0).toNat <<< 8 := by
  simp only [headerSize] at header
  have low : offset + 1 < data.length := by omega
  have high : offset + 2 < data.length := by omega
  have bytes : ((data.drop offset).drop 1).take 2 =
      [data.getD (offset + 1) 0, data.getD (offset + 2) 0] := by
    rw [List.drop_drop, List.drop_eq_getElem_cons low,
      List.drop_eq_getElem_cons high, List.getD_eq_getElem data 0 low,
      List.getD_eq_getElem data 0 high]
    rfl
  rw [getPayloadLength, bytes, toNat_littleEndian_pair]

/-- `TryGetPacketSize` reads the size that the header at the offset announces. -/
theorem tryGetPacketSize_eq
    (data : List Byte)
    (offset : Nat) :
    tryGetPacketSize data offset =
      (packetAnnouncement maxPayloadLength).size (data.drop offset) := by
  change _ = announcedSize maxPayloadLength (data.drop offset)
  unfold tryGetPacketSize announcedSize
  by_cases header : offset + headerSize ≤ data.length
  · have length := getPayloadLength_drop header
    have within := toNat_or_shiftLeft_le (data.getD (offset + 1) 0)
      (data.getD (offset + 2) 0)
    rw [length, if_neg (by omega)]
    by_cases empty : (data.getD (offset + 1) 0).toNat |||
        (data.getD (offset + 2) 0).toNat <<< 8 = 0
    · rw [if_pos empty, if_neg (by omega)]
    · have long : headerSize ≤ (data.drop offset).length := by
        rw [List.length_drop]
        omega
      rw [if_neg empty, if_pos ⟨long, by omega, within⟩, Nat.add_comm]
      rfl
  · rw [if_pos (by omega), if_neg]
    rintro ⟨long, -⟩
    rw [List.length_drop] at long
    change headerSize ≤ _ at long
    have positive : 0 < headerSize := by decide
    omega

/-- The bot tester splits a datagram into its complete frames. -/
theorem processReceivedStream_eq_cut (data : List Byte) (offset : Nat) :
    processReceivedStream data offset =
      (packetAnnouncement maxPayloadLength).cut (data.drop offset) := by
  fun_induction processReceivedStream data offset with
  | case1 offset header missing =>
      rw [tryGetPacketSize_eq] at missing
      refine (Announcement.cut_eq_nil fun extent found => ?_).symm
      cases missing.symm.trans found
  | case2 offset header packetSize found truncated =>
      rw [tryGetPacketSize_eq] at found
      refine (Announcement.cut_eq_nil fun extent present => ?_).symm
      obtain rfl := Option.some.inj (found.symm.trans present)
      rw [List.length_drop]
      omega
  | case3 offset header packetSize found inside later =>
      rw [tryGetPacketSize_eq] at found
      have fits : packetSize ≤ (data.drop offset).length := by
        rw [List.length_drop]
        omega
      have isFrame : (packetAnnouncement maxPayloadLength).IsFrame
          ((data.drop offset).take packetSize) := by
        rw [Announcement.IsFrame, List.length_take, Nat.min_eq_left fits]
        exact (packetAnnouncement maxPayloadLength).size_take found fits
      rw [later, ← List.drop_drop, ← Announcement.cut_append isFrame,
        List.take_append_drop]
  | case4 offset short =>
      refine (Announcement.cut_eq_nil fun extent found => ?_).symm
      obtain ⟨⟨header, -⟩, -⟩ := announcedSize_eq_some.mp found
      rw [List.length_drop] at header
      change headerSize ≤ _ at header
      have positive : 0 < headerSize := by decide
      omega

/-- With a smaller limit the same frames are cut off, when their payload lengths
are within it. -/
theorem cut_eq_processReceivedStream
    {limit : Nat}
    {data : List Byte}
    (within : ∀ frame ∈ processReceivedStream data 0,
      getPayloadLength frame ≤ limit) :
    (packetAnnouncement limit).cut data = processReceivedStream data 0 := by
  rw [processReceivedStream_eq_cut, List.drop_zero] at within ⊢
  refine Announcement.cut_eq_of_isFrame (fun frame isFrame => ?_)
    fun frame member => isFrame_of_le
      ((Announcement.framing_cut data).complete frame member)
      (within frame member)
  obtain ⟨⟨header, -⟩, -⟩ := announcedSize_eq_some.mp isFrame
  have length := getPayloadLength_drop
    (show 0 + headerSize ≤ frame.length from (Nat.zero_add _).trans_le header)
  rw [List.drop_zero] at length
  exact isFrame_of_le isFrame (length ▸ toNat_or_shiftLeft_le _ _)

end BotTester
end MultiSocketRudp
