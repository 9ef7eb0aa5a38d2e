import Mathlib.Data.List.Basic
import Mathlib.Data.List.Infix

/-!
# Self-delimiting frames

The first symbols of a frame announce its size.  A stream therefore begins with at
most one sequence of frames of a given extent, and cutting one frame off after the
other finds the longest one.
-/

namespace SelfDelimiting

universe u

variable {Symbol : Type u}

/-- How the size of a frame is read off its first symbols.  What follows a frame
does not matter. -/
structure Announcement (Symbol : Type u) where
  /-- The size of the frame at the head of a stream. -/
  size : List Symbol → Option Nat
  size_pos : ∀ {stream extent}, size stream = some extent → 0 < extent
  size_append : ∀ {stream extent}, size stream = some extent →
    ∀ following, size (stream ++ following) = some extent
  size_take : ∀ {stream extent}, size stream = some extent →
    extent ≤ stream.length → size (stream.take extent) = some extent

namespace Announcement

variable (announcement : Announcement Symbol)

/-- A frame is as long as it announces. -/
def IsFrame (frame : List Symbol) : Prop :=
  announcement.size frame = some frame.length

/-- Complete frames with which a stream begins. -/
structure Framing
    (stream : List Symbol) (frames : List (List Symbol)) : Prop where
  complete : ∀ frame ∈ frames, announcement.IsFrame frame
  inside : frames.flatten <+: stream

/-- No other complete frames reach further into the stream. -/
structure LongestFraming
    (stream : List Symbol) (frames : List (List Symbol)) : Prop extends
    announcement.Framing stream frames where
  longest : ∀ {others}, announcement.Framing stream others →
    others.flatten.length ≤ frames.flatten.length

/-- Cut one frame off after the other. -/
def cut (stream : List Symbol) : List (List Symbol) :=
  match _ : announcement.size stream with
  | none => []
  | some extent =>
      if extent ≤ stream.length then
        stream.take extent :: cut (stream.drop extent)
      else []
termination_by stream.length
decreasing_by
  have positive := announcement.size_pos
    ‹announcement.size stream = some extent›
  rw [List.length_drop]
  omega

/-- What is left of a stream when no more frame can be cut off. -/
def rest (stream : List Symbol) : List Symbol :=
  stream.drop (announcement.cut stream).flatten.length

variable {announcement}

theorem IsFrame.length_pos
    {frame : List Symbol}
    (isFrame : announcement.IsFrame frame) :
    0 < frame.length :=
  announcement.size_pos isFrame

/-! ## Cutting -/

/-- A frame at the head of a stream is cut off. -/
theorem cut_append
    {frame : List Symbol}
    (isFrame : announcement.IsFrame frame)
    (following : List Symbol) :
    announcement.cut (frame ++ following) =
      frame :: announcement.cut following := by
  have found := announcement.size_append isFrame following
  rw [cut]
  split
  next missing => cases missing.symm.trans found
  next extent present =>
    obtain rfl := Option.some.inj (present.symm.trans found)
    rw [if_pos (by simp), List.take_left, List.drop_left]

/-- Nothing is cut off where no frame fits. -/
theorem cut_eq_nil
    {stream : List Symbol}
    (short : ∀ extent, announcement.size stream = some extent →
      stream.length < extent) :
    announcement.cut stream = [] := by
  rw [cut]
  split
  next => rfl
  next extent found => rw [if_neg (Nat.not_le.mpr (short extent found))]

theorem rest_append
    {frame : List Symbol}
    (isFrame : announcement.IsFrame frame)
    (following : List Symbol) :
    announcement.rest (frame ++ following) = announcement.rest following := by
  simp only [rest, cut_append isFrame, List.flatten_cons, List.length_append,
    List.drop_append, Nat.add_sub_cancel_left]
  rw [List.drop_eq_nil_of_le (Nat.le_add_right _ _), List.nil_append]

theorem rest_eq_self
    {stream : List Symbol}
    (nothing : announcement.cut stream = []) :
    announcement.rest stream = stream := by
  rw [rest, nothing, List.flatten_nil, List.length_nil, List.drop_zero]

/-! ## The longest framing -/

/-- What is cut off are complete frames with which the stream begins. -/
theorem framing_cut (stream : List Symbol) :
    announcement.Framing stream (announcement.cut stream) := by
  fun_induction cut announcement stream with
  | case1 => exact ⟨nofun, List.nil_prefix⟩
  | case2 stream extent found fits later =>
      refine ⟨fun frame member => ?_, ?_⟩
      · rcases List.mem_cons.mp member with rfl | member
        · rw [IsFrame, List.length_take, Nat.min_eq_left fits]
          exact announcement.size_take found fits
        · exact later.complete frame member
      · obtain ⟨following, split⟩ := later.inside
        refine ⟨following, ?_⟩
        rw [List.flatten_cons, List.append_assoc, split,
          List.take_append_drop]
  | case3 => exact ⟨nofun, List.nil_prefix⟩

/-- Complete frames with which a stream begins are the first ones cut off. -/
theorem Framing.isPrefix_cut
    {stream : List Symbol}
    {frames : List (List Symbol)}
    (framing : announcement.Framing stream frames) :
    frames <+: announcement.cut stream := by
  induction frames generalizing stream with
  | nil => exact List.nil_prefix
  | cons frame frames inductionHypothesis =>
      obtain ⟨following, rfl⟩ := framing.inside
      have isFrame := framing.complete frame List.mem_cons_self
      rw [List.flatten_cons, List.append_assoc, cut_append isFrame]
      refine (List.prefix_cons_inj frame).mpr (inductionHypothesis ?_)
      exact ⟨fun other member => framing.complete other
        (List.mem_cons_of_mem _ member), List.prefix_append _ _⟩

/-- Cutting finds the longest framing. -/
theorem longestFraming_cut (stream : List Symbol) :
    announcement.LongestFraming stream (announcement.cut stream) where
  toFraming := framing_cut stream
  longest framing := framing.isPrefix_cut.flatten.length_le

/-- There is only one longest framing. -/
theorem LongestFraming.eq_cut
    {stream : List Symbol}
    {frames : List (List Symbol)}
    (framing : announcement.LongestFraming stream frames) :
    frames = announcement.cut stream := by
  obtain ⟨missing, split⟩ := framing.isPrefix_cut
  have complete : announcement.Framing stream (frames ++ missing) := by
    rw [split]
    exact framing_cut stream
  have none_left := framing.longest complete
  rw [List.flatten_append, List.length_append] at none_left
  cases missing with
  | nil => rw [← split, List.append_nil]
  | cons frame missing =>
      have positive := (complete.complete frame (by simp)).length_pos
      rw [List.flatten_cons, List.length_append] at none_left
      omega

/-- Where all frames that are cut off are frames for a stricter announcement, this
one cuts the same frames off. -/
theorem cut_eq_of_isFrame
    {stricter : Announcement Symbol}
    {stream : List Symbol}
    (weakens : ∀ frame, stricter.IsFrame frame → announcement.IsFrame frame)
    (strict : ∀ frame ∈ announcement.cut stream, stricter.IsFrame frame) :
    stricter.cut stream = announcement.cut stream := by
  have longest : stricter.LongestFraming stream (announcement.cut stream) :=
    { complete := strict
      inside := (framing_cut stream).inside
      longest := fun framing => (longestFraming_cut stream).longest
        ⟨fun frame member => weakens frame (framing.complete frame member),
          framing.inside⟩ }
  exact longest.eq_cut.symm

end Announcement

end SelfDelimiting
