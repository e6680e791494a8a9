import ProbeStream.Proofs.Ring.Frames
import ProbeStream.Proofs.Words

/-!
# The records of any bytes

All bytes are a run of whole frames and a rest that begins with none, and this in one way only
(`isCut_iff`). Their records are those of the frames, one for each, and the rest gives none.

What a frame says depends on its type and its length (`says_iff`). The size that stands in a sample
is only a bound: the payload lies in the frame, whatever the size is (`Says.hasAt_payload`). So
nothing behind a frame gets into its record (`records_framed`).
-/

namespace ProbeStream.Perf

open Bytes (HasAt)

variable {bytes frame rest : Bytes} {list : List Bytes}

/-! ## Cutting any bytes -/

/-- Bytes that begin with no whole frame: there are fewer than eight, or the size in the header is
below eight or reaches beyond them. -/
def Broken (rest : Bytes) : Prop :=
  rest.length < 8 ∨ frameSize rest < 8 ∨ rest.length < frameSize rest

theorem broken_iff : Broken rest ↔ ¬ hasFrame rest := by
  simp only [Broken, hasFrame, frameHeaderSize]
  omega

theorem records_of_broken (broken : Broken rest) : records rest = [] := by
  rw [records, frames_of_not_hasFrame (broken_iff.mp broken), List.map_nil]

/-- Some bytes are cut into whole frames and what is left when they end. -/
structure IsCut (bytes : Bytes) (list : List Bytes) (rest : Bytes) : Prop where
  split : bytes = list.flatten ++ rest
  whole : ∀ frame ∈ list, IsFrame frame
  broken : Broken rest

/-- The first frame of some bytes is whole. -/
theorem isFrame_take (begins : hasFrame bytes) : IsFrame (bytes.take (frameSize bytes)) := by
  obtain ⟨_, least, most⟩ := begins
  have length : (bytes.take (frameSize bytes)).length = frameSize bytes := by
    rw [List.length_take, Nat.min_eq_left most]
  have header : frameHeaderSize ≤ (bytes.take (frameSize bytes)).length := by rwa [length]
  have size := frameSize_append header (bytes.drop (frameSize bytes))
  rw [List.take_append_drop] at size
  exact ⟨header, size.symm.trans length.symm⟩

theorem exists_isCut (bytes : Bytes) : ∃ rest, IsCut bytes (frames bytes) rest := by
  fun_induction frames bytes with
  | case1 bytes begins ih =>
    obtain ⟨rest, cut⟩ := ih
    refine ⟨rest, ?_, ?_, cut.broken⟩
    · rw [List.flatten_cons, List.append_assoc, ← cut.split, List.take_append_drop]
    · intro frame member
      rcases List.mem_cons.mp member with rfl | later
      · exact isFrame_take begins
      · exact cut.whole frame later
  | case2 bytes broken => exact ⟨bytes, rfl, nofun, broken_iff.mpr broken⟩

/-- There is one way to cut some bytes. -/
theorem isCut_iff : IsCut bytes list rest ↔ list = frames bytes ∧ rest = afterFrames bytes := by
  have unique {list : List Bytes} {rest : Bytes} (cut : IsCut bytes list rest) :
      list = frames bytes ∧ rest = afterFrames bytes := by
    have same : frames bytes = list := by
      rw [cut.split, frames_flatten_append cut.whole,
        frames_of_not_hasFrame (broken_iff.mp cut.broken), List.append_nil]
    refine ⟨same.symm, ?_⟩
    calc rest = (list.flatten ++ rest).drop list.flatten.length := List.drop_left.symm
      _ = afterFrames bytes := by rw [afterFrames, same, ← cut.split]
  refine ⟨unique, ?_⟩
  rintro ⟨rfl, rfl⟩
  obtain ⟨rest, cut⟩ := exists_isCut bytes
  exact (unique cut).2 ▸ cut

/-! ## What a frame says -/

/-- What a frame says, by its type and its length. -/
inductive Says (frame : Bytes) : Record → Prop
  /-- The payload of a sample is what stands behind the first twelve bytes, but not more of it than
  the size in front of it. -/
  | sample (type : ByteOrder.host.u32At frame 0 = 9) (enough : 12 ≤ frame.length) :
      Says frame (.sample (frame.slice 12
        (min (ByteOrder.host.u32At frame 8).toNat (frame.length - 12))))
  | lost (type : ByteOrder.host.u32At frame 0 = 2) (enough : 24 ≤ frame.length) :
      Says frame (.lost (ByteOrder.host.u64At frame 16))
  /-- All other types, and frames that are too short for theirs. -/
  | other (noSample : ByteOrder.host.u32At frame 0 = 9 → frame.length < 12)
      (noLoss : ByteOrder.host.u32At frame 0 = 2 → frame.length < 24) :
      Says frame (.other (ByteOrder.host.u32At frame 0))

theorem slice_min_length (frame : Bytes) (offset size : Nat) :
    frame.slice offset (min size (frame.length - offset)) = (frame.drop offset).take size := by
  rw [Bytes.slice, ← List.length_drop, ← List.take_eq_take_min]

theorem says_iff {record : Record} : Says frame record ↔ Record.ofFrame frame = record := by
  dsimp only [Record.ofFrame]
  constructor
  · rintro (⟨type, enough⟩ | ⟨type, enough⟩ | ⟨noSample, noLoss⟩)
    · rw [if_pos ⟨type, enough⟩, slice_min_length]
      rfl
    · have noSample : typeLost ≠ typeSample := by decide
      rw [if_neg fun sample => noSample (type.symm.trans sample.1), if_pos ⟨type, enough⟩]
    · rw [if_neg fun sample => Nat.not_lt.mpr sample.2 (noSample sample.1),
        if_neg fun loss => Nat.not_lt.mpr loss.2 (noLoss loss.1)]
  · rintro rfl
    split
    next isSample =>
      rw [payloadOffset, ← slice_min_length]
      exact .sample isSample.1 isSample.2
    next noSample =>
      split
      next isLoss => exact .lost isLoss.1 isLoss.2
      next noLoss =>
        exact .other (fun type => Nat.not_le.mp fun enough => noSample ⟨type, enough⟩)
          fun type => Nat.not_le.mp fun enough => noLoss ⟨type, enough⟩

/-- The payload of a sample is a piece of its frame. -/
theorem Says.hasAt_payload {payload : Bytes} (said : Says frame (.sample payload)) :
    frame.HasAt 12 payload := by
  cases said with
  | sample _ enough =>
    rw [slice_min_length]
    refine ⟨frame.take 12, (frame.drop 12).drop (ByteOrder.host.u32At frame 8).toNat, ?_, ?_⟩
    · rw [List.append_assoc, List.take_append_drop, List.take_append_drop]
    · rw [List.length_take, Nat.min_eq_left enough]

/-! ## Records -/

/-- The records of a run of whole frames with anything behind it:

- they are one for each frame, in order, and then the records of what is behind;
- bytes that begin with no whole frame give none;
- the record of a frame is what the frame says;
- every payload is a piece of its own frame, whatever sizes stand in it.

All bytes are such a run with bytes behind it that give no records, and in one way only. -/
theorem records_framed (whole : ∀ frame ∈ list, IsFrame frame) (rest : Bytes) :
    records (list.flatten ++ rest) = list.map Record.ofFrame ++ records rest ∧
      (Broken rest → records rest = []) ∧
      (∀ frame record, Record.ofFrame frame = record ↔ Says frame record) ∧
      (∀ (place : Nat) (frame payload : Bytes), list[place]? = some frame →
        (records (list.flatten ++ rest))[place]? = some (.sample payload) →
          frame.HasAt 12 payload) ∧
      ∀ bytes list rest,
        IsCut bytes list rest ↔ list = frames bytes ∧ rest = afterFrames bytes := by
  have split : records (list.flatten ++ rest) = list.map Record.ofFrame ++ records rest := by
    rw [records, frames_flatten_append whole, List.map_append, records]
  refine ⟨split, records_of_broken, fun _ _ => says_iff.symm, ?_, fun _ _ _ => isCut_iff⟩
  intro place frame payload isFrame isSample
  have inside : place < (list.map Record.ofFrame).length := by
    rw [List.length_map]
    exact (List.getElem?_eq_some_iff.mp isFrame).1
  rw [split, List.getElem?_append_left inside, List.getElem?_map, isFrame] at isSample
  exact (says_iff.mpr (Option.some.inj isSample)).hasAt_payload

/-! ## Sizes that are too large and too small -/

/-- The size of this sample is 64, but its frame ends after four bytes of it. -/
def largeSample : Bytes := [9, 0, 0, 0, 0, 0, 16, 0, 64, 0, 0, 0, 1, 2, 3, 4]

/-- This frame ends before its count of lost samples. -/
def smallLoss : Bytes := [2, 0, 0, 0, 0, 0, 16, 0, 7, 0, 0, 0, 0, 0, 0, 0]

/-- The size of a frame is seven, and a whole frame stands behind it. -/
def brokenHeader : Bytes := [9, 0, 0, 0, 0, 0, 7, 0] ++ largeSample

/-- The sample ends with its frame, and the frame behind the broken header is not found. -/
theorem records_framed_brokenHeader :
    (∀ frame ∈ [largeSample, smallLoss], IsFrame frame) ∧ Broken brokenHeader ∧
      records ([largeSample, smallLoss].flatten ++ brokenHeader) =
        [.sample [1, 2, 3, 4], .other 2] ∧
      largeSample.HasAt 12 [1, 2, 3, 4] := by
  have whole : ∀ frame ∈ [largeSample, smallLoss], IsFrame frame := by decide +kernel
  have broken : Broken brokenHeader := .inr (.inl (by decide +kernel))
  have said : [largeSample, smallLoss].map Record.ofFrame = [.sample [1, 2, 3, 4], .other 2] := by
    decide +kernel
  obtain ⟨split, none, _, inside, _⟩ := records_framed whole brokenHeader
  rw [said, none broken, List.append_nil] at split
  exact ⟨whole, broken, split, inside 0 _ _ rfl (by rw [split]; rfl)⟩

end ProbeStream.Perf
