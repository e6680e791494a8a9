import ProbeStream.Perf.Record

/-!
# Cutting frames apart

A run of whole frames is cut at their borders and nowhere else, whatever comes behind it. So the
records of such a run are those of its frames, one for each, in order.
-/

namespace ProbeStream.Perf

/-- Bytes that are one whole frame: the size in the header is their length. -/
def IsFrame (frame : Bytes) : Prop :=
  frameHeaderSize ≤ frame.length ∧ frameSize frame = frame.length

instance (frame : Bytes) : Decidable (IsFrame frame) := inferInstanceAs (Decidable (_ ∧ _))

/-- The size stands in the first eight bytes, so what comes behind them does not change it. -/
theorem frameSize_append {bytes : Bytes} (header : frameHeaderSize ≤ bytes.length) (rest : Bytes) :
    frameSize (bytes ++ rest) = frameSize bytes := by
  rw [frameHeaderSize] at header
  rw [frameSize, frameSize, ByteOrder.u16At, ByteOrder.u16At, Bytes.slice_append_left (by omega)]

theorem frames_of_not_hasFrame {bytes : Bytes} (broken : ¬ hasFrame bytes) : frames bytes = [] := by
  rw [frames, dif_neg broken]

@[simp] theorem frames_nil : frames [] = [] :=
  frames_of_not_hasFrame fun whole => Nat.not_succ_le_zero _ whole.1

/-- A whole frame is the first one of the bytes that it begins. -/
theorem frames_append {frame : Bytes} (whole : IsFrame frame) (rest : Bytes) :
    frames (frame ++ rest) = frame :: frames rest := by
  obtain ⟨header, size⟩ := whole
  have same : frameSize (frame ++ rest) = frame.length := (frameSize_append header rest).trans size
  have begins : hasFrame (frame ++ rest) := by
    refine ⟨?_, ?_, ?_⟩
    · rw [List.length_append]
      omega
    · rw [same]
      exact header
    · rw [same, List.length_append]
      omega
  rw [frames, dif_pos begins, same, List.take_left, List.drop_left]

/-- Whole frames are cut apart at their borders, and the cutting goes on behind them. -/
theorem frames_flatten_append {list : List Bytes} (whole : ∀ frame ∈ list, IsFrame frame)
    (rest : Bytes) : frames (list.flatten ++ rest) = list ++ frames rest := by
  induction list with
  | nil => rfl
  | cons frame others ih =>
    rw [List.flatten_cons, List.append_assoc, frames_append (whole frame List.mem_cons_self),
      ih fun other member => whole other (List.mem_cons_of_mem frame member), List.cons_append]

/-- The records of whole frames are one for each frame, in order. -/
theorem records_flatten {list : List Bytes} (whole : ∀ frame ∈ list, IsFrame frame) :
    records list.flatten = list.map Record.ofFrame := by
  have cut := frames_flatten_append whole []
  rw [List.append_nil, frames_nil, List.append_nil] at cut
  rw [records, cut]

end ProbeStream.Perf
