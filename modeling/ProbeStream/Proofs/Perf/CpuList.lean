import Mathlib.Data.List.Forall2
import Mathlib.Data.List.Pairwise
import ProbeStream.Program
import ProbeStream.Proofs.Text.Fields

/-!
# Lists of processors

A list of processors is numbers and ranges between commas, with white space around (`Lists`). That
grammar is exactly what is accepted, and the processors are those that it gives
(`cpuList_eq_ok_iff`). A kernel writes an ascending list by its maximal runs (`kernelText`,
`isMaximalRun_of_mem_runs`), and what it writes is read back (`cpuList_kernelText`).

Results:

1. `cpuPiece_eq_ok_iff`: what one piece between commas gives.
2. `Piece.char`: no character of a piece is white space or a comma, so that trimming and cutting
   find the pieces of a list as they stand in it.
3. `flatMap_runs`: runs are put together again, whatever the list.
-/

namespace ProbeStream.Perf.CpuList

/-! ## The grammar -/

/-- ASCII digits that write the number of a processor, with or without zeros in front. -/
structure Writes (digits : List Char) (cpu : UInt32) : Prop where
  filled : digits ≠ []
  ascii : ∀ c ∈ digits, '0' ≤ c ∧ c ≤ '9'
  value : Text.numberOf 10 digits = cpu.toNat

/-- The processors from `first` to `last`, each once and in ascending order. There are none if
`last` comes before `first`. -/
structure Spans (first last : UInt32) (cpus : List UInt32) : Prop where
  ascending : cpus.Pairwise (· < ·)
  mem_iff : ∀ cpu, cpu ∈ cpus ↔ first ≤ cpu ∧ cpu ≤ last

/-- A number, or a range of numbers, with the processors that it stands for. -/
inductive Piece : List Char → List UInt32 → Prop
  | number {digits : List Char} {cpu : UInt32} : Writes digits cpu → Piece digits [cpu]
  | range {front back : List Char} {first last : UInt32} {cpus : List UInt32} :
      Writes front first → Writes back last → Spans first last cpus →
      Piece (front ++ '-' :: back) cpus

/-- White space, pieces between commas, some of which may be empty, and white space. -/
def Lists (text : List Char) (cpus : List UInt32) : Prop :=
  ∃ before pieces after ranges, text = before ++ [','].intercalate pieces ++ after ∧
    (∀ c ∈ before, Text.isBlank c) ∧ (∀ c ∈ after, Text.isBlank c) ∧
    List.Forall₂ Piece (pieces.filter (· ≠ [])) ranges ∧ cpus = ranges.flatten

/-! ## Numbers and ranges -/

theorem cpuNumber_eq_ok_iff {digits : List Char} {number : Nat} :
    cpuNumber digits = .ok number ↔ ∃ cpu : UInt32, Writes digits cpu ∧ cpu.toNat = number := by
  have read : cpuNumber digits = .ok number ↔
      Text.Decimal.readDigits? (UInt32.size - 1) digits = some number := by
    rw [cpuNumber]
    cases Text.Decimal.readDigits? (UInt32.size - 1) digits <;> simp
  rw [read, Text.readDigits?_eq_some_iff]
  constructor
  · rintro ⟨filled, ascii, value, small⟩
    have same : (UInt32.ofNat number).toNat = number :=
      UInt32.toNat_ofNat_of_lt' (Nat.lt_of_le_pred (by decide) small)
    exact ⟨.ofNat number, ⟨filled, fun c inside => Text.isDigit_iff.mp (ascii c inside),
      value.trans same.symm⟩, same⟩
  · rintro ⟨cpu, writes, rfl⟩
    exact ⟨writes.filled, fun c inside => Text.isDigit_iff.mpr (writes.ascii c inside),
      writes.value, Nat.le_pred_of_lt cpu.toNat_lt⟩

namespace Writes

variable {digits : List Char} {cpu : UInt32}

theorem isNumeral (writes : Writes digits cpu) : isNumeral digits := by
  have digit : ∀ c ∈ digits, Text.isDecimalDigit c := fun c inside =>
    Text.isDecimalDigit_of_isDigit (Text.isDigit_iff.mpr (writes.ascii c inside))
  simpa [Perf.isNumeral, writes.filled] using digit

theorem cpuNumber (writes : Writes digits cpu) : cpuNumber digits = .ok cpu.toNat :=
  cpuNumber_eq_ok_iff.mpr ⟨cpu, writes, rfl⟩

theorem notMem (writes : Writes digits cpu) {c : Char} (other : ¬ ('0' ≤ c ∧ c ≤ '9')) :
    c ∉ digits := fun inside => other (writes.ascii c inside)

theorem toDigits (cpu : UInt32) : Writes (Nat.toDigits 10 cpu.toNat) cpu where
  filled := Nat.toDigits_ne_nil
  ascii := fun _ inside => Text.isDigit_iff.mp (Text.isDigit_of_mem_toDigits inside)
  value := Text.numberOf_toDigits (by decide) (by decide) cpu.toNat

end Writes

theorem spans_cpuRange (first last : UInt32) :
    Spans first last (cpuRange first.toNat last.toNat) where
  ascending := by
    rw [cpuRange, List.pairwise_map]
    refine List.Pairwise.imp_of_mem ?_ List.pairwise_lt_range'
    intro number other inside alsoInside less
    have most : last.toNat < UInt32.size := last.toNat_lt
    rw [List.mem_range'_1] at inside alsoInside
    rw [UInt32.lt_iff_toNat_lt, UInt32.toNat_ofNat_of_lt' (by omega),
      UInt32.toNat_ofNat_of_lt' (by omega)]
    exact less
  mem_iff := by
    intro cpu
    have most : last.toNat < UInt32.size := last.toNat_lt
    rw [cpuRange, List.mem_map, UInt32.le_iff_toNat_le, UInt32.le_iff_toNat_le]
    constructor
    · rintro ⟨number, inside, rfl⟩
      rw [List.mem_range'_1] at inside
      rw [UInt32.toNat_ofNat_of_lt' (by omega)]
      omega
    · rintro ⟨least, greatest⟩
      exact ⟨cpu.toNat, List.mem_range'_1.mpr (by omega), UInt32.ofNat_toNat⟩

theorem Spans.unique {first last : UInt32} {cpus others : List UInt32}
    (spans : Spans first last cpus) (also : Spans first last others) : cpus = others := by
  have members : ∀ cpu, cpu ∈ cpus ↔ cpu ∈ others := fun cpu =>
    (spans.mem_iff cpu).trans (also.mem_iff cpu).symm
  have once {list : List UInt32} (ascending : list.Pairwise (· < ·)) : list.Nodup :=
    ascending.imp UInt32.ne_of_lt
  have perm : cpus.Perm others :=
    (List.perm_ext_iff_of_nodup (once spans.ascending) (once also.ascending)).mpr members
  exact perm.eq_of_pairwise (fun _ _ _ _ less greater => absurd less (UInt32.lt_asymm greater))
    spans.ascending also.ascending

theorem cpuRange_self (cpu : UInt32) : cpuRange cpu.toNat cpu.toNat = [cpu] := by
  rw [cpuRange, Nat.add_sub_cancel_left]
  simp

/-! ## One piece -/

theorem Piece.cpuPiece {piece : List Char} {cpus : List UInt32} (given : Piece piece cpus) :
    cpuPiece piece = .ok cpus := by
  have minus : ¬ ('0' ≤ '-' ∧ '-' ≤ '9') := by decide
  cases given with
  | @number _ cpu writes =>
    have only : Text.fields '-' piece = [piece] := by
      have cut := @Text.fields_intercalate '-' [piece]
        (by simpa using writes.notMem minus) (by simp)
      rwa [List.intercalate_singleton] at cut
    rw [Perf.cpuPiece, only]
    simp [writes.isNumeral, writes.cpuNumber, Except.map, cpuRange_self]
  | @range front back first last _ firstWrites lastWrites spans =>
    have both : Text.fields '-' (front ++ '-' :: back) = [front, back] := by
      have cut := @Text.fields_intercalate '-' [front, back]
        (by simpa using ⟨firstWrites.notMem minus, lastWrites.notMem minus⟩) (by simp)
      simpa [List.intercalate_cons_cons] using cut
    rw [Perf.cpuPiece, both, spans.unique (spans_cpuRange first last)]
    simp [firstWrites.isNumeral, lastWrites.isNumeral, firstWrites.cpuNumber,
      lastWrites.cpuNumber, Except.map]

theorem map_eq_ok_iff {α β : Type} {answer : Except CpuListFault α} {f : α → β} {result : β} :
    answer.map f = .ok result ↔ ∃ value, answer = .ok value ∧ f value = result := by
  cases answer <;> simp [Except.map]

theorem piece_of_cpuPiece {piece : List Char} {cpus : List UInt32}
    (read : cpuPiece piece = .ok cpus) : Piece piece cpus := by
  have joined := Text.intercalate_fields '-' piece
  rw [cpuPiece] at read
  split at read
  · next only cut =>
    rw [cut, List.intercalate_singleton] at joined
    subst joined
    split at read
    · obtain ⟨number, known, rfl⟩ := map_eq_ok_iff.mp read
      obtain ⟨cpu, writes, rfl⟩ := cpuNumber_eq_ok_iff.mp known
      show Piece only (cpuRange cpu.toNat cpu.toNat)
      rw [cpuRange_self]
      exact .number writes
    · cases read
  · next front back cut =>
    rw [cut, List.intercalate_cons_cons, List.intercalate_singleton] at joined
    subst joined
    split at read
    · split at read
      · cases read
      · next number known =>
        obtain ⟨other, alsoKnown, rfl⟩ := map_eq_ok_iff.mp read
        obtain ⟨first, firstWrites, rfl⟩ := cpuNumber_eq_ok_iff.mp known
        obtain ⟨last, lastWrites, rfl⟩ := cpuNumber_eq_ok_iff.mp alsoKnown
        simpa using Piece.range firstWrites lastWrites (spans_cpuRange first last)
    · cases read
  · cases read

theorem cpuPiece_eq_ok_iff {piece : List Char} {cpus : List UInt32} :
    cpuPiece piece = .ok cpus ↔ Piece piece cpus := ⟨piece_of_cpuPiece, Piece.cpuPiece⟩

/-- The characters of pieces are digits and minus signs, so none is a comma or white space. -/
theorem Piece.char {piece : List Char} {cpus : List UInt32} (given : Piece piece cpus) :
    ∀ c ∈ piece, c ≠ ',' ∧ ¬ Text.isBlank c := by
  have digit {c : Char} (ascii : '0' ≤ c ∧ c ≤ '9') : c ≠ ',' ∧ ¬ Text.isBlank c := by
    obtain ⟨least, most⟩ := ascii
    have least : 48 ≤ c.toNat := least
    have most : c.toNat ≤ 57 := most
    refine ⟨fun comma => absurd (comma ▸ least) (by decide), fun blank => ?_⟩
    obtain ⟨range, member, below, above⟩ := Text.inRanges_iff.mp blank
    simp only [Text.blankRanges, List.mem_cons, List.not_mem_nil, or_false] at member
    rcases member with rfl | rfl | rfl | rfl | rfl | rfl | rfl | rfl | rfl | rfl <;> omega
  intro c inside
  cases given with
  | number writes => exact digit (writes.ascii c inside)
  | range firstWrites lastWrites spans =>
    rcases List.mem_append.mp inside with first | later
    · exact digit (firstWrites.ascii c first)
    · rcases List.mem_cons.mp later with rfl | last
      · exact ⟨by decide, by decide⟩
      · exact digit (lastWrites.ascii c last)

/-! ## Whole lists -/

theorem cpuPieces_eq_ok_iff {pieces : List (List Char)} {cpus : List UInt32} :
    cpuPieces pieces = .ok cpus ↔
      ∃ ranges, List.Forall₂ Piece pieces ranges ∧ cpus = ranges.flatten := by
  induction pieces generalizing cpus with
  | nil => simp [cpuPieces, eq_comm]
  | cons piece others ih =>
    constructor
    · intro read
      rw [cpuPieces] at read
      split at read
      · cases read
      · next first known =>
        obtain ⟨later, rest, rfl⟩ := map_eq_ok_iff.mp read
        obtain ⟨ranges, each, rfl⟩ := ih.mp rest
        exact ⟨first :: ranges, .cons (cpuPiece_eq_ok_iff.mp known) each, rfl⟩
    · rintro ⟨ranges, each, rfl⟩
      cases each with
      | @cons _ first _ ranges given each =>
        rw [cpuPieces, cpuPiece_eq_ok_iff.mpr given, ih.mpr ⟨ranges, each, rfl⟩]
        rfl

/-- Exactly the texts of the grammar are accepted, and give the processors of their pieces. -/
theorem cpuList_eq_ok_iff {text : String} {cpus : List UInt32} :
    cpuList text = .ok cpus ↔ Lists text.toList cpus := by
  rw [cpuList, cpuPieces_eq_ok_iff]
  constructor
  · rintro ⟨ranges, each, rfl⟩
    obtain ⟨before, after, split, leading, trailing⟩ := Text.exists_trim text.toList
    refine ⟨before, _, after, ranges, ?_, leading, trailing, each, rfl⟩
    rw [Text.intercalate_fields]
    exact split
  · rintro ⟨before, pieces, after, ranges, split, leading, trailing, each, rfl⟩
    have chars : ∀ piece ∈ pieces.filter (· ≠ []), ∀ c ∈ piece, c ≠ ',' ∧ ¬ Text.isBlank c :=
      ((List.forall₂_and_left _ _).mp (each.imp fun _ _ given => ⟨given.char, given⟩)).1
    have char {piece : List Char} (member : piece ∈ pieces) {c : Char} (inside : c ∈ piece) :
        c ≠ ',' ∧ ¬ Text.isBlank c :=
      chars piece (by simpa using ⟨member, List.ne_nil_of_mem inside⟩) c inside
    have solid : ∀ c ∈ [','].intercalate pieces, ¬ Text.isBlank c := by
      intro c inside
      rcases Text.mem_of_mem_intercalate inside with rfl | ⟨piece, member, inside⟩
      · decide
      · exact (char member inside).2
    have uncut : ∀ piece ∈ pieces, ',' ∉ piece := fun piece member inside =>
      (char member inside).1 rfl
    refine ⟨ranges, ?_, rfl⟩
    rw [split, Text.trim_of_blank leading trailing solid, Text.filter_fields_intercalate uncut]
    exact each

/-! ## Runs -/

/-- Processors with consecutive numbers. -/
structure Run where
  first : UInt32
  last : UInt32
deriving DecidableEq, Repr

namespace Run

def cpus (run : Run) : List UInt32 := cpuRange run.first.toNat run.last.toNat

/-- A number, or the two numbers between which a run lies. -/
def text (run : Run) : String :=
  if run.first = run.last then Text.Decimal.write run.first.toNat
  else Text.Decimal.write run.first.toNat ++ "-" ++ Text.Decimal.write run.last.toNat

theorem mem_cpus_iff {run : Run} {cpu : UInt32} :
    cpu ∈ run.cpus ↔ run.first ≤ cpu ∧ cpu ≤ run.last :=
  (spans_cpuRange run.first run.last).mem_iff cpu

theorem piece (run : Run) : Piece run.text.toList run.cpus := by
  rw [text, cpus]
  split
  · next same =>
    rw [same, cpuRange_self, Text.Decimal.write, String.toList_ofList]
    exact .number (.toDigits run.last)
  · simp only [Text.Decimal.write, String.toList_append, String.toList_ofList, List.append_assoc]
    exact .range (.toDigits run.first) (.toDigits run.last) (spans_cpuRange _ _)

end Run

/-- The runs of a list that has one more processor in front. -/
def prepend (cpu : UInt32) : List Run → List Run
  | [] => [⟨cpu, cpu⟩]
  | run :: others =>
    if cpu.toNat + 1 = run.first.toNat then ⟨cpu, run.last⟩ :: others
    else ⟨cpu, cpu⟩ :: run :: others

/-- A list of processors as runs. -/
def runs : List UInt32 → List Run
  | [] => []
  | cpu :: rest => prepend cpu (runs rest)

/-- A list of processors as a kernel writes it. -/
def kernelText (cpus : List UInt32) : String :=
  ",".intercalate ((runs cpus).map Run.text) ++ "\n"

theorem le_of_mem_prepend {cpu : UInt32} {list : List Run}
    (ordered : ∀ run ∈ list, run.first ≤ run.last) :
    ∀ run ∈ prepend cpu list, run.first ≤ run.last := by
  cases list with
  | nil => simp [prepend]
  | cons run others =>
    obtain ⟨first, later⟩ := List.forall_mem_cons.mp ordered
    rw [prepend]
    split
    · next next =>
      have longer : cpu ≤ run.last := by
        rw [UInt32.le_iff_toNat_le] at first ⊢
        omega
      exact List.forall_mem_cons.mpr ⟨longer, later⟩
    · exact List.forall_mem_cons.mpr ⟨UInt32.le_refl cpu, ordered⟩

theorem le_of_mem_runs {cpus : List UInt32} : ∀ run ∈ runs cpus, run.first ≤ run.last := by
  induction cpus with
  | nil => simp [runs]
  | cons cpu rest ih => exact le_of_mem_prepend ih

theorem flatMap_prepend {cpu : UInt32} {list : List Run}
    (ordered : ∀ run ∈ list, run.first ≤ run.last) :
    (prepend cpu list).flatMap Run.cpus = cpu :: list.flatMap Run.cpus := by
  cases list with
  | nil => simp [prepend, Run.cpus, cpuRange_self]
  | cons run others =>
    have first : run.first.toNat ≤ run.last.toNat :=
      UInt32.le_iff_toNat_le.mp (ordered run List.mem_cons_self)
    rw [prepend]
    split
    · next next =>
      have longer : cpuRange cpu.toNat run.last.toNat =
          cpu :: cpuRange run.first.toNat run.last.toNat := by
        have count : run.last.toNat + 1 - cpu.toNat = run.last.toNat + 1 - run.first.toNat + 1 := by
          omega
        rw [cpuRange, count, List.range'_succ, next, List.map_cons, UInt32.ofNat_toNat]
        rfl
      rw [List.flatMap_cons, List.flatMap_cons, Run.cpus, longer]
      rfl
    · rw [List.flatMap_cons, Run.cpus, cpuRange_self]
      rfl

/-- Runs are put together again, whatever the list. -/
theorem flatMap_runs (cpus : List UInt32) : (runs cpus).flatMap Run.cpus = cpus := by
  induction cpus with
  | nil => rfl
  | cons cpu rest ih => rw [runs, flatMap_prepend le_of_mem_runs, ih]

theorem mem_iff_exists_run {cpus : List UInt32} {cpu : UInt32} :
    cpu ∈ cpus ↔ ∃ run ∈ runs cpus, run.first ≤ cpu ∧ cpu ≤ run.last := by
  have members : cpu ∈ cpus ↔ cpu ∈ (runs cpus).flatMap Run.cpus := by rw [flatMap_runs]
  simp only [members, List.mem_flatMap, Run.mem_cpus_iff]

/-- Between the runs of an ascending list processors are missing. -/
theorem pairwise_runs {cpus : List UInt32} (ascending : cpus.Pairwise (· < ·)) :
    (runs cpus).Pairwise fun run other => run.last.toNat + 1 < other.first.toNat := by
  induction cpus with
  | nil => exact .nil
  | cons cpu rest ih =>
    obtain ⟨least, ascending⟩ := List.pairwise_cons.mp ascending
    have apart := ih ascending
    have ordered : ∀ run ∈ runs rest, run.first.toNat ≤ run.last.toNat := fun run member =>
      UInt32.le_iff_toNat_le.mp (le_of_mem_runs run member)
    have above : ∀ run ∈ runs rest, cpu.toNat < run.first.toNat := fun run member =>
      UInt32.lt_iff_toNat_lt.mp <| least _ <|
        mem_iff_exists_run.mpr ⟨run, member, UInt32.le_refl _, le_of_mem_runs run member⟩
    rw [runs]
    cases found : runs rest with
    | nil => exact List.pairwise_singleton _ _
    | cons run others =>
      rw [found] at apart ordered above
      obtain ⟨behind, later⟩ := List.pairwise_cons.mp apart
      have here : cpu.toNat < run.first.toNat := above run List.mem_cons_self
      have width : run.first.toNat ≤ run.last.toNat := ordered run List.mem_cons_self
      rw [prepend]
      split
      · exact List.pairwise_cons.mpr ⟨behind, later⟩
      · next gap =>
        refine List.pairwise_cons.mpr ⟨List.forall_mem_cons.mpr ⟨?_, fun other member => ?_⟩, apart⟩
        · show cpu.toNat + 1 < run.first.toNat
          omega
        · have far := behind other member
          show cpu.toNat + 1 < other.first.toNat
          omega

/-- Between two runs, whichever comes first, a processor is missing. -/
def Run.Apart (run other : Run) : Prop :=
  run.last.toNat + 1 < other.first.toNat ∨ other.last.toNat + 1 < run.first.toNat

instance : Std.Symm Run.Apart := ⟨fun _ _ => Or.symm⟩

/-- A run of processors of the list that cannot be made longer. -/
structure IsMaximalRun (cpus : List UInt32) (run : Run) : Prop where
  ordered : run.first ≤ run.last
  inside : ∀ cpu, run.first ≤ cpu → cpu ≤ run.last → cpu ∈ cpus
  before : ∀ cpu ∈ cpus, cpu.toNat + 1 ≠ run.first.toNat
  behind : ∀ cpu ∈ cpus, cpu.toNat ≠ run.last.toNat + 1

/-- The runs of an ascending list are maximal. -/
theorem isMaximalRun_of_mem_runs {cpus : List UInt32} (ascending : cpus.Pairwise (· < ·))
    {run : Run} (member : run ∈ runs cpus) : IsMaximalRun cpus run := by
  -- a processor of the list lies in this run, or in one that is apart from it on either side
  have place {cpu : UInt32} (inside : cpu ∈ cpus) :
      (run.first.toNat ≤ cpu.toNat ∧ cpu.toNat ≤ run.last.toNat) ∨
        cpu.toNat + 1 < run.first.toNat ∨ run.last.toNat + 1 < cpu.toNat := by
    obtain ⟨other, alsoMember, least, most⟩ := mem_iff_exists_run.mp inside
    rw [UInt32.le_iff_toNat_le] at least most
    by_cases same : run = other
    · subst same
      exact .inl ⟨least, most⟩
    · have apart : (runs cpus).Pairwise Run.Apart := (pairwise_runs ascending).imp .inl
      rcases apart.forall member alsoMember same with far | far
      · exact .inr (.inr (by omega))
      · exact .inr (.inl (by omega))
  have width : run.first.toNat ≤ run.last.toNat :=
    UInt32.le_iff_toNat_le.mp (le_of_mem_runs run member)
  exact
    { ordered := le_of_mem_runs run member
      inside := fun cpu least most => mem_iff_exists_run.mpr ⟨run, member, least, most⟩
      before := fun cpu inside => by
        have := place inside
        omega
      behind := fun cpu inside => by
        have := place inside
        omega }

/-! ## What a kernel writes -/

theorem Piece.ne_nil {piece : List Char} {cpus : List UInt32} (given : Piece piece cpus) :
    piece ≠ [] := by
  cases given with
  | number writes => exact writes.filled
  | range => simp

theorem lists_kernelText (cpus : List UInt32) : Lists (kernelText cpus).toList cpus := by
  have filled : (((runs cpus).map Run.text).map String.toList).filter (· ≠ []) =
      ((runs cpus).map Run.text).map String.toList := by
    rw [List.filter_eq_self]
    simp only [List.mem_map]
    rintro _ ⟨_, ⟨run, -, rfl⟩, rfl⟩
    exact decide_eq_true run.piece.ne_nil
  refine ⟨[], ((runs cpus).map Run.text).map String.toList, ['\n'],
    (runs cpus).map Run.cpus, ?_, by simp, List.forall_mem_singleton.mpr rfl, ?_,
    (flatMap_runs cpus).symm⟩
  · rw [kernelText, String.toList_append, String.toList_intercalate]
    rfl
  · rw [filled, List.map_map, List.forall₂_map_left_iff, List.forall₂_map_right_iff,
      List.forall₂_same]
    exact fun run _ => run.piece

/-- What a kernel writes is read back. -/
theorem cpuList_kernelText (cpus : List UInt32) : cpuList (kernelText cpus) = .ok cpus :=
  cpuList_eq_ok_iff.mpr (lists_kernelText cpus)

example : kernelText [0, 1, 2, 3, 6, 8, 9] = "0-3,6,8-9\n" := by decide +kernel

/-- A text is accepted exactly if it is of the grammar, with the processors that the grammar gives.
Any other text is malformed data where the processors that there may be are read from it. So every
ascending list of processors is read back from what a kernel writes, which is the maximal runs of
the list. -/
theorem cpuList_exact :
    (∀ text cpus, cpuList text = .ok cpus ↔ Lists text.toList cpus) ∧
    (∀ text, (¬ ∃ cpus, Lists text.toList cpus) → ∃ fault, cpuList text = .error fault ∧
      ∀ files, files.readText Program.possibleCpusPath = .ok text →
        Program.possibleCpus files = .error (.invalidData fault.message)) ∧
    ∀ cpus : List UInt32, cpus.Pairwise (· < ·) →
      (∀ run ∈ runs cpus, IsMaximalRun cpus run) ∧ cpuList (kernelText cpus) = .ok cpus := by
  refine ⟨fun _ _ => cpuList_eq_ok_iff, fun text other => ?_, fun cpus ascending =>
    ⟨fun _ => isMaximalRun_of_mem_runs ascending, cpuList_kernelText cpus⟩⟩
  cases read : cpuList text with
  | ok cpus => exact absurd ⟨cpus, cpuList_eq_ok_iff.mp read⟩ other
  | error fault =>
    refine ⟨fault, rfl, fun files given => ?_⟩
    rw [Program.possibleCpus, given]
    show (cpuList text).mapError _ = _
    rw [read]
    rfl

end ProbeStream.Perf.CpuList
