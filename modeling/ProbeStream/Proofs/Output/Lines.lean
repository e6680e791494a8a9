import ProbeStream.Output.EventOutput
import ProbeStream.Proofs.Net.Address
import ProbeStream.Proofs.Text.Utf8

/-!
# Lines

Both formats write an event as one line: a text without a line feed, and a line feed behind it
(`exists_body`). So is its encoding (`isLine_encoded`), and bytes that are put together from such
lines are cut into the same lines again (`cutLines_flatten`). A writer that never fails gets the
lines whole and in order (`Writer.Endless.put`).
-/

namespace ProbeStream

/-! ## Texts without a line feed -/

/-- The text has no line feed. -/
def Unbroken (text : String) : Prop := '\n' ∉ text.toList

instance (text : String) : Decidable (Unbroken text) :=
  inferInstanceAs (Decidable (¬ '\n' ∈ text.toList))

theorem unbroken_ofList_iff {chars : List Char} :
    Unbroken (String.ofList chars) ↔ '\n' ∉ chars := by
  rw [Unbroken, String.toList_ofList]

namespace Unbroken

theorem append {first second : String} (unbroken : Unbroken first) (rest : Unbroken second) :
    Unbroken (first ++ second) := by
  rw [Unbroken, String.toList_append, List.mem_append, not_or]
  exact ⟨unbroken, rest⟩

theorem intercalate {separator : String} (between : Unbroken separator) {parts : List String}
    (unbroken : ∀ part ∈ parts, Unbroken part) : Unbroken (separator.intercalate parts) :=
  Text.notMem_intercalate between unbroken

end Unbroken

/-! ## Numbers and addresses -/

theorem newline_notMem_toDigits (base n : Nat) : '\n' ∉ Nat.toDigits base n :=
  Text.notMem_toDigits (by decide) base n

theorem unbroken_ofDigits (base n : Nat) : Unbroken (String.ofList (Nat.toDigits base n)) :=
  unbroken_ofList_iff.mpr (newline_notMem_toDigits base n)

theorem unbroken_number (n : Nat) : Unbroken (toString n) := unbroken_ofDigits 10 n

theorem Address.unbroken_endpointText {family : Family} (address : Address family)
    (port : UInt16) : Unbroken (address.endpointText port) :=
  Endpoint.notMem_text (by decide) (by decide) ⟨family, address, port⟩

theorem EventKind.unbroken_word (kind : EventKind) : Unbroken kind.word := by
  cases kind with
  | unknown number => exact (by decide : Unbroken "unknown")
  | _ => decide

/-! ## Quoted texts -/

/-- A text between quotes has no line feed if no written form of a character has one. -/
theorem unbroken_quoted {escape : Char → List Char} (escaped : ∀ c, '\n' ∉ escape c)
    (text : String) :
    Unbroken (String.ofList (['"'] ++ text.toList.flatMap escape ++ ['"'])) := by
  have inner : '\n' ∉ text.toList.flatMap escape := by
    rw [List.mem_flatMap]
    rintro ⟨c, -, inside⟩
    exact escaped c inside
  have quote : '\n' ∉ ['"'] := by decide
  rw [unbroken_ofList_iff, List.mem_append, List.mem_append, not_or, not_or]
  exact ⟨⟨quote, inner⟩, quote⟩

theorem Text.Quoted.newline_notMem_escape (c : Char) : '\n' ∉ escape c := by
  unfold escape
  repeat' split
  all_goals try decide
  · have digits := newline_notMem_toDigits 16 c.toNat
    simp [digits]
  · next notNewline _ _ _ _ => exact fun same => notNewline (List.mem_singleton.mp same).symm

theorem Text.Quoted.unbroken_quote (text : String) : Unbroken (quote text) :=
  unbroken_quoted newline_notMem_escape text

namespace Output

theorem Json.newline_notMem_escape (c : Char) : '\n' ∉ escape c := by
  unfold escape
  repeat' split
  all_goals try decide
  · have digits := newline_notMem_toDigits 16 c.toNat
    simp [hex4, digits]
  · next notNewline _ _ _ => exact fun same => notNewline (List.mem_singleton.mp same).symm

theorem Json.unbroken_string (text : String) : Unbroken (string text) :=
  unbroken_quoted newline_notMem_escape text

theorem Json.unbroken_object {members : List (String × String)}
    (unbroken : ∀ entry ∈ members, Unbroken entry.2) : Unbroken (object members) := by
  refine .append (.append (by decide) (.intercalate (by decide) ?_)) (by decide)
  simp only [List.mem_map]
  rintro _ ⟨entry, present, rfl⟩
  exact .append (.append (unbroken_string entry.1) (by decide)) (unbroken entry present)

/-! ## Lines of events -/

variable {family : Family}

theorem exists_textBody (event : Event family) :
    ∃ body, Unbroken body ∧ textLine event = body ++ "\n" := by
  let lead := s!"{event.timestamp.toNat} cpu#{event.cpu.toNat} {event.kind.word} {event.pid.toNat} "
  let ends := s!"{event.sourceText} {event.destinationText} {event.netns.toNat}"
  have space : Unbroken " " := by decide
  have unbrokenLead : Unbroken lead := by
    have timestamp := unbroken_number event.timestamp.toNat
    have cpu := unbroken_number event.cpu.toNat
    have kind := event.kind.unbroken_word
    have pid := unbroken_number event.pid.toNat
    exact ((((((timestamp.append (by decide)).append cpu).append space).append kind).append
      space).append pid).append space
  have unbrokenEnds : Unbroken ends := by
    have source := event.source.unbroken_endpointText event.sourcePort
    have destination := event.destination.unbroken_endpointText event.destinationPort
    have netns := unbroken_number event.netns.toNat
    exact (((source.append space).append destination).append space).append netns
  obtain ⟨command, unbrokenCommand, line⟩ :
      ∃ command, Unbroken command ∧ textLine event = lead ++ command ++ (ends ++ "\n") := by
    unfold textLine
    cases shownCommand event with
    | none => exact ⟨"", by decide, rfl⟩
    | some name => exact ⟨_, (Text.Quoted.unbroken_quote name).append space, rfl⟩
  exact ⟨lead ++ command ++ ends, (unbrokenLead.append unbrokenCommand).append unbrokenEnds,
    line.trans String.append_assoc.symm⟩

theorem unbroken_jsonMembers (event : Event family) :
    ∀ entry ∈ jsonMembers event, Unbroken entry.2 := by
  unfold jsonMembers
  cases shownCommand event with
  | none => simp [Json.unbroken_string, Text.Decimal.write, unbroken_ofDigits]
  | some name => simp [Json.unbroken_string, Text.Decimal.write, unbroken_ofDigits]

end Output

/-- An event is written as one line. -/
theorem OutputFormat.exists_body {family : Family} (format : OutputFormat) (event : Event family) :
    ∃ body, Unbroken body ∧ format.line event = body ++ "\n" := by
  cases format with
  | text => exact Output.exists_textBody event
  | json =>
    exact ⟨_, Output.Json.unbroken_object (Output.unbroken_jsonMembers event), rfl⟩

/-! ## Lines of bytes -/

def lineFeed : UInt8 := 10

/-- Bytes that are one line. -/
def IsLine (bytes : Bytes) : Prop := ∃ body, lineFeed ∉ body ∧ bytes = body ++ [lineFeed]

/-- The bytes, cut behind each line feed. -/
def cutLines : Bytes → List Bytes
  | [] => []
  | byte :: rest =>
    if byte = lineFeed then [byte] :: cutLines rest
    else
      match cutLines rest with
      | [] => [[byte]]
      | line :: lines => (byte :: line) :: lines

theorem IsLine.cutLines_append {line : Bytes} (isLine : IsLine line) (rest : Bytes) :
    cutLines (line ++ rest) = line :: cutLines rest := by
  obtain ⟨body, absent, rfl⟩ := isLine
  induction body with
  | nil => exact if_pos rfl
  | cons byte body ih =>
    obtain ⟨differs, absent⟩ := List.ne_and_not_mem_of_not_mem_cons absent
    rw [List.cons_append, List.cons_append, cutLines, if_neg differs.symm, ih absent]

/-- Lines that are put together are cut into the same lines again. -/
theorem cutLines_flatten {lines : List Bytes} (areLines : ∀ line ∈ lines, IsLine line) :
    cutLines lines.flatten = lines := by
  induction lines with
  | nil => rfl
  | cons line rest ih =>
    obtain ⟨isLine, others⟩ := List.forall_mem_cons.mp areLines
    rw [List.flatten_cons, isLine.cutLines_append, ih others]

/-- What is written for an event. -/
def OutputFormat.encoded {family : Family} (format : OutputFormat) (event : Event family) : Bytes :=
  Utf8.encode (format.line event)

/-- What is written for an event is one line. -/
theorem isLine_encoded {family : Family} (format : OutputFormat) (event : Event family) :
    IsLine (format.encoded event) := by
  obtain ⟨body, unbroken, line⟩ := format.exists_body event
  refine ⟨Utf8.encode body, Utf8.byte_notMem_encode (by decide) unbroken, ?_⟩
  rw [OutputFormat.encoded, line, Utf8.encode_append]
  rfl

/-- An event of either family. -/
abbrev AnyEvent := Σ family, Event family

/-- What is written for some events. -/
def OutputFormat.written (format : OutputFormat) (events : List AnyEvent) : Bytes :=
  (events.map fun event => format.encoded event.2).flatten

/-- What is written for some events is cut into what is written for each of them. -/
theorem cutLines_written (format : OutputFormat) (events : List AnyEvent) :
    cutLines (format.written events) = events.map fun event => format.encoded event.2 := by
  refine cutLines_flatten ?_
  rw [List.forall_mem_map]
  exact fun event _ => isLine_encoded format event.2

/-- Writes events one after the other, up to the first failure. -/
def EventOutput.writeEvents {τ : Type} (output : EventOutput τ) :
    List AnyEvent → StateM τ (Except IoError Unit)
  | [], state => (.ok (), state)
  | ⟨family, event⟩ :: rest, state =>
    match output.writeEvent family event state with
    | (.error failure, state) => (.error failure, state)
    | (.ok (), state) => writeEvents output rest state

/-! ## Writers that never fail -/

namespace Output

variable {τ : Type}

/-- In these states the writer takes whatever it is given, behind what it has got before. -/
structure Writer.Endless (writer : Writer τ) (able : τ → Prop) (content : τ → Bytes) : Prop where
  write : ∀ (piece : Bytes) (state : τ), able state →
    ∃ after, writer.write piece state = (.ok (), after) ∧ able after ∧
      content after = content state ++ piece
  flush : ∀ state : τ, able state →
    ∃ after, writer.flush state = (.ok (), after) ∧ able after ∧ content after = content state

/-- The lines of all events are added in order. -/
theorem Writer.Endless.writeEvents {writer : Writer τ} {able : τ → Prop} {content : τ → Bytes}
    (endless : writer.Endless able content) (format : OutputFormat) (events : List AnyEvent)
    {state : τ} (begins : able state) :
    ∃ after, (EventOutput.lines format writer).writeEvents events state = (.ok (), after) ∧
      able after ∧ content after = content state ++ format.written events := by
  induction events generalizing state with
  | nil => exact ⟨state, rfl, begins, (List.append_nil _).symm⟩
  | cons event rest ih =>
    obtain ⟨family, event⟩ := event
    obtain ⟨middle, first, goesOn, added⟩ := endless.write (format.encoded event) state begins
    obtain ⟨after, others, ableAfter, addedLater⟩ := ih goesOn
    refine ⟨after, ?_, ableAfter, ?_⟩
    · rw [EventOutput.writeEvents, show (EventOutput.lines format writer).writeEvent family event
        state = (.ok (), middle) from first]
      exact others
    · rw [addedLater, added, List.append_assoc]
      rfl

/-- A whole line is added for each event. -/
theorem Writer.Endless.put {writer : Writer τ} {able : τ → Prop} {content : τ → Bytes}
    (endless : writer.Endless able content) (format : OutputFormat) {family : Family}
    (event : Event family) {state : τ} (begins : able state) :
    ∃ after, (EventOutput.lines format writer).put event state = (.ok (), after) ∧ able after ∧
      content after = content state ++ format.encoded event := by
  obtain ⟨middle, written, ableToFlush, added⟩ := endless.write (format.encoded event) state begins
  obtain ⟨after, flushed, ableAfter, same⟩ := endless.flush middle ableToFlush
  refine ⟨after, ?_, ableAfter, same.trans added⟩
  rw [EventOutput.put, show (EventOutput.lines format writer).writeEvent family event state =
    (.ok (), middle) from written]
  exact flushed

/-- A sink without limit and without a failure to flush. -/
theorem Sink.endless_writer :
    Sink.writer.Endless (fun sink => sink.room = none ∧ sink.flushFailure = none) Sink.stored where
  write := by
    rintro piece ⟨stored, room, full, flushFailure⟩ ⟨rfl, rfl⟩
    exact ⟨_, rfl, ⟨rfl, rfl⟩, rfl⟩
  flush := by
    rintro ⟨stored, room, full, flushFailure⟩ ⟨rfl, rfl⟩
    exact ⟨_, rfl, ⟨rfl, rfl⟩, rfl⟩

end Output

end ProbeStream
