import Mathlib.Data.List.Forall2
import ProbeStream.Proofs.Output.Lines

/-!
# Lines of text and their events

A line of text says of its event everything but the type behind an unknown kind, the bytes of the
name that are not shown, and, for IPv6, the whole name: `Shown` is what it says, and two lines are
equal exactly if their events show the same (`textLine_eq_iff`). No name can pretend to be another
line or another field, whatever bytes it has. A quoted name ends at the first quote that is not
escaped, and each escaped character is read back as it was (`readEscape_escape`). Everything else
stands between spaces and has none.

Since a line has one line feed, at its end, the same is true of lines that are put together
(`textLines_tell_apart`).
-/

namespace ProbeStream

/-! ## Quoted texts -/

namespace Text.Quoted

/-- The character that a backslash and these signs stand for, and what follows. -/
def readEscaped : List Char → Option (Char × List Char)
  | [] => none
  | sign :: rest =>
    if sign = 'u' then
      let digits := (rest.drop 1).takeWhile (· ≠ '\x7d')
      some (Char.ofNat (numberOf 16 digits), rest.drop (digits.length + 2))
    else if sign = 't' then some ('\t', rest)
    else if sign = 'r' then some ('\r', rest)
    else if sign = 'n' then some ('\n', rest)
    else if sign = '0' then some ('\x00', rest)
    else some (sign, rest)

/-- The first character of a quoted text, and what follows. -/
def readEscape : List Char → Option (Char × List Char)
  | [] => none
  | c :: rest => if c = '\\' then readEscaped rest else some (c, rest)

/-- A character is read as it was written, whatever follows. -/
theorem readEscape_escape (c : Char) (rest : List Char) :
    readEscape (escape c ++ rest) = some (c, rest) := by
  unfold escape
  repeat' split
  all_goals try (subst_vars; rfl)
  · have digits : (Nat.toDigits 16 c.toNat ++ '\x7d' :: rest).takeWhile (· ≠ '\x7d') =
        Nat.toDigits 16 c.toNat := by
      rw [List.takeWhile_append_of_pos, List.takeWhile_cons_of_neg (by simp), List.append_nil]
      intro digit inside
      exact decide_eq_true fun same => notMem_toDigits (by decide) 16 c.toNat (same ▸ inside)
    simp only [List.append_assoc, List.cons_append, List.nil_append]
    rw [readEscape, if_pos rfl, readEscaped, if_pos rfl, List.drop_succ_cons, List.drop_zero,
      digits]
    dsimp only
    rw [numberOf_toDigits (by decide) (by decide), Char.ofNat_toNat, List.drop_succ_cons,
      ← List.drop_drop, List.drop_left]
    rfl
  · next notBackslash _ _ _ => exact if_neg notBackslash

theorem escape_append_inj {c other : Char} {rest more : List Char}
    (same : escape c ++ rest = escape other ++ more) : c = other ∧ rest = more := by
  have read := readEscape_escape c rest
  rw [same, readEscape_escape] at read
  obtain ⟨rfl, rfl⟩ := Prod.mk.inj (Option.some.inj read)
  exact ⟨rfl, rfl⟩

/-- No character is written as a quote alone. -/
theorem escape_append_ne_quote (c : Char) (rest more : List Char) :
    escape c ++ rest ≠ '"' :: more := by
  intro same
  have read := readEscape_escape c rest
  rw [same] at read
  obtain ⟨rfl, rfl⟩ := Prod.mk.inj (Option.some.inj read)
  cases same

/-- A quoted text ends at the first quote that is not escaped. -/
theorem flatMap_escape_inj {chars others rest more : List Char}
    (same : chars.flatMap escape ++ '"' :: rest = others.flatMap escape ++ '"' :: more) :
    chars = others ∧ rest = more := by
  induction chars generalizing others with
  | nil =>
    cases others with
    | nil => exact ⟨rfl, (List.cons.inj same).2⟩
    | cons other others =>
      rw [List.flatMap_cons, List.append_assoc] at same
      exact absurd same.symm (escape_append_ne_quote _ _ _)
  | cons c chars ih =>
    cases others with
    | nil =>
      rw [List.flatMap_cons, List.append_assoc] at same
      exact absurd same (escape_append_ne_quote _ _ _)
    | cons other others =>
      rw [List.flatMap_cons, List.flatMap_cons, List.append_assoc, List.append_assoc] at same
      obtain ⟨rfl, later⟩ := escape_append_inj same
      obtain ⟨rfl, rfl⟩ := ih later
      exact ⟨rfl, rfl⟩

theorem toList_quote (text : String) :
    (quote text).toList = '"' :: (text.toList.flatMap escape ++ ['"']) := by
  rw [quote, String.toList_ofList]
  rfl

end Text.Quoted

/-! ## What a line shows -/

namespace Output

/-- What a line of text shows of an event. -/
@[ext]
structure Shown where
  family : Family
  timestamp : UInt64
  cpu : UInt64
  kind : String
  pid : UInt32
  /-- The command name, in lines of IPv4 events. -/
  command : Option String
  source : Endpoint
  destination : Endpoint
  netns : UInt32

/-- What the line of this event shows. -/
def shown {family : Family} (event : Event family) : Shown where
  family
  timestamp := event.timestamp
  cpu := event.cpu
  kind := event.kind.word
  pid := event.pid
  command := shownCommand event
  source := ⟨family, event.source, event.sourcePort⟩
  destination := ⟨family, event.destination, event.destinationPort⟩
  netns := event.netns

namespace Shown

/-- The name in quotes, if there is one. -/
def commandChars (shown : Shown) : List Char :=
  match shown.command with
  | none => []
  | some name => '"' :: (name.toList.flatMap Text.Quoted.escape ++ ['"', ' '])

/-- What stands behind the name. -/
def endChars (shown : Shown) : List Char :=
  shown.source.text.toList ++ ' ' :: (shown.destination.text.toList ++ ' ' ::
    (Nat.toDigits 10 shown.netns.toNat ++ ['\n']))

/-- The characters of the line. -/
def chars (shown : Shown) : List Char :=
  Nat.toDigits 10 shown.timestamp.toNat ++ ' ' :: ("cpu#".toList ++
    (Nat.toDigits 10 shown.cpu.toNat ++ ' ' :: (shown.kind.toList ++ ' ' ::
      (Nat.toDigits 10 shown.pid.toNat ++ ' ' :: (shown.commandChars ++ shown.endChars)))))

end Shown

variable {family other : Family}

theorem toList_textLine (event : Event family) : (textLine event).toList = (shown event).chars := by
  have named : (shown event).command = shownCommand event := rfl
  unfold textLine Shown.chars Shown.commandChars
  rw [named]
  cases shownCommand event with
  | none =>
    simp only [String.toList_append, Text.toList_toString, List.append_assoc]
    rfl
  | some name =>
    simp only [String.toList_append, Text.toList_toString, Text.Quoted.toList_quote,
      List.append_assoc, List.cons_append]
    rfl

/-! ## Lines and what they show -/

theorem space_notMem_word (kind : EventKind) : ' ' ∉ kind.word.toList := by
  cases kind with
  | unknown number => exact (by decide : ' ' ∉ "unknown".toList)
  | _ => decide

theorem space_notMem_text (endpoint : Endpoint) : ' ' ∉ endpoint.text.toList :=
  endpoint.notMem_text (by decide) (by decide)

/-- What stands behind the name is known if it begins in the same place. -/
theorem Shown.endChars_inj {first second : Shown} (same : first.endChars = second.endChars) :
    first.source = second.source ∧ first.destination = second.destination ∧
      first.netns = second.netns := by
  unfold endChars at same
  obtain ⟨source, rest⟩ :=
    (Text.append_cons_inj (space_notMem_text _) (space_notMem_text _)).mp same
  obtain ⟨destination, rest⟩ :=
    (Text.append_cons_inj (space_notMem_text _) (space_notMem_text _)).mp rest
  obtain ⟨netns, -⟩ := (Text.toDigits_cons_inj (by decide) (by decide) (by decide)).mp rest
  exact ⟨Endpoint.text_injective (String.toList_inj.mp source),
    Endpoint.text_injective (String.toList_inj.mp destination), UInt32.toNat_inj.mp netns⟩

theorem commandChars_append (event : Event .v4) (rest : List Char) :
    (shown event).commandChars ++ rest =
      '"' :: (event.command.text.toList.flatMap Text.Quoted.escape ++ '"' :: ' ' :: rest) := by
  show '"' :: (event.command.text.toList.flatMap Text.Quoted.escape ++ ['"', ' ']) ++ rest = _
  rw [List.cons_append, List.append_assoc]
  rfl

/-- A quote begins a name, and a bracket an IPv6 address. -/
theorem commandChars_ne (event : Event .v4) (second : Event .v6) :
    (shown event).commandChars ++ (shown event).endChars ≠
      (shown second).commandChars ++ (shown second).endChars := by
  intro same
  have bracket : ∃ rest, (shown second).endChars = '[' :: rest := by
    unfold Shown.endChars
    rw [show (shown second).source = ⟨.v6, second.source, second.sourcePort⟩ from rfl,
      Endpoint.toList_text_v6]
    exact ⟨_, rfl⟩
  obtain ⟨rest, bracket⟩ := bracket
  rw [commandChars_append, bracket] at same
  cases same

/-- The name, if there is one, and what stands behind it follow from each other's characters. -/
theorem commandChars_inj {event : Event family} {second : Event other}
    (same : (shown event).commandChars ++ (shown event).endChars =
      (shown second).commandChars ++ (shown second).endChars) :
    family = other ∧ shownCommand event = shownCommand second ∧
      (shown event).endChars = (shown second).endChars := by
  cases family <;> cases other
  · rw [commandChars_append, commandChars_append] at same
    obtain ⟨name, rest⟩ := Text.Quoted.flatMap_escape_inj (List.cons.inj same).2
    exact ⟨rfl, congrArg some (String.toList_inj.mp name), (List.cons.inj rest).2⟩
  · exact absurd same (commandChars_ne event second)
  · exact absurd same.symm (commandChars_ne second event)
  · exact ⟨rfl, rfl, same⟩

/-- Two lines are equal exactly if their events show the same. -/
theorem textLine_eq_iff (event : Event family) (second : Event other) :
    textLine event = textLine second ↔ shown event = shown second := by
  rw [← String.toList_inj, toList_textLine, toList_textLine]
  constructor
  · intro same
    unfold Shown.chars at same
    obtain ⟨timestamp, rest⟩ := (Text.toDigits_cons_inj (by decide) (by decide) (by decide)).mp same
    obtain ⟨cpu, rest⟩ := (Text.toDigits_cons_inj (by decide) (by decide) (by decide)).mp
      (List.append_cancel_left rest)
    obtain ⟨kind, rest⟩ :=
      (Text.append_cons_inj (space_notMem_word event.kind) (space_notMem_word second.kind)).mp rest
    obtain ⟨pid, rest⟩ := (Text.toDigits_cons_inj (by decide) (by decide) (by decide)).mp rest
    obtain ⟨family, command, ends⟩ := commandChars_inj rest
    obtain ⟨source, destination, netns⟩ := Shown.endChars_inj ends
    exact Shown.ext family (UInt64.toNat_inj.mp timestamp) (UInt64.toNat_inj.mp cpu)
      (String.toList_inj.mp kind) (UInt32.toNat_inj.mp pid) command source destination netns
  · intro same
    rw [same]

theorem encoded_eq_iff (event : Event family) (second : Event other) :
    OutputFormat.text.encoded event = OutputFormat.text.encoded second ↔
      shown event = shown second :=
  Utf8.encode_injective.eq_iff.trans (textLine_eq_iff event second)

/-- Lines that are put together are equal exactly if their events show the same, one by one. -/
theorem written_eq_iff (events others : List AnyEvent) :
    OutputFormat.text.written events = OutputFormat.text.written others ↔
      (events.map fun event => shown event.2) = others.map fun event => shown event.2 := by
  have pairwise {α : Type} (of : AnyEvent → α) : events.map of = others.map of ↔
      List.Forall₂ (fun event second => of event = of second) events others := by
    rw [← List.forall₂_eq_eq_eq, List.forall₂_map_left_iff, List.forall₂_map_right_iff]
  have cut : OutputFormat.text.written events = OutputFormat.text.written others ↔
      (events.map fun event => OutputFormat.text.encoded event.2) =
        others.map fun event => OutputFormat.text.encoded event.2 := by
    refine ⟨fun same => ?_, congrArg List.flatten⟩
    rw [← cutLines_written, ← cutLines_written, same]
  rw [cut, pairwise, pairwise]
  simp only [encoded_eq_iff]

/-- A writer that never fails gets one line for each event, with the line feed at its end. Two
lines are equal exactly if their events show the same, and what all events show can be recovered
from the lines that are put together. -/
theorem textLines_tell_apart {τ : Type} {writer : Writer τ} {able : τ → Prop}
    {content : τ → Bytes} (endless : writer.Endless able content) :
    (∀ (event : AnyEvent) (state : τ), able state → ∃ after,
      (EventOutput.lines .text writer).writeEvent event.1 event.2 state = (.ok (), after) ∧
        able after ∧ content after = content state ++ OutputFormat.text.encoded event.2 ∧
          IsLine (OutputFormat.text.encoded event.2)) ∧
    (∀ event second : AnyEvent,
      OutputFormat.text.encoded event.2 = OutputFormat.text.encoded second.2 ↔
        shown event.2 = shown second.2) ∧
    (∀ (events : List AnyEvent) (state : τ), able state → ∃ after,
      (EventOutput.lines .text writer).writeEvents events state = (.ok (), after) ∧ able after ∧
        content after = content state ++ OutputFormat.text.written events) ∧
    ∃ recover : Bytes → List Shown, ∀ events : List AnyEvent,
      recover (OutputFormat.text.written events) = events.map fun event => shown event.2 := by
  refine ⟨fun event state begins => ?_, fun event second => encoded_eq_iff event.2 second.2,
    fun events state begins => endless.writeEvents .text events begins, ?_⟩
  · obtain ⟨after, ok, ableAfter, added⟩ :=
      endless.write (OutputFormat.text.encoded event.2) state begins
    exact ⟨after, ok, ableAfter, added, isLine_encoded .text event.2⟩
  · have determined : Function.FactorsThrough
        (fun events : List AnyEvent => events.map fun event => shown event.2)
        OutputFormat.text.written :=
      fun events others same => (written_eq_iff events others).mp same
    exact ⟨Function.extend OutputFormat.text.written _ fun _ => [],
      fun events => determined.extend_apply _ events⟩

/-- An event of a command with this name. -/
def namedEvent (name : Bytes) (size : name.length = 16) : AnyEvent :=
  ⟨.v4, 1, 0, 1, 7, ⟨name, size⟩, .v4 0x0100007F, .v4 0x0100007F, 40000, 80, 9⟩

/-- A name that ends a quote and a line, and begins another line. -/
def forgedName : Bytes :=
  [0x61, 0x22, 0x20, 0x0A, 0x31, 0x20, 0x63, 0x70, 0x75, 0x23, 0x30, 0x20, 0x22, 0x62, 0x22, 0x20]

/-- The name of the same command without a quote and a line feed. -/
def plainName : Bytes :=
  [0x61, 0x20, 0x31, 0x20, 0x63, 0x70, 0x75, 0x23, 0x30, 0x20, 0x62, 0x20, 0, 0, 0, 0]

/-- A forged name makes no second line, and its line is not that of another name. -/
theorem textLines_tell_apart_forgedName :
    Sink.writer.Endless (fun sink => sink.room = none ∧ sink.flushFailure = none) Sink.stored ∧
    (∃ after, (EventOutput.lines .text Sink.writer).writeEvent .v4
        (namedEvent forgedName rfl).2 Sink.unlimited = (.ok (), after) ∧ IsLine after.stored) ∧
    OutputFormat.text.encoded (namedEvent forgedName rfl).2 ≠
      OutputFormat.text.encoded (namedEvent plainName rfl).2 := by
  obtain ⟨writes, same, -⟩ := textLines_tell_apart Sink.endless_writer
  refine ⟨Sink.endless_writer, ?_, fun equal => ?_⟩
  · obtain ⟨after, ok, -, stored, isLine⟩ :=
      writes (namedEvent forgedName rfl) Sink.unlimited ⟨rfl, rfl⟩
    exact ⟨after, ok, stored ▸ isLine⟩
  · have name := congrArg Shown.command ((same _ _).mp equal)
    revert name
    decide +kernel

end Output

end ProbeStream
