import Mathlib.Data.List.Forall2
import ProbeStream.Proofs.Output.Lines
import ProbeStream.Proofs.Text.JsonReader

/-!
# Lines of JSON and their events

A line of JSON is read as the event that it was written for, by a reader that accepts any JSON text:
`jsonView` is what is read (`ofBytes?_object`). The proof follows the stages of the reader. A
character of a string is scanned as itself, however it is escaped (`Json.takes_escape`), so a string
is one token. A number is a word that ends at the next separator (`Json.isWritten_number`). Entries
of an object are the tokens of its members then (`Json.takes_entries`), and the tokens are built up
to the object.

Together with the lines of a run, which are cut at their line feeds, everything that a run writes is
read as its events (`jsonWritten_read_back`).
-/

namespace ProbeStream.Output

open JsonText (Frame Piece Reading Scanner Takes Token Value endsWord isHexDigit memberTokens)

namespace Json

variable {found : List Token}

/-! ## Strings -/

theorem hex4_of_small : ∀ n < 32, (hex4 n).length = 4 ∧ (hex4 n).all isHexDigit ∧
    Piece.ofUnit (Text.numberOf 16 (hex4 n)) = .char (Char.ofNat n) := by
  decide

/-- A character in a string is read as it was. -/
theorem takes_escape (pieces : List Piece) (c : Char) :
    Takes Scanner.step ⟨found, .string pieces⟩ (escape c)
      ⟨found, .string (pieces ++ [.char c])⟩ := by
  unfold escape
  repeat' split
  all_goals try (subst_vars; exact .cons rfl (.cons rfl .nil))
  · next control =>
    obtain ⟨four, hex, unit⟩ := hex4_of_small c.toNat control
    obtain ⟨first, second, third, fourth, digits⟩ := List.length_eq_four.mp four
    rw [digits] at hex unit ⊢
    rw [Char.ofNat_toNat] at unit
    rw [← unit]
    exact JsonText.takes_unit pieces (List.all_eq_true.mp hex)
  · next noQuote noBackslash _ _ _ _ _ noControl =>
    refine .cons ?_ .nil
    rw [Scanner.step, if_neg noQuote, if_neg noBackslash, if_neg noControl]

theorem takes_flatMap_escape (pieces : List Piece) (text : List Char) :
    Takes Scanner.step ⟨found, .string pieces⟩ (text.flatMap escape)
      ⟨found, .string (pieces ++ text.map .char)⟩ := by
  induction text generalizing pieces with
  | nil => rw [List.map_nil, List.append_nil]; exact .nil
  | cons c rest ih =>
    have later := ih (pieces ++ [.char c])
    rw [List.append_assoc] at later
    exact (takes_escape pieces c).append later

theorem toList_string (text : String) :
    (string text).toList = '"' :: (text.toList.flatMap escape ++ ['"']) := by
  rw [string, String.toList_ofList]
  rfl

/-- A string is one token. -/
theorem takes_string (text : String) :
    Takes Scanner.step ⟨found, .between⟩ (string text).toList
      ⟨found ++ [.value (.string text)], .between⟩ := by
  have closed : Scanner.step ⟨found, .string (text.toList.map .char)⟩ '"' =
      some ⟨found ++ [.value (.string text)], .between⟩ := by
    rw [Scanner.step, if_pos rfl, JsonText.join?_map_char, Option.map_some, String.ofList_toList]
  rw [toList_string]
  exact .cons rfl ((takes_flatMap_escape [] text.toList).append (.cons closed .nil))

/-! ## Values -/

/-- A text is the written form of a value: in front of a character that ends a word it is read as
that value. -/
def IsWritten (text : String) (value : Value) : Prop :=
  ∀ (found : List Token) (c : Char), endsWord c = true →
    Takes Scanner.step ⟨found, .between⟩ (text.toList ++ [c])
      (Scanner.start (found ++ [.value value]) c)

theorem isWritten_string (text : String) : IsWritten (string text) (.string text) :=
  fun _ _ _ => (takes_string text).append (.cons rfl .nil)

theorem isWritten_number (number : Nat) :
    IsWritten (Text.Decimal.write number) (.number number 0) := by
  intro found c ends
  have digit : ∀ c ∈ Nat.toDigits 10 number, endsWord c = false :=
    fun c inside => JsonText.endsWord_of_isDigit (JsonText.isDigit_of_mem number c inside)
  have value := JsonText.word?_toDigits number
  rw [Text.Decimal.write, String.toList_ofList]
  cases digits : Nat.toDigits 10 number with
  | nil => exact absurd digits Nat.toDigits_ne_nil
  | cons first rest =>
    rw [digits] at digit value
    obtain ⟨noEnd, digit⟩ := List.forall_mem_cons.mp digit
    have begun : Scanner.step ⟨found, .between⟩ first = some ⟨found, .word [first]⟩ :=
      congrArg some (JsonText.start_of_not_endsWord noEnd)
    have ended : Scanner.step ⟨found, .word (first :: rest)⟩ c =
        some (Scanner.start (found ++ [.value (.number number 0)]) c) := by
      rw [Scanner.step, if_pos ends, value, Option.map_some]
    exact .cons begun ((JsonText.takes_word digit [first]).append (.cons ended .nil))

/-! ## Objects -/

/-- The entries of an object are the written forms of these members. -/
def AreWritten (entries : List (String × String)) (members : List (String × Value)) : Prop :=
  List.Forall₂ (fun entry member => entry.1 = member.1 ∧ IsWritten entry.2 member.2) entries
    members

/-- The characters of an entry. -/
def entryChars (entry : String × String) : List Char :=
  (string entry.1).toList ++ ':' :: entry.2.toList

theorem toList_object (entries : List (String × String)) : (object entries).toList =
    '\x7b' :: ([','].intercalate (entries.map entryChars) ++ ['\x7d']) := by
  have between : ",".toList = [','] := rfl
  have entry (entry : String × String) :
      (string entry.1 ++ ":" ++ entry.2).toList = entryChars entry := by
    rw [String.toList_append, String.toList_append, List.append_assoc]
    rfl
  unfold object
  rw [String.toList_append, String.toList_append, String.toList_intercalate, List.map_map, between]
  have chars : entries.map (String.toList ∘ fun entry => string entry.1 ++ ":" ++ entry.2) =
      entries.map entryChars := List.map_congr_left fun member _ => entry member
  rw [chars]
  rfl

/-- An entry in front of a separator or of the end of the object is the tokens of its member. -/
theorem takes_entry {entry : String × String} {member : String × Value}
    (name : entry.1 = member.1) (isWritten : IsWritten entry.2 member.2) {c : Char} {token : Token}
    (ends : endsWord c = true)
    (starts : ∀ found, Scanner.start found c = ⟨found ++ [token], .between⟩) :
    Takes Scanner.step ⟨found, .between⟩ (entryChars entry ++ [c])
      ⟨found ++ memberTokens member ++ [token], .between⟩ := by
  have value := isWritten (found ++ [.value (.string entry.1)] ++ [.nameSeparator]) c ends
  have tokens : found ++ [.value (.string entry.1)] ++ [.nameSeparator] ++ [.value member.2] =
      found ++ memberTokens member := by
    rw [name, List.append_assoc, List.append_assoc]
    rfl
  rw [starts, tokens] at value
  unfold entryChars
  rw [List.append_assoc]
  exact (takes_string entry.1).append (.cons rfl value)

/-- The entries of an object are the tokens of its members, with separators between them. -/
theorem takes_entries {entry : String × String} {entries : List (String × String)}
    {members : List (String × Value)} (areWritten : AreWritten (entry :: entries) members) :
    Takes Scanner.step ⟨found, .between⟩
      ([','].intercalate ((entry :: entries).map entryChars) ++ ['\x7d'])
      ⟨found ++ ([.valueSeparator].intercalate (members.map memberTokens) ++ [.endObject]),
        .between⟩ := by
  induction entries generalizing found entry members with
  | nil =>
    obtain ⟨member, _, ⟨name, isWritten⟩, nothing, rfl⟩ := List.forall₂_cons_left_iff.mp areWritten
    obtain rfl := List.forall₂_nil_left_iff.mp nothing
    rw [List.map_singleton, List.map_singleton, List.intercalate_singleton,
      List.intercalate_singleton, ← List.append_assoc]
    exact takes_entry name isWritten rfl fun _ => rfl
  | cons next rest ih =>
    obtain ⟨member, others, ⟨name, isWritten⟩, later, rfl⟩ :=
      List.forall₂_cons_left_iff.mp areWritten
    have separated : Takes Scanner.step ⟨found, .between⟩ (entryChars entry ++ [','])
        ⟨found ++ memberTokens member ++ [.valueSeparator], .between⟩ :=
      takes_entry name isWritten rfl fun _ => rfl
    have takes := separated.append (ih later)
    obtain ⟨second, others, -, -, rfl⟩ := List.forall₂_cons_left_iff.mp later
    simp only [List.append_assoc] at takes
    simp only [List.map_cons, List.intercalate_cons_cons, List.append_assoc]
    exact takes

/-- An object is read as it was written. -/
theorem ofText?_object {entries : List (String × String)} {members : List (String × Value)}
    (areWritten : AreWritten entries members) :
    JsonText.ofText? (object entries) = some (.object members) := by
  have takes : Takes Scanner.step ⟨[], .between⟩ (object entries).toList
      ⟨JsonText.objectTokens members, .between⟩ := by
    rw [toList_object]
    cases areWritten with
    | nil => exact .cons rfl (.cons rfl .nil)
    | cons entry others => exact .cons rfl (takes_entries (.cons entry others))
  unfold JsonText.ofText? JsonText.tokens?
  rw [takes]
  exact JsonText.value?_objectTokens members

end Json

/-! ## Lines -/

variable {family : Family}

/-- What is read from the line of an event. -/
def jsonView (event : Event family) : List (String × Value) :=
  [("timestamp", .number event.timestamp.toNat 0), ("cpu", .number event.cpu.toNat 0),
    ("type", .string event.kind.word), ("pid", .number event.pid.toNat 0)] ++
  (match family with
    | .v4 => [("comm", .string (Utf8.decodeLossy event.command.bytes.beforeNul))]
    | .v6 => []) ++
  [("source", .string event.sourceText), ("destination", .string event.destinationText),
    ("netns", .number event.netns.toNat 0)]

theorem areWritten_jsonMembers (event : Event family) :
    Json.AreWritten (jsonMembers event) (jsonView event) := by
  have number (name : String) (number : Nat) :
      (name, Text.Decimal.write number).1 = name ∧
        Json.IsWritten (Text.Decimal.write number) (.number number 0) :=
    ⟨rfl, Json.isWritten_number number⟩
  have text (name text : String) :
      (name, Json.string text).1 = name ∧ Json.IsWritten (Json.string text) (.string text) :=
    ⟨rfl, Json.isWritten_string text⟩
  cases family with
  | v4 =>
    exact .cons (number _ _) (.cons (number _ _) (.cons (text _ _) (.cons (number _ _)
      (.cons (text _ _) (.cons (text _ _) (.cons (text _ _) (.cons (number _ _) .nil)))))))
  | v6 =>
    exact .cons (number _ _) (.cons (number _ _) (.cons (text _ _) (.cons (number _ _)
      (.cons (text _ _) (.cons (text _ _) (.cons (number _ _) .nil))))))

/-- The object of an event is read as the members of the event. -/
theorem ofBytes?_object (event : Event family) :
    JsonText.ofBytes? (Utf8.encode (Json.object (jsonMembers event))) =
      some (.object (jsonView event)) := by
  unfold JsonText.ofBytes?
  rw [Utf8.decode?_encode]
  exact Json.ofText?_object (areWritten_jsonMembers event)

/-- The line of an event is its object with a line feed behind it. -/
theorem encoded_json (event : Event family) : OutputFormat.json.encoded event =
    Utf8.encode (Json.object (jsonMembers event)) ++ [lineFeed] :=
  Utf8.encode_append _ "\n"

/-- The lines of a run, without their line feeds, are read as the events of the run. -/
theorem jsonWritten_read_back (events : List AnyEvent) :
    ((cutLines (OutputFormat.json.written events)).map fun line =>
      JsonText.ofBytes? line.dropLast) =
      events.map fun event => some (.object (jsonView event.2)) := by
  rw [cutLines_written, List.map_map]
  refine List.map_congr_left fun event _ => ?_
  rw [Function.comp_apply, encoded_json, List.dropLast_concat, ofBytes?_object]

/-- A writer that never fails gets one JSON object for an event, without a line feed, and a line
feed behind it. What is read from the object is exactly what the event is: numbers of any size, and
texts whatever characters they have. -/
theorem jsonLines_read_back {τ : Type} {writer : Writer τ} {able : τ → Prop} {content : τ → Bytes}
    (endless : writer.Endless able content) (event : Event family) {state : τ}
    (begins : able state) :
    ∃ object after,
      (EventOutput.lines .json writer).writeEvent family event state = (.ok (), after) ∧
      able after ∧
      content after = content state ++ (object ++ [lineFeed]) ∧
      lineFeed ∉ object ∧
      JsonText.ofBytes? object = some (.object (jsonView event)) := by
  obtain ⟨after, ok, ableAfter, added⟩ :=
    endless.write (OutputFormat.json.encoded event) state begins
  have unbroken : Unbroken (Json.object (jsonMembers event)) :=
    Json.unbroken_object (unbroken_jsonMembers event)
  refine ⟨Utf8.encode (Json.object (jsonMembers event)), after, ok, ableAfter, ?_,
    Utf8.byte_notMem_encode (by decide) unbroken, ofBytes?_object event⟩
  rw [added, encoded_json]

/-- An event whose name has a quote, a line feed, a backslash, an escape character and a byte that
is not UTF-8, and more behind its end. -/
def hostileEvent : Event .v4 where
  timestamp := 0xFFFFFFFFFFFFFFFF
  cpu := 9007199254740993
  type := 1
  pid := 7
  command := ⟨[0x22, 0x2C, 0x0A, 0x5C, 0x1B, 0xFF, 0, 0x22, 0, 0, 0, 0, 0, 0, 0, 0], rfl⟩
  source := .v4 0x0100007F
  destination := .v4 0x0100007F
  sourcePort := 40000
  destinationPort := 80
  netns := 9

theorem jsonLines_read_back_hostile :
    Sink.writer.Endless (fun sink => sink.room = none ∧ sink.flushFailure = none) Sink.stored ∧
    (Sink.unlimited.room = none ∧ Sink.unlimited.flushFailure = none) ∧
    ∃ object after,
      (EventOutput.lines .json Sink.writer).writeEvent .v4 hostileEvent Sink.unlimited =
        (.ok (), after) ∧
      after.stored = object ++ [lineFeed] ∧
      lineFeed ∉ object ∧
      JsonText.ofBytes? object = some (.object [
        ("timestamp", .number 18446744073709551615 0),
        ("cpu", .number 9007199254740993 0),
        ("type", .string "connect"),
        ("pid", .number 7 0),
        ("comm", .string "\",\n\\\x1b\uFFFD"),
        ("source", .string "127.0.0.1:40000"),
        ("destination", .string "127.0.0.1:80"),
        ("netns", .number 9 0)]) := by
  have command : Utf8.decodeLossy hostileEvent.command.bytes.beforeNul =
      "\",\n\\\x1b\uFFFD" := by decide +kernel
  have source : hostileEvent.sourceText = "127.0.0.1:40000" := by decide +kernel
  have destination : hostileEvent.destinationText = "127.0.0.1:80" := by decide +kernel
  have begins : Sink.unlimited.room = none ∧ Sink.unlimited.flushFailure = none := ⟨rfl, rfl⟩
  obtain ⟨object, after, ok, -, stored, unbroken, read⟩ :=
    jsonLines_read_back Sink.endless_writer hostileEvent begins
  refine ⟨Sink.endless_writer, begins, object, after, ok, stored, unbroken, ?_⟩
  rw [read, jsonView, command, source, destination]
  rfl

end ProbeStream.Output
