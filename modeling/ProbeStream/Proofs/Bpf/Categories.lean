import Mathlib.Data.List.Nodup
import ProbeStream.Bpf.Category

/-!
# Kinds of programs

There are six kinds of programs, and the name of a section says by its lead which one it holds. No
lead begins with another one, so a name falls into a lead and a rest in one way at most
(`Kind.lead_append_inj`). Hence it does not matter in which order the leads are tried
(`classify_of_perm`), and all that is said of a name follows from the one lead that it has:

- `ofSectionName_lead`: the lead and the rest decide on the category;
- `isProgramSection_iff`, `exists_category_iff`: names with a lead, and those that give a category;
- `eq_lead_append_target`: the name of a probe or tracepoint is its lead and its target.
-/

namespace ProbeStream

/-! ## Leads -/

namespace Text

variable {lead text rest : String}

theorem startsWith_iff : startsWith lead text ↔ ∃ rest, text = lead ++ rest := by
  rw [startsWith, List.isPrefixOf_iff_prefix]
  constructor
  · rintro ⟨rest, split⟩
    exact ⟨String.ofList rest, String.toList_injective (by simp [← split])⟩
  · rintro ⟨rest, rfl⟩
    exact ⟨rest.toList, String.toList_append.symm⟩

theorem startsWith_append (lead rest : String) : startsWith lead (lead ++ rest) :=
  startsWith_iff.mpr ⟨rest, rfl⟩

theorem afterLead?_append (lead rest : String) : afterLead? lead (lead ++ rest) = some rest := by
  rw [afterLead?, if_pos (startsWith_append lead rest), String.toList_append, List.drop_left,
    String.ofList_toList]

theorem afterLead?_eq_none_iff : afterLead? lead text = none ↔ startsWith lead text = false := by
  simp [afterLead?]

end Text

namespace Bpf.Category

/-- The kinds of programs. -/
inductive Kind where
  | kprobe
  | kretprobe
  | tracepoint
  | xdp
  | perfEvent
  | socketFilter
deriving DecidableEq, Repr

/-- The kind of the programs of a category. -/
def kind : Category → Kind
  | .kprobe _ => .kprobe
  | .kretprobe _ => .kretprobe
  | .tracepoint _ => .tracepoint
  | .xdp => .xdp
  | .perfEvent => .perfEvent
  | .socketFilter => .socketFilter

namespace Kind

/-- All kinds, in the order in which names are tried. -/
def all : List Kind := [.kprobe, .kretprobe, .tracepoint, .xdp, .perfEvent, .socketFilter]

theorem mem_all (kind : Kind) : kind ∈ all := by
  cases kind <;> decide

/-- How the names of such sections begin. -/
def lead : Kind → String
  | .kprobe => "kprobe/"
  | .kretprobe => "kretprobe/"
  | .tracepoint => "tracepoint/"
  | .xdp => "xdp"
  | .perfEvent => "perf_event"
  | .socketFilter => "socket"

/-- What a name gives that goes on with `rest` behind the lead. -/
def categorize (name rest : String) : Kind → Except CategoryFault Category
  | .kprobe => ofTarget name rest .kprobe
  | .kretprobe => ofTarget name rest .kretprobe
  | .tracepoint => ofTarget name rest .tracepoint
  | .xdp => .ok .xdp
  | .perfEvent => .ok .perfEvent
  | .socketFilter => .ok .socketFilter

theorem eq_of_begins : ∀ {kind other : Kind},
    kind.lead.toList <+: other.lead.toList → kind = other := by
  have apart : ∀ kind ∈ all, ∀ other ∈ all,
      kind.lead.toList.isPrefixOf other.lead.toList → kind = other := by decide
  intro kind other begins
  exact apart kind kind.mem_all other other.mem_all (List.isPrefixOf_iff_prefix.mpr begins)

/-- A name falls into a lead and a rest in one way at most. -/
theorem lead_append_inj {kind other : Kind} {rest more : String} :
    kind.lead ++ rest = other.lead ++ more ↔ kind = other ∧ rest = more := by
  constructor
  · intro same
    have lists : kind.lead.toList ++ rest.toList = other.lead.toList ++ more.toList := by
      rw [← String.toList_append, same, String.toList_append]
    -- both leads begin the same name, so one of them begins with the other
    have alike : kind = other := by
      have begins : kind.lead.toList <+: other.lead.toList ++ more.toList := ⟨_, lists⟩
      rcases List.prefix_or_prefix_of_prefix begins (List.prefix_append _ _) with first | second
      · exact eq_of_begins first
      · exact (eq_of_begins second).symm
    obtain rfl := alike
    exact ⟨rfl, String.toList_injective (List.append_cancel_left lists)⟩
  · rintro ⟨rfl, rfl⟩
    rfl

theorem eq_of_startsWith {kind other : Kind} {name : String}
    (begins : Text.startsWith kind.lead name) (alsoBegins : Text.startsWith other.lead name) :
    kind = other := by
  obtain ⟨rest, rfl⟩ := Text.startsWith_iff.mp begins
  obtain ⟨more, same⟩ := Text.startsWith_iff.mp alsoBegins
  exact (lead_append_inj.mp same).1

theorem afterLead?_of_ne {kind other : Kind} (apart : kind ≠ other) (rest : String) :
    Text.afterLead? other.lead (kind.lead ++ rest) = none := by
  rw [Text.afterLead?_eq_none_iff, Bool.eq_false_iff]
  exact fun begins => apart (eq_of_startsWith (Text.startsWith_append _ _) begins)

end Kind

/-! ## Trying leads one after the other -/

/-- What a name gives if the kinds are tried in this order. -/
def classify : List Kind → (name : String) → Except CategoryFault Category
  | [], name => .error (.unknown name)
  | kind :: others, name =>
    match Text.afterLead? kind.lead name with
    | some rest => kind.categorize name rest
    | none => classify others name

theorem classify_lead {kinds : List Kind} {kind : Kind} (tried : kind ∈ kinds) (rest : String) :
    classify kinds (kind.lead ++ rest) = kind.categorize (kind.lead ++ rest) rest := by
  induction kinds with
  | nil => cases tried
  | cons first others ih =>
    by_cases same : kind = first
    · subst same
      rw [classify, Text.afterLead?_append]
    · rw [classify, Kind.afterLead?_of_ne same]
      exact ih (List.mem_of_ne_of_mem same tried)

theorem classify_of_none {name : String}
    (none : ∀ kind : Kind, Text.startsWith kind.lead name = false) (kinds : List Kind) :
    classify kinds name = .error (.unknown name) := by
  induction kinds with
  | nil => rfl
  | cons first others ih => rw [classify, Text.afterLead?_eq_none_iff.mpr (none first), ih]

/-- Every name has one lead or none. -/
theorem exists_lead_or_none (name : String) :
    (∃ (kind : Kind) (rest : String), name = kind.lead ++ rest) ∨
      ∀ kind : Kind, Text.startsWith kind.lead name = false := by
  by_cases begins : ∃ kind : Kind, Text.startsWith kind.lead name
  · obtain ⟨kind, begins⟩ := begins
    exact .inl ⟨kind, Text.startsWith_iff.mp begins⟩
  · exact .inr fun kind => Bool.eq_false_iff.mpr fun begin => begins ⟨kind, begin⟩

/-- The order in which the kinds are tried does not matter. -/
theorem classify_of_perm {kinds : List Kind} (order : kinds.Perm Kind.all) (name : String) :
    classify kinds name = classify Kind.all name := by
  rcases exists_lead_or_none name with ⟨kind, rest, rfl⟩ | none
  · rw [classify_lead (order.mem_iff.mpr kind.mem_all), classify_lead kind.mem_all]
  · rw [classify_of_none none, classify_of_none none]

theorem ofSectionName_eq_classify (name : String) :
    ofSectionName name = classify Kind.all name := by
  have plain (lead : String) (given otherwise : Except CategoryFault Category) :
      (if Text.startsWith lead name then given else otherwise) =
        match Text.afterLead? lead name with
        | some _ => given
        | none => otherwise := by
    rw [Text.afterLead?]
    split <;> rfl
  rw [ofSectionName, plain, plain, plain]
  rfl

/-! ## What a name gives -/

/-- The lead and the rest decide on the category. -/
theorem ofSectionName_lead (kind : Kind) (rest : String) :
    ofSectionName (kind.lead ++ rest) = kind.categorize (kind.lead ++ rest) rest := by
  rw [ofSectionName_eq_classify, classify_lead kind.mem_all]

theorem isProgramSection_iff {name : String} :
    isProgramSection name ↔ ∃ (kind : Kind) (rest : String), name = kind.lead ++ rest := by
  have leads : leads = Kind.all.map Kind.lead := rfl
  simp only [isProgramSection, leads, List.any_map, List.any_eq_true, Function.comp_apply,
    Text.startsWith_iff]
  exact ⟨fun ⟨kind, _, split⟩ => ⟨kind, split⟩, fun ⟨kind, split⟩ => ⟨kind, kind.mem_all, split⟩⟩

theorem ofSectionName_of_not_program {name : String} (other : isProgramSection name = false) :
    ofSectionName name = .error (.unknown name) := by
  rcases exists_lead_or_none name with lead | none
  · rw [isProgramSection_iff.mpr lead] at other
    cases other
  · rw [ofSectionName_eq_classify, classify_of_none none]

theorem ofTarget_eq_ok_iff {name target : String} {make : String → Category}
    {category : Category} :
    ofTarget name target make = .ok category ↔ target ≠ "" ∧ category = make target := by
  rw [ofTarget]
  split
  · next empty => exact ⟨nofun, fun filled => absurd empty filled.1⟩
  · next filled =>
    exact ⟨fun made => ⟨filled, (Except.ok.inj made).symm⟩, fun made => made.2 ▸ rfl⟩

/-- The leads behind which a target must follow. -/
def Kind.isTargeted : Kind → Bool
  | .kprobe => true
  | .kretprobe => true
  | .tracepoint => true
  | _ => false

theorem exists_categorize_iff {kind : Kind} {name rest : String} :
    (∃ category, kind.categorize name rest = .ok category) ↔ (kind.isTargeted → rest ≠ "") := by
  cases kind <;> simp [Kind.categorize, Kind.isTargeted, ofTarget_eq_ok_iff]

theorem mem_bareLeads_iff {kind : Kind} {rest : String} :
    kind.lead ++ rest ∈ ["kprobe/", "kretprobe/", "tracepoint/"] ↔
      kind.isTargeted ∧ rest = "" := by
  have bare : ["kprobe/", "kretprobe/", "tracepoint/"] =
      [Kind.kprobe.lead ++ "", Kind.kretprobe.lead ++ "", Kind.tracepoint.lead ++ ""] := rfl
  rw [bare]
  simp only [List.mem_cons, List.not_mem_nil, or_false, Kind.lead_append_inj]
  cases kind <;> simp [Kind.isTargeted]

/-- A name gives a category if it begins like the name of a program section and is more than the
beginning of the name of a probe or tracepoint. -/
theorem exists_category_iff {name : String} :
    (∃ category, ofSectionName name = .ok category) ↔
      isProgramSection name ∧ name ∉ ["kprobe/", "kretprobe/", "tracepoint/"] := by
  by_cases program : isProgramSection name
  · obtain ⟨kind, rest, rfl⟩ := isProgramSection_iff.mp program
    rw [ofSectionName_lead, exists_categorize_iff, mem_bareLeads_iff, not_and]
    exact ⟨fun filled => ⟨program, filled⟩, fun filled => filled.2⟩
  · rw [ofSectionName_of_not_program (Bool.eq_false_iff.mpr program)]
    exact ⟨nofun, fun given => absurd given.1 program⟩

/-- A name that begins like the name of a program section is not unknown, whatever it gives. -/
theorem ofSectionName_eq_unknown_iff {name shown : String} :
    ofSectionName name = .error (.unknown shown) ↔
      isProgramSection name = false ∧ shown = name := by
  constructor
  · intro unknown
    by_cases program : isProgramSection name
    · obtain ⟨kind, rest, rfl⟩ := isProgramSection_iff.mp program
      rw [ofSectionName_lead] at unknown
      cases kind with
      | kprobe | kretprobe | tracepoint =>
        simp only [Kind.categorize, ofTarget] at unknown
        split at unknown <;> cases unknown
      | xdp | perfEvent | socketFilter => cases unknown
    · have other := Bool.eq_false_iff.mpr program
      rw [ofSectionName_of_not_program other] at unknown
      cases unknown
      exact ⟨other, rfl⟩
  · rintro ⟨other, rfl⟩
    exact ofSectionName_of_not_program other

theorem kind_of_categorize {kind : Kind} {name rest target : String}
    {category : Category} (given : kind.categorize name rest = .ok category)
    (aimed : category.target? = some target) : category.kind = kind ∧ target = rest := by
  cases kind with
  | kprobe | kretprobe | tracepoint =>
    obtain ⟨-, rfl⟩ := ofTarget_eq_ok_iff.mp given
    exact ⟨rfl, (Option.some.inj aimed).symm⟩
  | xdp | perfEvent | socketFilter =>
    obtain rfl := Except.ok.inj given
    cases aimed

/-- A name that gives a category has a lead, by which it does so. -/
theorem exists_lead_of_ofSectionName {name : String} {category : Category}
    (given : ofSectionName name = .ok category) :
    ∃ (kind : Kind) (rest : String), name = kind.lead ++ rest ∧
      kind.categorize name rest = .ok category := by
  have program : isProgramSection name := (exists_category_iff.mp ⟨category, given⟩).1
  obtain ⟨kind, rest, rfl⟩ := isProgramSection_iff.mp program
  exact ⟨kind, rest, rfl, ofSectionName_lead kind rest ▸ given⟩

/-- The name of a probe or tracepoint is its lead and its target. -/
theorem eq_lead_append_target {name target : String} {category : Category}
    (given : ofSectionName name = .ok category) (aimed : category.target? = some target) :
    name = category.kind.lead ++ target := by
  obtain ⟨kind, rest, rfl, given⟩ := exists_lead_of_ofSectionName given
  obtain ⟨rfl, rfl⟩ := kind_of_categorize given aimed
  rfl

/-! ## Both views of a name -/

/-- No name has two of the leads. -/
theorem length_filter_leads_le (name : String) :
    (leads.filter (Text.startsWith · name)).length ≤ 1 := by
  have leads : leads = Kind.all.map Kind.lead := rfl
  have once : (Kind.all.filter fun kind => Text.startsWith kind.lead name).Nodup :=
    List.Nodup.filter _ (by decide)
  have begins : ∀ kind ∈ Kind.all.filter fun kind => Text.startsWith kind.lead name,
      Text.startsWith kind.lead name := fun _ member => (List.mem_filter.mp member).2
  rw [leads, List.filter_map, List.length_map]
  change (Kind.all.filter fun kind => Text.startsWith kind.lead name).length ≤ 1
  generalize Kind.all.filter (fun kind => Text.startsWith kind.lead name) = found at once begins ⊢
  match found with
  | [] => exact Nat.zero_le 1
  | [_] => exact Nat.le_refl 1
  | first :: second :: others =>
    have same : first = second :=
      Kind.eq_of_startsWith (begins first (by simp)) (begins second (by simp))
    exact absurd (same ▸ once) (by simp)

/-- What a name gives and whether it is the name of a program section agree. A name has one lead at
most, so that the order of the tests is of no account; it gives a category if it is the name of a
program section and goes on behind the lead of a probe or tracepoint, and it is unknown if it is not
the name of a program section. The name of a probe or tracepoint can be told from its category. -/
theorem ofSectionName_agrees :
    (∀ name, (leads.filter (Text.startsWith · name)).length ≤ 1) ∧
    (∀ kinds : List Kind, kinds.Perm Kind.all → ∀ name, classify kinds name = ofSectionName name) ∧
    (∀ name, (∃ category, ofSectionName name = .ok category) ↔
      isProgramSection name ∧ name ∉ ["kprobe/", "kretprobe/", "tracepoint/"]) ∧
    (∀ name shown, ofSectionName name = .error (.unknown shown) ↔
      isProgramSection name = false ∧ shown = name) ∧
    (∀ name category target, ofSectionName name = .ok category → category.target? = some target →
      name = category.kind.lead ++ target ∧
        ∀ other, ofSectionName other = .ok category → other = name) := by
  refine ⟨length_filter_leads_le, fun kinds order name => ?_, fun _ => exists_category_iff,
    fun _ _ => ofSectionName_eq_unknown_iff, fun name category target given aimed => ?_⟩
  · rw [ofSectionName_eq_classify, classify_of_perm order]
  · have split := eq_lead_append_target given aimed
    exact ⟨split, fun other also => (eq_lead_append_target also aimed).trans split.symm⟩

/-- A return probe, whose lead is not the one of an entry probe with more in front. -/
theorem ofSectionName_agrees_kretprobe :
    ofSectionName "kretprobe/tcp_close" = .ok (.kretprobe "tcp_close") ∧
      ∀ other, ofSectionName other = .ok (.kretprobe "tcp_close") →
        other = "kretprobe/tcp_close" := by
  have given : ofSectionName "kretprobe/tcp_close" = .ok (.kretprobe "tcp_close") := by rfl
  obtain ⟨-, -, -, -, told⟩ := ofSectionName_agrees
  exact ⟨given, (told _ _ "tcp_close" given rfl).2⟩

end Bpf.Category

end ProbeStream
