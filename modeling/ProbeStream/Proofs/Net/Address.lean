import Mathlib.Data.List.Basic
import Mathlib.Data.List.TakeWhile
import ProbeStream.Event.Record
import ProbeStream.Proofs.Event.Wire
import ProbeStream.Proofs.Text.Digits

/-!
# Written addresses

Every address and every endpoint is written in its own way (`ipv4Text_injective`,
`ipv6Text_injective`, `Endpoint.text_injective`).

For IPv6 the text is read as the parts between its colons. A part without digits stands there only
if groups were left out, and then the parts in front of it and behind it are the groups that were
kept (`shortened_inj`). How many were left out follows from the number of all groups, and
`isZero_longestZeros` says that they were zeros.
-/

namespace ProbeStream

namespace Net

open Text (IsNoDigit notMem_toDigits notMem_intercalate intercalate_inj toDigits_injective)

/-! ## IPv4 -/

theorem toList_ipv4Text (octets : Bytes) : (ipv4Text octets).toList =
    ['.'].intercalate (octets.map fun octet => Nat.toDigits 10 octet.toNat) := by
  unfold ipv4Text
  rw [String.toList_intercalate, List.map_map]
  congr 1
  exact List.map_congr_left fun octet _ => String.toList_ofList

theorem notMem_ipv4Text {c : Char} (noDigit : IsNoDigit c) (noDot : c ≠ '.') (octets : Bytes) :
    c ∉ (ipv4Text octets).toList := by
  refine notMem_intercalate (by simpa using noDot) ?_
  simp only [List.mem_map]
  rintro _ ⟨octet, -, rfl⟩
  exact String.toList_ofList ▸ notMem_toDigits noDigit 10 octet.toNat

theorem ipv4Text_injective {octets other : Bytes} (filled : octets ≠ [])
    (alsoFilled : other ≠ []) (same : ipv4Text octets = ipv4Text other) : octets = other := by
  have absent (octets : Bytes) :
      ∀ part ∈ octets.map fun octet => Nat.toDigits 10 octet.toNat, '.' ∉ part := by
    simp only [List.mem_map]
    rintro _ ⟨octet, -, rfl⟩
    exact notMem_toDigits (by decide) 10 octet.toNat
  have parts := congrArg String.toList same
  rw [toList_ipv4Text, toList_ipv4Text] at parts
  refine List.map_injective_iff.mpr ?_ (intercalate_inj (by simpa) (by simpa) (absent octets)
    (absent other) parts)
  exact (toDigits_injective (by decide) (by decide)).comp fun _ _ => UInt8.toNat_inj.mp

/-! ## Runs of zeros -/

/-- All groups of the run are zero, and there are so many. -/
def Run.IsZero (run : Run) (list : List Nat) : Prop :=
  (list.drop run.start).take run.length = List.replicate run.length 0

/-- A list is what stands in front of a run of zeros, the zeros, and what stands behind them. -/
theorem Run.IsZero.eq_append {run : Run} {list : List Nat} (zero : run.IsZero list) :
    list = list.take run.start ++ List.replicate run.length 0 ++
      list.drop (run.start + run.length) := by
  rw [← zero, List.append_assoc, ← List.drop_drop, List.take_append_drop, List.take_append_drop]

theorem take_leadingZeros (list : List Nat) :
    list.take (leadingZeros list) = List.replicate (leadingZeros list) 0 := by
  have front : list.takeWhile (· == 0) = list.take (leadingZeros list) :=
    List.prefix_iff_eq_take.mp (List.takeWhile_prefix _)
  rw [← front]
  refine List.eq_replicate_iff.mpr ⟨rfl, fun group inside => ?_⟩
  simpa using List.mem_takeWhile_imp inside

/-- The longest run of zeros is one. -/
theorem isZero_longestZeros {list front rest : List Nat} (cut : list = front ++ rest) {best : Run}
    (zero : best.IsZero list) : (longestZeros best front.length rest).IsZero list := by
  -- on what is left of the list, while the best run so far stays one
  induction rest generalizing front best with
  | nil => exact zero
  | cons group rest ih =>
    have here : Run.IsZero ⟨front.length, leadingZeros (group :: rest)⟩ list := by
      unfold Run.IsZero
      rw [cut, List.drop_left]
      exact take_leadingZeros (group :: rest)
    have step : list = front ++ [group] ++ rest := by rw [cut, List.append_assoc]; rfl
    rw [longestZeros, ← List.length_singleton (a := group), ← List.length_append]
    refine ih step ?_
    split
    · exact here
    · exact zero

/-! ## Groups -/

theorem notMem_groupsText {c : Char} (noDigit : IsNoDigit c) (noColon : c ≠ ':')
    (list : List Nat) : c ∉ (groupsText list).toList := by
  refine notMem_intercalate (by simpa using noColon) ?_
  simp only [List.mem_map]
  rintro _ ⟨group, -, rfl⟩
  exact String.toList_ofList ▸ notMem_toDigits noDigit 16 group

/-- The parts between the colons when some groups are written. Nothing is written as one part. -/
def parts (list : List Nat) : List (List Char) :=
  if list = [] then [[]] else list.map (Nat.toDigits 16)

theorem parts_ne_nil (list : List Nat) : parts list ≠ [] := by
  unfold parts
  split
  · exact List.cons_ne_nil _ _
  · next filled => simpa using filled

theorem colon_notMem_parts (list : List Nat) : ∀ part ∈ parts list, ':' ∉ part := by
  unfold parts
  split
  · simp
  · simp only [List.mem_map]
    rintro _ ⟨group, -, rfl⟩
    exact notMem_toDigits (by decide) 16 group

theorem nil_notMem_parts {list : List Nat} (filled : list ≠ []) : [] ∉ parts list := by
  rw [parts, if_neg filled, List.mem_map]
  rintro ⟨group, -, empty⟩
  exact Nat.toDigits_ne_nil empty

theorem toList_groupsText (list : List Nat) :
    (groupsText list).toList = [':'].intercalate (parts list) := by
  unfold groupsText parts
  rw [String.toList_intercalate, List.map_map]
  split
  · next empty => subst empty; rfl
  · congr 1
    exact List.map_congr_left fun group _ => String.toList_ofList

theorem parts_injective : Function.Injective parts := by
  intro list other same
  have digits : Function.Injective (Nat.toDigits 16) := toDigits_injective (by decide) (by decide)
  by_cases empty : list = [] <;> by_cases alsoEmpty : other = []
  · rw [empty, alsoEmpty]
  · exact absurd (same ▸ (by simp [parts, empty] : [] ∈ parts list)) (nil_notMem_parts alsoEmpty)
  · exact absurd (same ▸ (by simp [parts, alsoEmpty] : [] ∈ parts other)) (nil_notMem_parts empty)
  · rw [parts, parts, if_neg empty, if_neg alsoEmpty] at same
    exact List.map_injective_iff.mpr digits same

/-! ## Groups that are left out -/

/-- The parts between the colons when the longest run of zeros may be left out. -/
def shortParts (list : List Nat) : List (List Char) :=
  let zeros := longestZeros ⟨0, 0⟩ 0 list
  if 1 < zeros.length then
    parts (list.take zeros.start) ++ [] :: parts (list.drop (zeros.start + zeros.length))
  else parts list

/-- The groups of an address that is not written with an IPv4 address. -/
def shortText (list : List Nat) : String :=
  let zeros := longestZeros ⟨0, 0⟩ 0 list
  if 1 < zeros.length then
    groupsText (list.take zeros.start) ++ "::" ++
      groupsText (list.drop (zeros.start + zeros.length))
  else groupsText list

theorem toList_shortText (list : List Nat) :
    (shortText list).toList = [':'].intercalate (shortParts list) := by
  unfold shortText shortParts
  dsimp only
  split
  · have between : "::".toList = [':', ':'] := rfl
    rw [String.toList_append, String.toList_append, toList_groupsText, toList_groupsText, between,
      Text.intercalate_append ':' (parts_ne_nil _) (List.cons_ne_nil _ _),
      List.intercalate_cons_of_ne_nil (parts_ne_nil _)]
    rw [List.append_assoc]
    rfl
  · exact toList_groupsText list

theorem colon_notMem_shortParts (list : List Nat) : ∀ part ∈ shortParts list, ':' ∉ part := by
  unfold shortParts
  dsimp only
  split
  · refine List.forall_mem_append.mpr ⟨colon_notMem_parts _, ?_⟩
    exact List.forall_mem_cons.mpr ⟨List.not_mem_nil, colon_notMem_parts _⟩
  · exact colon_notMem_parts list

theorem shortParts_ne_nil (list : List Nat) : shortParts list ≠ [] := by
  unfold shortParts
  dsimp only
  split
  · exact List.append_ne_nil_of_left_ne_nil (parts_ne_nil _) _
  · exact parts_ne_nil list

/-- A group that is written has digits. -/
theorem nil_cons_ne_parts_append {list : List Nat} (filled : list ≠ [])
    (more rest : List (List Char)) : [] :: more ≠ parts list ++ rest := by
  cases list with
  | nil => exact absurd rfl filled
  | cons group others =>
    rw [parts, if_neg filled, List.map_cons, List.cons_append]
    exact fun same => Nat.toDigits_ne_nil (List.cons.inj same).1.symm

/-- The groups in front of those that were left out, and those behind, follow from the parts. -/
theorem shortened_inj {front back otherFront otherBack : List Nat}
    (same : parts front ++ [] :: parts back = parts otherFront ++ [] :: parts otherBack) :
    front = otherFront ∧ back = otherBack := by
  by_cases empty : front = [] <;> by_cases alsoEmpty : otherFront = []
  · subst empty alsoEmpty
    have behind : parts back = parts otherBack := (List.cons.inj (List.append_cancel_left same)).2
    exact ⟨rfl, parts_injective behind⟩
  · rw [empty] at same
    exact absurd same (nil_cons_ne_parts_append alsoEmpty _ _)
  · rw [alsoEmpty] at same
    exact absurd same.symm (nil_cons_ne_parts_append empty _ _)
  · obtain ⟨before, behind⟩ := (Text.append_cons_inj (nil_notMem_parts empty)
      (nil_notMem_parts alsoEmpty)).mp same
    exact ⟨parts_injective before, parts_injective behind⟩

/-- As many groups as are known follow from the parts. -/
theorem shortParts_injective {list other : List Nat} (filled : list ≠ [])
    (length : list.length = other.length) (same : shortParts list = shortParts other) :
    list = other := by
  have alsoFilled : other ≠ [] := by
    rintro rfl
    exact filled (List.length_eq_zero_iff.mp length)
  have shortened (front back : List Nat) : [] ∈ parts front ++ [] :: parts back :=
    List.mem_append_right _ List.mem_cons_self
  have zero (list : List Nat) : (longestZeros ⟨0, 0⟩ 0 list).IsZero list :=
    isZero_longestZeros (List.nil_append list).symm rfl
  unfold shortParts at same
  dsimp only at same
  split at same <;> split at same
  · obtain ⟨front, back⟩ := shortened_inj same
    have cut := (zero list).eq_append
    have alsoCut := (zero other).eq_append
    rw [front, back] at cut
    have count : (longestZeros ⟨0, 0⟩ 0 list).length = (longestZeros ⟨0, 0⟩ 0 other).length := by
      have sizes := congrArg List.length cut
      have alsoSizes := congrArg List.length alsoCut
      simp only [List.length_append, List.length_replicate] at sizes alsoSizes
      omega
    rw [count] at cut
    exact cut.trans alsoCut.symm
  · exact absurd (same ▸ shortened _ _) (nil_notMem_parts alsoFilled)
  · exact absurd (same ▸ shortened _ _) (nil_notMem_parts filled)
  · exact parts_injective same

theorem length_groups (octets : Bytes) : (groups octets).length = octets.length / 2 := by
  fun_induction groups octets with
  | case1 high low rest ih =>
    rw [List.length_cons, List.length_cons, List.length_cons, ih]
    omega
  | case2 octets short =>
    rcases octets with _ | ⟨high, _ | ⟨low, rest⟩⟩
    · rfl
    · simp
    · exact absurd rfl (short high low rest)

/-- Octets follow from their groups. -/
theorem groups_injective {octets other : Bytes} (even : octets.length % 2 = 0)
    (length : octets.length = other.length) (same : groups octets = groups other) :
    octets = other := by
  fun_induction groups octets generalizing other with
  | case1 high low rest ih =>
    rcases other with _ | ⟨otherHigh, _ | ⟨otherLow, others⟩⟩
    · cases length
    · cases length
    · rw [groups] at same
      obtain ⟨group, later⟩ := List.cons.inj same
      have small := low.toNat_lt
      have alsoSmall := otherLow.toNat_lt
      have first : high = otherHigh := UInt8.toNat_inj.mp (by omega)
      have second : low = otherLow := UInt8.toNat_inj.mp (by omega)
      have fewer : rest.length % 2 = 0 := (Nat.add_mod_right rest.length 2).symm.trans even
      have behind : rest = others := ih fewer (by simpa using length) later
      rw [first, second, behind]
  | case2 octets short =>
    rcases octets with _ | ⟨high, _ | ⟨low, rest⟩⟩
    · exact (List.length_eq_zero_iff.mp length.symm).symm
    · cases even
    · exact absurd rfl (short high low rest)

/-! ## IPv6 -/

theorem ipv6Text_of_mapped {octets : Bytes} (mapped : octets.take 12 = mappedLead) :
    ipv6Text octets = "::ffff:" ++ ipv4Text (octets.drop 12) := if_pos mapped

theorem ipv6Text_of_not_mapped {octets : Bytes} (other : ¬ octets.take 12 = mappedLead) :
    ipv6Text octets = shortText (groups octets) := if_neg other

theorem notMem_shortText {c : Char} (noDigit : IsNoDigit c) (noColon : c ≠ ':')
    (list : List Nat) : c ∉ (shortText list).toList := by
  unfold shortText
  dsimp only
  split
  · rw [String.toList_append, String.toList_append, List.mem_append, List.mem_append, not_or,
      not_or]
    have between : c ∉ "::".toList := by simpa using noColon
    exact ⟨⟨notMem_groupsText noDigit noColon _, between⟩, notMem_groupsText noDigit noColon _⟩
  · exact notMem_groupsText noDigit noColon list

theorem notMem_ipv6Text {c : Char} (noDigit : IsNoDigit c) (noColon : c ≠ ':') (noDot : c ≠ '.')
    (octets : Bytes) : c ∉ (ipv6Text octets).toList := by
  by_cases mapped : octets.take 12 = mappedLead
  · rw [ipv6Text_of_mapped mapped, String.toList_append, List.mem_append, not_or]
    have lead : c ∉ "::ffff:".toList := by
      have noLetter : c ≠ 'f' := (noDigit.digitChar_ne 15).symm
      simp [noColon, noLetter]
    exact ⟨lead, notMem_ipv4Text noDigit noDot _⟩
  · rw [ipv6Text_of_not_mapped mapped]
    exact notMem_shortText noDigit noColon _

/-- Four octets have dots between them. -/
theorem dot_mem_ipv4Text {octets : Bytes} (size : octets.length = 4) :
    '.' ∈ (ipv4Text octets).toList := by
  obtain ⟨first, second, third, fourth, rfl⟩ := List.length_eq_four.mp size
  simp [toList_ipv4Text, List.intercalate_cons_cons]

/-- Only an address with a dot holds an IPv4 address. -/
theorem ipv6Text_ne_of_mapped {octets other : Bytes} (size : octets.length = 16)
    (mapped : octets.take 12 = mappedLead) (notMapped : ¬ other.take 12 = mappedLead) :
    ipv6Text octets ≠ ipv6Text other := by
  intro same
  have four : (octets.drop 12).length = 4 := by rw [List.length_drop, size]
  have dot : '.' ∈ (ipv6Text octets).toList := by
    rw [ipv6Text_of_mapped mapped, String.toList_append]
    exact List.mem_append_right _ (dot_mem_ipv4Text four)
  rw [same, ipv6Text_of_not_mapped notMapped] at dot
  exact notMem_shortText (by decide) (by decide) _ dot

/-- Every address of sixteen octets has a text of its own. -/
theorem ipv6Text_injective {octets other : Bytes} (size : octets.length = 16)
    (alsoSize : other.length = 16) (same : ipv6Text octets = ipv6Text other) : octets = other := by
  by_cases mapped : octets.take 12 = mappedLead <;>
    by_cases alsoMapped : other.take 12 = mappedLead
  · rw [ipv6Text_of_mapped mapped, ipv6Text_of_mapped alsoMapped, String.append_right_inj] at same
    have filled {bytes : Bytes} (size : bytes.length = 16) : bytes.drop 12 ≠ [] := by
      rw [← List.length_pos_iff, List.length_drop, size]
      decide
    have rest := ipv4Text_injective (filled size) (filled alsoSize) same
    rw [← List.take_append_drop 12 octets, mapped, rest, ← alsoMapped, List.take_append_drop]
  · exact absurd same (ipv6Text_ne_of_mapped size mapped alsoMapped)
  · exact absurd same.symm (ipv6Text_ne_of_mapped alsoSize alsoMapped mapped)
  · rw [ipv6Text_of_not_mapped mapped, ipv6Text_of_not_mapped alsoMapped] at same
    have count : (groups octets).length = (groups other).length := by
      rw [length_groups, length_groups, size, alsoSize]
    have filled : groups octets ≠ [] := by
      rw [← List.length_pos_iff, length_groups, size]
      decide
    have parts : shortParts (groups octets) = shortParts (groups other) := by
      refine intercalate_inj (shortParts_ne_nil _) (shortParts_ne_nil _)
        (colon_notMem_shortParts _) (colon_notMem_shortParts _) ?_
      rw [← toList_shortText, ← toList_shortText, same]
    exact groups_injective (by rw [size]) (size.trans alsoSize.symm)
      (shortParts_injective filled count parts)

end Net

/-! ## Endpoints -/

namespace Address

variable {family : Family}

theorem octets_eq_toBytes (address : Address family) :
    address.octets = address.toBytes .little := by
  cases address <;> rfl

theorem length_octets (address : Address family) : address.octets.length = family.addressSize := by
  rw [octets_eq_toBytes, length_toBytes]

theorem octets_injective : Function.Injective (octets : Address family → Bytes) := by
  intro address other same
  have read (address : Address family) : ofWords family .little address.octets 0 = address := by
    rw [octets_eq_toBytes]
    exact ofWords_of_hasAt (Bytes.HasAt.whole _)
  rw [← read address, same, read other]

/-- Every address has a text of its own. -/
theorem text_injective : Function.Injective (text : Address family → String) := by
  intro address other same
  apply octets_injective
  have size := address.length_octets
  have alsoSize := other.length_octets
  cases address with
  | v4 word =>
    cases other with
    | v4 _ =>
      exact Net.ipv4Text_injective (List.ne_nil_of_length_eq_add_one size)
        (List.ne_nil_of_length_eq_add_one alsoSize) same
  | v6 high low =>
    cases other with
    | v6 _ _ => exact Net.ipv6Text_injective size alsoSize same

end Address

/-- An address with its port. -/
structure Endpoint where
  family : Family
  address : Address family
  port : UInt16

namespace Endpoint

open Text (IsNoDigit notMem_toDigits append_cons_inj toDigits_injective)

def text (endpoint : Endpoint) : String := endpoint.address.endpointText endpoint.port

theorem toList_text_v4 (address : Address .v4) (port : UInt16) :
    (text ⟨.v4, address, port⟩).toList =
      address.text.toList ++ ':' :: Nat.toDigits 10 port.toNat := by
  cases address with
  | v4 word =>
    show (((Address.v4 word).text ++ ":") ++ toString port.toNat).toList = _
    rw [String.toList_append, String.toList_append, Text.toList_toString, List.append_assoc]
    rfl

theorem toList_text_v6 (address : Address .v6) (port : UInt16) :
    (text ⟨.v6, address, port⟩).toList =
      '[' :: (address.text.toList ++ ']' :: ':' :: Nat.toDigits 10 port.toNat) := by
  cases address with
  | v6 high low =>
    show ((("[" ++ (Address.v6 high low).text) ++ "]:") ++ toString port.toNat).toList = _
    rw [String.toList_append, String.toList_append, String.toList_append, Text.toList_toString,
      List.append_assoc, List.append_assoc]
    rfl

theorem notMem_text_v4 {c : Char} (noDigit : IsNoDigit c) (noColon : c ≠ ':') (noDot : c ≠ '.')
    (address : Address .v4) (port : UInt16) : c ∉ (text ⟨.v4, address, port⟩).toList := by
  rw [toList_text_v4, List.mem_append, List.mem_cons, not_or, not_or]
  cases address with
  | v4 word =>
    exact ⟨Net.notMem_ipv4Text noDigit noDot _, noColon, notMem_toDigits noDigit 10 port.toNat⟩

theorem notMem_text {c : Char} (noDigit : IsNoDigit c) (noMark : c ∉ ['[', ':', '.', ']'])
    (endpoint : Endpoint) : c ∉ endpoint.text.toList := by
  simp only [List.mem_cons, List.not_mem_nil, or_false, not_or] at noMark
  obtain ⟨noOpening, noColon, noDot, noClosing⟩ := noMark
  obtain ⟨family, address, port⟩ := endpoint
  cases family with
  | v4 => exact notMem_text_v4 noDigit noColon noDot address port
  | v6 =>
    rw [toList_text_v6, List.mem_cons, List.mem_append, List.mem_cons, List.mem_cons]
    simp only [not_or]
    cases address with
    | v6 high low =>
      exact ⟨noOpening, Net.notMem_ipv6Text noDigit noColon noDot _, noClosing, noColon,
        notMem_toDigits noDigit 10 port.toNat⟩

/-- Only an IPv6 address stands in brackets. -/
theorem text_v4_ne_text_v6 (address : Address .v4) (other : Address .v6) (port second : UInt16) :
    text ⟨.v4, address, port⟩ ≠ text ⟨.v6, other, second⟩ := by
  intro same
  have opening : '[' ∈ (text ⟨.v6, other, second⟩).toList := by
    rw [toList_text_v6]
    exact List.mem_cons_self
  rw [← same] at opening
  exact notMem_text_v4 (by decide) (by decide) (by decide) address port opening

theorem port_inj {port second : UInt16}
    (same : Nat.toDigits 10 port.toNat = Nat.toDigits 10 second.toNat) : port = second :=
  UInt16.toNat_inj.mp (toDigits_injective (by decide) (by decide) same)

/-- Every endpoint has a text of its own. -/
theorem text_injective : Function.Injective text := by
  rintro ⟨family, address, port⟩ ⟨other, second, otherPort⟩ same
  cases family <;> cases other
  · have chars := congrArg String.toList same
    rw [toList_text_v4, toList_text_v4] at chars
    have colon (address : Address .v4) : ':' ∉ address.text.toList := by
      cases address with
      | v4 word => exact Net.notMem_ipv4Text (by decide) (by decide) _
    obtain ⟨written, digits⟩ := (append_cons_inj (colon address) (colon second)).mp chars
    rw [Address.text_injective (String.toList_inj.mp written), port_inj digits]
  · exact absurd same (text_v4_ne_text_v6 _ _ _ _)
  · exact absurd same.symm (text_v4_ne_text_v6 _ _ _ _)
  · have chars := congrArg String.toList same
    rw [toList_text_v6, toList_text_v6] at chars
    have bracket (address : Address .v6) : ']' ∉ address.text.toList := by
      cases address with
      | v6 high low => exact Net.notMem_ipv6Text (by decide) (by decide) (by decide) _
    obtain ⟨written, digits⟩ :=
      (append_cons_inj (bracket address) (bracket second)).mp (List.cons.inj chars).2
    rw [Address.text_injective (String.toList_inj.mp written), port_inj (List.cons.inj digits).2]

end Endpoint

end ProbeStream
