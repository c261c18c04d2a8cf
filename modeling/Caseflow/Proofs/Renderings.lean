import Mathlib.Data.List.Forall2
import Caseflow.Json.Writer
import Caseflow.Proofs.Numerals
/-! How values are rendered. A text is put in as it is and null as nothing. Anything else is written
as JSON, without blanks: numbers as numerals, texts between quotes with escapes only where they are
needed, the items of an array and the members of an object with commas between them. -/
namespace Caseflow

namespace Json

/-! ### What is written -/

/-- A whole number is written as its numeral, after a minus sign if it is negative. -/
inductive WritesInt : Int → List Char → Prop
  | natural {value : Nat} {digits : List Char} (numeral : Text.IsNumeral value digits) :
      WritesInt value digits
  | negative {value : Nat} {digits : List Char} (positive : 0 < value)
      (numeral : Text.IsNumeral value digits) : WritesInt (-value) ('-' :: digits)

/-- The characters that are escaped by a letter. -/
def letters : List (Char × Char) :=
  [('"', '"'), ('\\', '\\'), ('\x08', 'b'), ('\x0c', 'f'), ('\n', 'n'), ('\r', 'r'), ('\t', 't')]

def hexDigits : List Char :=
  ['0', '1', '2', '3', '4', '5', '6', '7', '8', '9', 'a', 'b', 'c', 'd', 'e', 'f']

/-- How a character stands between quotes: by a letter after a backslash, by its number if it is
another control character, or for itself. -/
inductive WritesChar : Char → List Char → Prop
  | letter {c letter : Char} (named : (c, letter) ∈ letters) : WritesChar c ['\\', letter]
  | control {c high low : Char} (unnamed : c ∉ letters.map (·.1)) (below : c.toNat < 0x20)
      (first : hexDigits[c.toNat / 16]? = some high) (last : hexDigits[c.toNat % 16]? = some low) :
      WritesChar c ['\\', 'u', '0', '0', high, low]
  | plain {c : Char} (unnamed : c ∉ letters.map (·.1)) (above : 0x20 ≤ c.toNat) : WritesChar c [c]

/-- A text is written character by character between quotes. -/
def WritesText (text : String) (written : List Char) : Prop :=
  ∃ parts, List.Forall₂ WritesChar text.toList parts ∧ written = '"' :: parts.flatten ++ ['"']

mutual

/-- The value is written so. -/
inductive Writes : Json → List Char → Prop
  | null : Writes .null ['n', 'u', 'l', 'l']
  | yes : Writes (.bool true) ['t', 'r', 'u', 'e']
  | no : Writes (.bool false) ['f', 'a', 'l', 's', 'e']
  | int {value : Int} {written : List Char} (writes : WritesInt value written) :
      Writes (.int value) written
  | float (value : Binary64) : Writes (.float value) value.text
  | str {text : String} {written : List Char} (writes : WritesText text written) :
      Writes (.str text) written
  | arr {items : List Json} {written : List Char} (writes : WritesItems items written) :
      Writes (.arr items) ('[' :: written ++ [']'])
  | obj {members : List (String × Json)} {written : List Char}
      (writes : WritesMembers members written) :
      Writes (.obj members) ('\x7b' :: written ++ ['\x7d'])

/-- The items are written so, with commas between them. -/
inductive WritesItems : List Json → List Char → Prop
  | none : WritesItems [] []
  | last {item : Json} {written : List Char} (writes : Writes item written) :
      WritesItems [item] written
  | more {item next : Json} {rest : List Json} {written others : List Char}
      (writes : Writes item written) (later : WritesItems (next :: rest) others) :
      WritesItems (item :: next :: rest) (written ++ ',' :: others)

/-- The members are written so, each with a colon after its name, and with commas between them. -/
inductive WritesMembers : List (String × Json) → List Char → Prop
  | none : WritesMembers [] []
  | last {name : String} {value : Json} {quoted written : List Char} (names : WritesText name quoted)
      (writes : Writes value written) : WritesMembers [(name, value)] (quoted ++ ':' :: written)
  | more {name : String} {value : Json} {next : String × Json} {rest : List (String × Json)}
      {quoted written others : List Char} (names : WritesText name quoted)
      (writes : Writes value written) (later : WritesMembers (next :: rest) others) :
      WritesMembers ((name, value) :: next :: rest) (quoted ++ ':' :: written ++ ',' :: others)

end

/-- A text is rendered as it is and null as nothing, any other value as it is written. -/
inductive Renders : Json → List Char → Prop
  | null : Renders .null []
  | text (text : String) : Renders (.str text) text.toList
  | other {value : Json} {written : List Char} (notNull : value ≠ .null)
      (notText : ∀ text, value ≠ .str text) (writes : Writes value written) : Renders value written

/-! ### Writing -/

theorem writesInt_iff {value : Int} {written : List Char} :
    WritesInt value written ↔ written = (Text.integerText value).toList := by
  unfold Text.integerText
  rw [String.toList_ofList]
  constructor
  · rintro (⟨numeral⟩ | ⟨positive, numeral⟩)
    · rw [Text.isNumeral_iff.mp numeral, if_neg (by omega), Int.natAbs_natCast]
    · rw [Text.isNumeral_iff.mp numeral, if_pos (by omega), Int.natAbs_neg, Int.natAbs_natCast]
  · rintro rfl
    split
    · have same : value = -(value.natAbs : Int) := by omega
      rw [same, Int.natAbs_neg, Int.natAbs_natCast]
      exact .negative (by omega) (Text.isNumeral_numeral _)
    · have same : value = (value.natAbs : Int) := by omega
      rw [same, Int.natAbs_natCast]
      exact .natural (Text.isNumeral_numeral _)

theorem hexDigits_eq {value : Nat} (small : value < 16) {c : Char} :
    hexDigits[value]? = some c ↔ c = lowHexDigit value := by
  have every : ∀ digit < 16, hexDigits[digit]? = some (lowHexDigit digit) := by decide
  rw [every value small, Option.some.injEq, eq_comm]

theorem WritesChar.eq_writeChar {c : Char} {written : List Char} (writes : WritesChar c written) :
    written = writeChar c := by
  cases writes with
  | letter named =>
    simp only [letters, List.mem_cons, Prod.mk.injEq, List.not_mem_nil, or_false] at named
    rcases named with ⟨rfl, rfl⟩ | ⟨rfl, rfl⟩ | ⟨rfl, rfl⟩ | ⟨rfl, rfl⟩ | ⟨rfl, rfl⟩ |
      ⟨rfl, rfl⟩ | ⟨rfl, rfl⟩ <;> rfl
  | control unnamed below first last =>
    simp only [letters, List.map_cons, List.map_nil, List.mem_cons, List.not_mem_nil, or_false,
      not_or] at unnamed
    rw [hexDigits_eq (by omega)] at first last
    have low : lowHexDigit (c.toNat % 16) = lowHexDigit c.toNat := by
      rw [lowHexDigit, lowHexDigit, Nat.mod_mod]
    rw [first, last, low]
    simp [writeChar, unnamed, below]
  | plain unnamed above =>
    simp only [letters, List.map_cons, List.map_nil, List.mem_cons, List.not_mem_nil, or_false,
      not_or] at unnamed
    simp [writeChar, unnamed, Nat.not_lt.mpr above]

/-- A character stands between quotes in one way. -/
theorem writesChar_iff {c : Char} {written : List Char} :
    WritesChar c written ↔ written = writeChar c := by
  have somehow : ∃ written, WritesChar c written := by
    by_cases named : c ∈ letters.map (·.1)
    · obtain ⟨⟨_, letter⟩, member, rfl⟩ := List.mem_map.mp named
      exact ⟨_, .letter member⟩
    · by_cases below : c.toNat < 0x20
      · exact ⟨_, .control named below ((hexDigits_eq (by omega)).mpr rfl)
          ((hexDigits_eq (by omega)).mpr rfl)⟩
      · exact ⟨_, .plain named (Nat.not_lt.mp below)⟩
  obtain ⟨own, writes⟩ := somehow
  exact ⟨WritesChar.eq_writeChar, fun same => (same.trans writes.eq_writeChar.symm) ▸ writes⟩

theorem writesText_iff {text : String} {written : List Char} :
    WritesText text written ↔ written = (writeText text).toList := by
  have each (parts : List (List Char)) :
      List.Forall₂ WritesChar text.toList parts ↔ parts = text.toList.map writeChar := by
    have asChars : WritesChar = fun c written => writeChar c = written := by
      funext c written
      exact propext (writesChar_iff.trans eq_comm)
    rw [asChars, ← List.forall₂_map_left_iff, List.forall₂_eq_eq_eq, eq_comm]
  have whole : (writeText text).toList = '"' :: (text.toList.map writeChar).flatten ++ ['"'] := by
    simp [writeText, writeChars, String.toList_append, List.flatMap_def]
  simp only [WritesText, each, exists_eq_left, whole]

mutual

/-- A value is written as its compact text and in no other way. -/
theorem writes_iff : ∀ (value : Json) (written : List Char),
    Writes value written ↔ written = value.compact.toList
  | .null, _ => by
    rw [compact]
    exact ⟨fun | .null => rfl, fun same => same ▸ .null⟩
  | .bool true, _ => by
    rw [compact]
    exact ⟨fun | .yes => rfl, fun same => same ▸ .yes⟩
  | .bool false, _ => by
    rw [compact]
    exact ⟨fun | .no => rfl, fun same => same ▸ .no⟩
  | .int value, _ => by
    rw [compact, ← writesInt_iff]
    exact ⟨fun | .int writes => writes, .int⟩
  | .float value, _ => by
    rw [compact, String.toList_ofList]
    exact ⟨fun | .float _ => rfl, fun same => same ▸ .float value⟩
  | .str text, _ => by
    rw [compact, ← writesText_iff]
    exact ⟨fun | .str writes => writes, .str⟩
  | .arr items, written => by
    have inner := writesItems_iff items
    have whole : (Json.arr items).compact.toList = '[' :: (compactItems items).toList ++ [']'] := by
      simp [compact, String.toList_append]
    rw [whole]
    constructor
    · intro writes
      cases writes with
      | arr writes => rw [(inner _).mp writes]
    · rintro rfl
      exact .arr ((inner _).mpr rfl)
  | .obj members, written => by
    have inner := writesMembers_iff members
    have whole : (Json.obj members).compact.toList =
        '\x7b' :: (compactMembers members).toList ++ ['\x7d'] := by
      simp [compact, String.toList_append]
    rw [whole]
    constructor
    · intro writes
      cases writes with
      | obj writes => rw [(inner _).mp writes]
    · rintro rfl
      exact .obj ((inner _).mpr rfl)

theorem writesItems_iff : ∀ (items : List Json) (written : List Char),
    WritesItems items written ↔ written = (compactItems items).toList
  | [], _ => by
    rw [compactItems]
    exact ⟨fun | .none => rfl, fun same => same ▸ .none⟩
  | [item], _ => by
    rw [compactItems, ← writes_iff item]
    exact ⟨fun | .last writes => writes, .last⟩
  | item :: next :: rest, written => by
    have here := writes_iff item
    have later := writesItems_iff (next :: rest)
    have whole : (compactItems (item :: next :: rest)).toList =
        item.compact.toList ++ ',' :: (compactItems (next :: rest)).toList := by
      simp [compactItems, String.toList_append]
    rw [whole]
    constructor
    · intro writes
      cases writes with
      | more writes others => rw [(here _).mp writes, (later _).mp others]
    · rintro rfl
      exact .more ((here _).mpr rfl) ((later _).mpr rfl)

theorem writesMembers_iff : ∀ (members : List (String × Json)) (written : List Char),
    WritesMembers members written ↔ written = (compactMembers members).toList
  | [], _ => by
    rw [compactMembers]
    exact ⟨fun | .none => rfl, fun same => same ▸ .none⟩
  | [(name, value)], written => by
    have here := writes_iff value
    have whole : (compactMembers [(name, value)]).toList =
        (writeText name).toList ++ ':' :: value.compact.toList := by
      simp [compactMembers, String.toList_append]
    rw [whole]
    constructor
    · intro writes
      cases writes with
      | last names writes => rw [writesText_iff.mp names, (here _).mp writes]
    · intro same
      rw [same]
      exact .last (writesText_iff.mpr rfl) ((here _).mpr rfl)
  | (name, value) :: next :: rest, written => by
    have here := writes_iff value
    have later := writesMembers_iff (next :: rest)
    have whole : (compactMembers ((name, value) :: next :: rest)).toList =
        (writeText name).toList ++ ':' :: value.compact.toList ++
          ',' :: (compactMembers (next :: rest)).toList := by
      simp [compactMembers, String.toList_append]
    rw [whole]
    constructor
    · intro writes
      cases writes with
      | more names writes others =>
        rw [writesText_iff.mp names, (here _).mp writes, (later _).mp others]
    · intro same
      rw [same]
      exact .more (writesText_iff.mpr rfl) ((here _).mpr rfl) ((later _).mpr rfl)

end

/-- A value is rendered in one way. -/
theorem renders_iff {value : Json} {written : List Char} :
    Renders value written ↔ written = value.plainText.toList := by
  constructor
  · intro renders
    cases renders with
    | null => rfl
    | text text => rfl
    | other notNull notText writes =>
      rw [plainText, ← writes_iff]
      · exact writes
      · exact notNull
      · exact notText
  · rintro rfl
    cases value with
    | null => exact .null
    | str text => exact .text text
    | bool value => exact .other nofun nofun ((writes_iff _ _).mpr rfl)
    | int value => exact .other nofun nofun ((writes_iff _ _).mpr rfl)
    | float value => exact .other nofun nofun ((writes_iff _ _).mpr rfl)
    | arr items => exact .other nofun nofun ((writes_iff _ _).mpr rfl)
    | obj members => exact .other nofun nofun ((writes_iff _ _).mpr rfl)

end Json

end Caseflow
