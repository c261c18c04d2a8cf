import Caseflow.Interpolation
import Caseflow.Proofs.Numerals
import Caseflow.Proofs.Decompositions
/-! What a reference is worth. Its names stand between its dots. The first one is looked up in the
scope and then among the properties, and each of the others leads to a member of an object or to an
item of an array. Where one of them leads nowhere the reference is worth nothing. -/
namespace Caseflow

/-! ### Numerals of positions -/

namespace Text

variable {text : List Char} {value : Nat}

theorem isDigit_of_digit? {c : Char} {digit : Nat} (read : digit? c = some digit) :
    c.isDigit = true := by
  unfold digit? at read
  split at read
  · rename_i within
    simp only [Char.isDigit, Bool.and_eq_true, decide_eq_true_eq]
    exact within
  · cases read

theorem digits_of_continueNumeral? {start : Nat} (read : continueNumeral? start text = some value) :
    ∀ c ∈ text, c.isDigit = true := by
  induction text generalizing start with
  | nil => exact List.forall_mem_nil _
  | cons c rest ih =>
    obtain ⟨digit, here, later⟩ := Option.bind_eq_some_iff.mp read
    exact List.forall_mem_cons.mpr ⟨isDigit_of_digit? here, ih later⟩

/-- Digits are read as what they stand for, and nothing else is read. -/
theorem digits?_eq_some_iff : digits? text = some value ↔
    text ≠ [] ∧ (∀ c ∈ text, c.isDigit = true) ∧ Nat.ofDigitChars 10 text 0 = value := by
  cases text with
  | nil => simp [digits?]
  | cons c rest =>
    show continueNumeral? 0 (c :: rest) = some value ↔ _
    constructor
    · intro read
      have digits := digits_of_continueNumeral? read
      rw [continueNumeral?_digits digits] at read
      exact ⟨by simp, digits, Option.some.inj read⟩
    · rintro ⟨-, digits, rfl⟩
      exact continueNumeral?_digits digits 0

/-- The name is a numeral, which may carry a plus sign, for a position below `2 ^ 64`. -/
def IsPosition (name : String) (position : Nat) : Prop :=
  ∃ digits : List Char, (name.toList = digits ∨ name.toList = '+' :: digits) ∧ digits ≠ [] ∧
    (∀ c ∈ digits, c.isDigit = true) ∧ Nat.ofDigitChars 10 digits 0 = position ∧
      position < 18446744073709551616

theorem natural?_eq_some_iff : natural? text = some value ↔
    ∃ digits, (text = digits ∨ text = '+' :: digits) ∧ digits? digits = some value := by
  constructor
  · intro read
    unfold natural? at read
    split at read
    · exact ⟨_, .inr rfl, read⟩
    · exact ⟨_, .inl rfl, read⟩
  · rintro ⟨digits, rfl | rfl, read⟩
    · unfold natural?
      split
      · have plus := (digits?_eq_some_iff.mp read).2.1 '+' (List.mem_cons_self ..)
        exact absurd plus (by decide)
      · exact read
    · exact read

theorem position?_eq_some_iff {name : String} : position? name = some value ↔ IsPosition name value := by
  simp only [position?, Option.filter_eq_some_iff, natural?_eq_some_iff, digits?_eq_some_iff,
    IsPosition, decide_eq_true_eq]
  constructor
  · rintro ⟨⟨digits, written, some, all, worth⟩, below⟩
    exact ⟨digits, written, some, all, worth, below⟩
  · rintro ⟨digits, written, some, all, worth, below⟩
    exact ⟨⟨digits, written, some, all, worth⟩, below⟩

end Text

/-! ### Paths into values -/

namespace Json

/-- What stands at the end of a path into a value: a name leads to the first member of an object
that has it, and the numeral of a position to the item of an array there. -/
inductive At : Json → List String → Json → Prop
  | here (value : Json) : At value [] value
  | member {before after : List (String × Json)} {name : String} {inner value : Json}
      {rest : List String} (first : ∀ pair ∈ before, pair.1 ≠ name) (later : At inner rest value) :
      At (.obj (before ++ (name, inner) :: after)) (name :: rest) value
  | item {items : List Json} {name : String} {position : Nat} {inner value : Json}
      {rest : List String} (numeral : Text.IsPosition name position)
      (found : items[position]? = some inner) (later : At inner rest value) :
      At (.arr items) (name :: rest) value

variable {value inner : Json} {name : String} {names : List String}

theorem findPair?_eq_some_iff {members : List (String × Json)} :
    findPair? name members = some inner ↔ ∃ before after,
      members = before ++ (name, inner) :: after ∧ ∀ pair ∈ before, pair.1 ≠ name := by
  induction members with
  | nil => simp [findPair?]
  | cons head rest ih =>
    obtain ⟨other, value⟩ := head
    unfold findPair?
    by_cases same : name = other
    · subst same
      rw [if_pos Std.ReflCmp.compare_self]
      constructor
      · intro found
        cases found
        exact ⟨[], rest, rfl, List.forall_mem_nil _⟩
      · rintro ⟨before, after, whole, first⟩
        cases before with
        | nil =>
          cases whole
          rfl
        | cons front more =>
          cases whole
          exact absurd rfl (first _ (List.mem_cons_self ..))
    · have apart : compare name other ≠ .eq := fun equal => same (Std.LawfulEqCmp.eq_of_compare equal)
      rw [if_neg apart, ih]
      constructor
      · rintro ⟨before, after, rfl, first⟩
        exact ⟨(other, value) :: before, after, rfl, List.forall_mem_cons.mpr ⟨Ne.symm same, first⟩⟩
      · rintro ⟨before, after, whole, first⟩
        cases before with
        | nil =>
          cases whole
          exact absurd rfl same
        | cons front more =>
          cases whole
          exact ⟨more, after, rfl, (List.forall_mem_cons.mp first).2⟩

/-- Following a path ends at what stands there. -/
theorem at_iff : value.At names inner ↔ value.descend? names = some inner := by
  induction names generalizing value with
  | nil =>
    constructor
    · rintro ⟨⟩
      rfl
    · intro ends
      cases ends
      exact .here _
  | cons name rest ih =>
    rw [descend?, Option.bind_eq_some_iff]
    constructor
    · intro path
      cases path with
      | member first later => exact ⟨_, findPair?_eq_some_iff.mpr ⟨_, _, rfl, first⟩, ih.mp later⟩
      | item numeral found later =>
        refine ⟨_, ?_, ih.mp later⟩
        rw [child?, Text.position?_eq_some_iff.mpr numeral]
        exact found
    · rintro ⟨child, leads, ends⟩
      have later := ih.mpr ends
      unfold child? at leads
      split at leads
      · obtain ⟨before, after, rfl, first⟩ := findPair?_eq_some_iff.mp leads
        exact .member first later
      · obtain ⟨position, numeral, found⟩ := Option.bind_eq_some_iff.mp leads
        exact .item (Text.position?_eq_some_iff.mp numeral) found later
      · cases leads

end Json

/-! ### References -/

theorem Text.splitAtEach_eq_splitOn (separator : Char) (text : List Char) :
    splitAtEach separator text = text.splitOn separator := by
  induction text with
  | nil => rfl
  | cons c rest ih =>
    rw [List.splitOn, List.splitOnP_cons_eq_if_modifyHead, splitAtEach, ih]
    by_cases same : c = separator
    · simp [same, List.splitOn]
    · cases parted : rest.splitOn separator with
      | nil => exact absurd parted (List.splitOn_ne_nil separator rest)
      | cons part parts =>
        rw [List.splitOn] at parted
        simp [same, parted]

theorem Text.not_mem_of_mem_splitAtEach {separator : Char} {text part : List Char}
    (member : part ∈ splitAtEach separator text) : separator ∉ part := by
  induction text generalizing part with
  | nil => simp_all [splitAtEach]
  | cons c rest ih =>
    unfold splitAtEach at member
    split at member
    · rcases List.mem_cons.mp member with rfl | later
      · simp
      · exact ih later
    · rename_i apart
      split at member
      · rename_i first others parted
        rw [parted] at ih
        rcases List.mem_cons.mp member with rfl | later
        · simp [Ne.symm apart, ih (List.mem_cons_self ..)]
        · exact ih (List.mem_cons_of_mem _ later)
      · simp_all [Ne.symm apart]

/-- The parts of a text are what stands between its separators. -/
theorem Text.eq_splitAtEach_iff {separator : Char} {text : List Char} {parts : List (List Char)} :
    parts = splitAtEach separator text ↔ parts ≠ [] ∧ (∀ part ∈ parts, separator ∉ part) ∧
      [separator].intercalate parts = text := by
  constructor
  · rintro rfl
    refine ⟨?_, fun part => not_mem_of_mem_splitAtEach, ?_⟩
    · rw [splitAtEach_eq_splitOn]
      exact List.splitOn_ne_nil separator text
    · rw [splitAtEach_eq_splitOn, List.intercalate_splitOn]
  · rintro ⟨some, free, rfl⟩
    rw [splitAtEach_eq_splitOn, List.splitOn_intercalate separator free some]

/-- What the reserved names stand for. Outside an action, without a caller and before a step is
created some of them stand for nothing. -/
inductive Scope.Part (scope : Scope) : String → Json → Prop
  | entry : Part scope "entry" scope.entry.toJson
  | entryId : Part scope "entryId" (.int scope.entry.id)
  | workflowName : Part scope "workflowName" (.str scope.entry.workflow)
  | actionId {id : ActionId} (acting : scope.actionId = some id) : Part scope "actionId" (.int id.toInt)
  | caller {caller : String} (known : scope.caller = some caller) : Part scope "caller" (.str caller)
  | currentSteps : Part scope "currentSteps" (.arr (scope.currentSteps.map Step.toJson))
  | createdStep {step : Step} (created : scope.createdStep = some step) :
      Part scope "createdStep" step.toJson

theorem Scope.part_iff {scope : Scope} {name : String} {value : Json} : scope.Part name value ↔
    name ∈ reservedNames ∧ scope.reserved? name = some value := by
  constructor
  · intro part
    cases part with
    | entry | entryId | workflowName | currentSteps => exact ⟨by decide, rfl⟩
    | actionId present | caller present | createdStep present =>
      exact ⟨by decide, by rw [reserved?, present]; rfl⟩
  · rintro ⟨-, present⟩
    unfold reserved? at present
    split at present
    · cases present
      exact .entry
    · cases present
      exact .entryId
    · cases present
      exact .workflowName
    · obtain ⟨id, acting, rfl⟩ := Option.map_eq_some_iff.mp present
      exact .actionId acting
    · obtain ⟨caller, known, rfl⟩ := Option.map_eq_some_iff.mp present
      exact .caller known
    · cases present
      exact .currentSteps
    · obtain ⟨step, created, rfl⟩ := Option.map_eq_some_iff.mp present
      exact .createdStep created
    · cases present

namespace Interpolation

/-- The names stand in the reference with dots between them, blanks at both ends aside. -/
def HasPath (reference : List Char) (names : List String) : Prop :=
  names ≠ [] ∧ (∀ name ∈ names, '.' ∉ name.toList) ∧
    Text.TrimsTo reference (['.'].intercalate (names.map String.toList))

/-- What a name stands for: the part of the scope that it is reserved for, else the variable of the
name, and where the scope has neither, the property. -/
inductive Stands (scope : Scope) (properties : Values) (name : String) (value : Json) : Prop
  | part (stands : scope.Part name value)
  | variable (free : name ∉ Scope.reservedNames) (bound : scope.bindings.get? name = some value)
  | property (absent : ∀ part, ¬ scope.Part name part)
      (unbound : name ∉ Scope.reservedNames → scope.bindings.get? name = none)
      (held : properties.get? name = some value)

/-- A reference is worth what stands at the end of its path in what its first name stands for. -/
def Worth (scope : Scope) (properties : Values) (reference : List Char) (value : Json) : Prop :=
  ∃ root rest whole, HasPath reference (root :: rest) ∧ Stands scope properties root whole ∧
    whole.At rest value

variable {scope : Scope} {properties : Values} {name : String} {names : List String}
  {reference : List Char} {value : Json}

theorem hasPath_iff : HasPath reference names ↔ names = path reference := by
  have listed : names = path reference ↔
      names.map String.toList = Text.splitAtEach '.' (Text.trimmed reference) := by
    unfold path
    constructor
    · rintro rfl
      simp [List.map_map, Function.comp_def, String.toList_ofList]
    · intro same
      rw [← same]
      simp [List.map_map, Function.comp_def, String.ofList_toList]
  rw [listed, Text.eq_splitAtEach_iff, ← Text.trimsTo_iff]
  simp [HasPath]

theorem stands_iff : Stands scope properties name value ↔ root? scope properties name = some value := by
  unfold root? Scope.lookup?
  constructor
  · rintro (part | ⟨free, bound⟩ | ⟨absent, unbound, held⟩)
    · obtain ⟨reserved, present⟩ := Scope.part_iff.mp part
      rw [if_pos reserved, present]
      rfl
    · rw [if_neg free, bound]
      rfl
    · split
      · rename_i reserved
        have none : scope.reserved? name = none :=
          Option.eq_none_iff_forall_ne_some.mpr fun part present =>
            absent part (Scope.part_iff.mpr ⟨reserved, present⟩)
        rw [none, Option.none_or, held]
      · rename_i free
        rw [unbound free, Option.none_or, held]
  · intro known
    split at known
    · rename_i reserved
      rcases Option.or_eq_some_iff.mp known with present | ⟨absent, held⟩
      · exact .part (Scope.part_iff.mpr ⟨reserved, present⟩)
      · refine .property (fun part stands => ?_) (fun free => absurd reserved free) held
        rw [(Scope.part_iff.mp stands).2] at absent
        cases absent
    · rename_i free
      rcases Option.or_eq_some_iff.mp known with bound | ⟨unbound, held⟩
      · exact .variable free bound
      · exact .property (fun part stands => free (Scope.part_iff.mp stands).1) (fun _ => unbound) held

/-- The value that a reference has is what it is worth. -/
theorem worth_iff : Worth scope properties reference value ↔
    reference? scope properties reference = some value := by
  simp only [Worth, hasPath_iff, stands_iff, Json.at_iff]
  unfold reference?
  constructor
  · rintro ⟨root, rest, whole, named, stands, ends⟩
    rw [← named]
    exact Option.bind_eq_some_iff.mpr ⟨whole, stands, ends⟩
  · intro found
    split at found
    · cases found
    · rename_i root rest named
      obtain ⟨whole, stands, ends⟩ := Option.bind_eq_some_iff.mp found
      exact ⟨root, rest, whole, named.symm, stands, ends⟩

end Interpolation

end Caseflow
