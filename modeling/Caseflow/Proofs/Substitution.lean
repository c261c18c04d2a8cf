import Mathlib.Logic.ExistsUnique
import Caseflow.Proofs.References
import Caseflow.Proofs.Renderings
import Caseflow.Proofs.ShortestDecimals
/-! Interpolation as substitution. A text comes to its literals and the texts of its references, in
the order in which they stand there, or to the value of its one reference. What is put in for a
reference is not taken apart again, so a text is interpolated by the values of the names in its own
references and by nothing else. -/
namespace Caseflow

namespace Interpolation

open Template (opening Divides IsSole)

variable {scope other : Scope} {properties others : Values} {text name : String}
  {root : String} {reference : List Char}

/-! ### What a text comes to -/

/-- What is put in for a reference. -/
def inserted (scope : Scope) (properties : Values) (reference : List Char) : List Char :=
  (rendered (reference? scope properties reference)).toList

theorem resolve_plain (plain : ¬ opening <:+: text.toList) :
    resolve scope properties text = some (.str text) := by
  have none : Template.hasOpening text.toList = false :=
    Bool.eq_false_iff.mpr fun found => plain (Template.hasOpening_iff.mp found)
  simp [resolve, none]

theorem resolve_sole (sole : IsSole reference text.toList) :
    resolve scope properties text = reference? scope properties reference := by
  have found := Template.hasOpening_iff.mpr sole.has_opening
  simp [resolve, found, Template.sole?_eq_some_iff.mpr sole]

theorem resolve_mixed (mixed : ∀ reference, ¬ IsSole reference text.toList) :
    resolve scope properties text =
      some (.str (String.ofList ((Template.parse text.toList).fill (inserted scope properties)))) := by
  by_cases found : opening <:+: text.toList
  · have several : Template.sole? text.toList = none :=
      Option.eq_none_iff_forall_ne_some.mpr fun reference single =>
        mixed reference (Template.sole?_eq_some_iff.mp single)
    simp only [resolve, Template.hasOpening_iff.mpr found, several]
    rfl
  · rw [resolve_plain found, Template.parse_plain found]
    simp [Template.fill]

/-- What a reference is replaced by: what it is worth, as that is rendered, and nothing where it is
worth nothing. -/
inductive Replaced (scope : Scope) (properties : Values) (reference : List Char) : List Char → Prop
  | known {value : Json} {written : List Char} (worth : Worth scope properties reference value)
      (renders : value.Renders written) : Replaced scope properties reference written
  | unknown (worthless : ∀ value, ¬ Worth scope properties reference value) :
      Replaced scope properties reference []

/-- Every reference of the template is replaced by what is put in for it. -/
def Replaces (scope : Scope) (properties : Values) (template : Template)
    (put : List Char → List Char) : Prop :=
  ∀ segment ∈ template.segments, Replaced scope properties segment.2 (put segment.2)

theorem renders_iff_rendered {value : Json} {written : List Char} :
    value.Renders written ↔ (rendered (some value)).toList = written := by
  rw [Json.renders_iff, eq_comm]
  rfl

theorem replaced_iff {written : List Char} : Replaced scope properties reference written ↔
    written = inserted scope properties reference := by
  unfold inserted
  constructor
  · intro replaced
    cases replaced with
    | known worth renders =>
      rw [worth_iff.mp worth]
      exact (renders_iff_rendered.mp renders).symm
    | unknown worthless =>
      have none := Option.eq_none_iff_forall_ne_some.mpr fun value found =>
        worthless value (worth_iff.mpr found)
      rw [none]
      rfl
  · rintro rfl
    cases found : reference? scope properties reference with
    | some value => exact .known (worth_iff.mpr found) (renders_iff_rendered.mpr rfl)
    | none =>
      refine .unknown fun value worth => ?_
      rw [worth_iff.mp worth] at found
      cases found

theorem fill_replaced {template : Template} {put : List Char → List Char}
    (replaces : Replaces scope properties template put) :
    template.fill put = template.fill (inserted scope properties) :=
  Template.fill_congr fun segment member => replaced_iff.mp (replaces segment member)

/-- A text falls apart in one way, into finitely many references, and each of them is replaced by
one text, in which a floating-point number is its shortest decimal. Without an opening a text
stands for itself. One that is a single reference, blanks around it aside, has the value that the
reference is worth, if it is worth any, and that value is rendered as what the reference is
replaced by. Of any other text all references are replaced, in their order, and the rest of it
stays. -/
theorem resolve_substitutes (scope : Scope) (properties : Values) (text : String) :
    (∃! template : Template, template.Divides text.toList) ∧
    (∀ template : Template, template.Divides text.toList →
      3 * template.segments.length ≤ text.toList.length) ∧
    (∀ reference, ∃! written, Replaced scope properties reference written) ∧
    (∀ value written, Json.Renders value written ↔ (rendered (some value)).toList = written) ∧
    (∀ number : Binary64, number.Proper →
      number.Writes (rendered (some (.float number))).toList) ∧
    rendered none = "" ∧
    (¬ opening <:+: text.toList → resolve scope properties text = some (.str text)) ∧
    (∀ reference, IsSole reference text.toList →
      (∀ value, resolve scope properties text = some value ↔ Worth scope properties reference value) ∧
      ∀ inner, Text.TrimsTo text.toList inner →
        ∀ template : Template, template.Divides inner →
          ∀ put, Replaces scope properties template put →
            (rendered (resolve scope properties text)).toList = template.fill put) ∧
    ((∀ reference, ¬ IsSole reference text.toList) →
      ∀ template : Template, template.Divides text.toList →
        ∀ put, Replaces scope properties template put →
          resolve scope properties text = some (.str (String.ofList (template.fill put)))) := by
  refine ⟨⟨Template.parse text.toList, Template.parse_divides _, fun _ => Divides.eq_parse⟩,
    fun _ => Divides.length_le, fun reference => ?_, fun value written => renders_iff_rendered,
    fun number proper => ?_, rfl, resolve_plain, ?_, ?_⟩
  · exact ⟨inserted scope properties reference, replaced_iff.mpr rfl, fun _ => replaced_iff.mp⟩
  · have written : (rendered (some (.float number))).toList = number.text := String.toList_ofList
    rw [written]
    exact Binary64.writes_text proper
  · intro reference sole
    rw [resolve_sole sole]
    refine ⟨fun value => worth_iff.symm, fun inner trims template divides put replaces => ?_⟩
    have written : inner = Template.written reference :=
      trims.eq_trimmed.trans sole.1.eq_trimmed.symm
    have only : template = ⟨[([], reference)], []⟩ := by
      rw [divides.eq_parse, written]
      exact Template.parse_written sole.2.2
    rw [fill_replaced replaces, only]
    simp [Template.fill, inserted]
  · intro mixed template divides put replaces
    rw [fill_replaced replaces, divides.eq_parse, resolve_mixed mixed]

/-- The total of an order, two hundred and fifty and a half. -/
def total : Binary64 := ⟨false, 8813685208252416, -45⟩

/-- An order with a line. -/
def order : Json :=
  .obj [("lines", .arr [.obj [("sku", .str "A-1")]]), ("total", .float total)]

/-- The scope of a call in which an order is at hand. -/
def ordering : Scope :=
  { (default : Scope) with
    caller := some "alice"
    entry := { (default : Entry) with workflow := "orders" }
    bindings := (∅ : Values).insert "order" order }

/-- Where an entry is dealt with. -/
def home : Values :=
  (∅ : Values).insert "region" (.str "emea")

/-- What is told about the order. -/
def notice : String :=
  "$\x7bentry.workflow_name\x7d, $\x7bcaller\x7d@$\x7bregion\x7d: $\x7border.total\x7d$\x7bgone\x7d, " ++
    "$\x7border.lines\x7d $\x7b"

/-- A reference that stands alone keeps the type of what it is worth or comes to nothing, and the
others are put in as text: parts of the scope, a property, a number and an array of the order, and
nothing. -/
theorem order_substituted :
    resolve ordering home " $\x7border.lines.0.sku\x7d " = some (.str "A-1") ∧
    resolve ordering home "$\x7border.total\x7d" = some (.float total) ∧
    resolve ordering home "$\x7border.lines.1\x7d" = none ∧
    resolve ordering home notice =
      some (.str "orders, alice@emea: 250.5, [\x7b\"sku\":\"A-1\"\x7d] $\x7b") ∧
    total.Writes "250.5".toList := by
  have sku : Worth ordering home "order.lines.0.sku".toList (.str "A-1") :=
    ⟨"order", ["lines", "0", "sku"], order, hasPath_iff.mpr (by decide +kernel),
      .variable (by decide) rfl, Json.at_iff.mpr rfl⟩
  have sum : Worth ordering home "order.total".toList (.float total) :=
    ⟨"order", ["total"], order, hasPath_iff.mpr (by decide +kernel), .variable (by decide) rfl,
      Json.at_iff.mpr rfl⟩
  have alone {text : String} {reference : List Char}
      (sole : Template.sole? text.toList = some reference) (value : Json) :
      resolve ordering home text = some value ↔ Worth ordering home reference value := by
    obtain ⟨-, -, -, -, -, -, -, single, -⟩ := resolve_substitutes ordering home text
    exact (single reference (Template.sole?_eq_some_iff.mp sole)).1 value
  refine ⟨(alone (by decide +kernel) _).mpr sku, (alone (by decide +kernel) _).mpr sum, ?_, ?_, ?_⟩
  · have single : Template.sole? "$\x7border.lines.1\x7d".toList = some "order.lines.1".toList := by
      decide +kernel
    refine Option.eq_none_iff_forall_ne_some.mpr fun value found => ?_
    have none : reference? ordering home "order.lines.1".toList = none := rfl
    rw [alone single, worth_iff, none] at found
    cases found
  · obtain ⟨-, -, -, -, -, -, -, -, several⟩ := resolve_substitutes ordering home notice
    refine (several (fun reference single => ?_) _ (Template.parse_divides _) (inserted ordering home)
      fun segment _ => replaced_iff.mpr rfl).trans ?_
    · cases Template.sole?_eq_some_iff.mpr single
    · rfl
  · obtain ⟨-, -, -, -, floats, -⟩ := resolve_substitutes ordering home ""
    have proper : total.Proper := ⟨by decide, by decide, by decide, fun _ => by decide⟩
    have written : (rendered (some (.float total))).toList = "250.5".toList := by decide +kernel
    exact written ▸ floats total proper

/-! ### What a text is interpolated by -/

/-- The references whose values a text is interpolated with. -/
def references (text : String) : List (List Char) :=
  let chars := text.toList
  if !Template.hasOpening chars then []
  else
    match Template.sole? chars with
    | some reference => [reference]
    | none => (Template.parse chars).segments.map (·.2)

/-- The names that are looked up to interpolate a text. -/
def roots (text : String) : List String :=
  (references text).flatMap fun reference => (path reference).head?.toList

/-- The reference stands in the text. -/
def Refers (text : String) (reference : List Char) : Prop :=
  ∃ template : Template, template.Divides text.toList ∧ reference ∈ template.segments.map (·.2)

/-- The name is the first of a reference in the text. -/
def Names (text name : String) : Prop :=
  ∃ reference, Refers text reference ∧ (path reference).head? = some name

theorem refers_iff : Refers text reference ↔
    reference ∈ (Template.parse text.toList).segments.map (·.2) := by
  simp only [Refers, Template.divides_iff, exists_eq_left]

/-- A text is interpolated with the references that stand in it. -/
theorem mem_references_iff : reference ∈ references text ↔ Refers text reference := by
  rw [refers_iff, references]
  split
  · rename_i plain
    rw [Template.parse_plain]
    · simp
    · simpa [← Template.hasOpening_iff] using plain
  · split
    · rename_i own single
      obtain ⟨lead, trail, parsed⟩ := (Template.sole?_eq_some_iff.mp single).parse_eq
      simp [parsed]
    · rfl

theorem mem_roots_iff : name ∈ roots text ↔ Names text name := by
  simp only [roots, Names, List.mem_flatMap, Option.mem_toList, mem_references_iff]

theorem reference?_agree
    (agree : ∀ root ∈ (path reference).head?, root? scope properties root = root? other others root) :
    reference? scope properties reference = reference? other others reference := by
  unfold reference?
  cases names : path reference with
  | nil => rfl
  | cons root rest => simp only [agree root (by simp [names])]

/-- A text comes to the same wherever the names in it have the same values. -/
theorem resolve_agree
    (agree : ∀ root ∈ roots text, root? scope properties root = root? other others root) :
    resolve scope properties text = resolve other others text := by
  have same (reference : List Char) (refers : Refers text reference) :
      reference? scope properties reference = reference? other others reference :=
    reference?_agree fun root first => agree root (mem_roots_iff.mpr ⟨reference, refers, first⟩)
  by_cases single : ∃ reference, IsSole reference text.toList
  · obtain ⟨reference, sole⟩ := single
    obtain ⟨lead, trail, parsed⟩ := sole.parse_eq
    rw [resolve_sole sole, resolve_sole sole]
    exact same reference (refers_iff.mpr (by simp [parsed]))
  · have mixed := not_exists.mp single
    have filled : (Template.parse text.toList).fill (inserted scope properties) =
        (Template.parse text.toList).fill (inserted other others) := by
      refine Template.fill_congr fun segment member => ?_
      rw [inserted, inserted, same segment.2 (refers_iff.mpr (List.mem_map_of_mem member))]
    rw [resolve_mixed mixed, resolve_mixed mixed, filled]

theorem args_agree {args : Args}
    (agree : ∀ pair ∈ args.pairs, ∀ root ∈ roots pair.2,
      root? scope properties root = root? other others root) :
    Resolver.args resolve scope properties args = Resolver.args resolve other others args := by
  apply SortedMap.ext_pairs
  apply List.map_congr_left
  intro pair member
  simp only [Resolver.text, resolve_agree (agree pair member)]

/-- What is put in for a reference stands in the interpolated text as it is. -/
theorem inserted_stands (refers : Refers text reference) :
    inserted scope properties reference <:+: (Resolver.text resolve scope properties text).toList := by
  have member := refers_iff.mp refers
  by_cases single : ∃ own, IsSole own text.toList
  · obtain ⟨own, sole⟩ := single
    obtain ⟨lead, trail, parsed⟩ := sole.parse_eq
    obtain rfl : reference = own := by simpa [parsed] using member
    rw [Resolver.text, resolve_sole sole]
    exact List.infix_rfl
  · obtain ⟨segment, within, rfl⟩ := List.mem_map.mp member
    rw [Resolver.text, resolve_mixed (not_exists.mp single)]
    have text (chars : List Char) : (rendered (some (.str (String.ofList chars)))).toList = chars :=
      String.toList_ofList
    rw [text]
    exact Template.infix_fill within _

theorem root?_assign (apart : name ≠ root) (value : Json) :
    root? (scope.assign root value) properties name = root? scope properties name := by
  have same : (scope.assign root value).lookup? name = scope.lookup? name := by
    simp only [Scope.lookup?, Scope.assign, SortedMap.get?_insert_of_ne _ apart]
    rfl
  simp only [root?, same]

/-- A text is interpolated by the values of the names in it, from the scope or else from the
properties, and by nothing else, and so is every argument. The value of a name that is not in the
text has no influence, wherever it is set, and what is put in for a reference is left as it is,
also where it looks like a reference. -/
theorem resolve_reads_names (scope other : Scope) (properties others : Values) :
    (∀ text, (∀ name, Names text name → root? scope properties name = root? other others name) →
      resolve scope properties text = resolve other others text) ∧
    (∀ args : Args, (∀ pair ∈ args.pairs, ∀ name, Names pair.2 name →
        root? scope properties name = root? other others name) →
      Resolver.args resolve scope properties args = Resolver.args resolve other others args) ∧
    (∀ text name value, ¬ Names text name →
      resolve (scope.assign name value) properties text = resolve scope properties text ∧
      resolve scope (properties.insert name value) text = resolve scope properties text ∧
      resolve scope (properties.erase name) text = resolve scope properties text) ∧
    ∀ text reference, Refers text reference →
      inserted scope properties reference <:+:
        (Resolver.text resolve scope properties text).toList := by
  refine ⟨fun text agree => ?_, fun args agree => ?_, fun text name value absent => ⟨?_, ?_, ?_⟩,
    fun text reference => inserted_stands⟩
  · exact resolve_agree fun root read => agree root (mem_roots_iff.mp read)
  · exact args_agree fun pair member root read => agree pair member root (mem_roots_iff.mp read)
  all_goals
    refine resolve_agree fun root read => ?_
    have apart : root ≠ name := fun same => absent (mem_roots_iff.mp (same ▸ read))
  · exact root?_assign apart value
  · rw [root?, root?, SortedMap.get?_insert_of_ne _ apart]
  · rw [root?, root?, SortedMap.get?_erase_of_ne _ apart]

/-- A note that looks like a reference is put in as it is, whether it is a variable or a property
and whatever the name in it stands for. -/
theorem note_stays :
    let note := Json.str "$\x7bsecret\x7d"
    let given := resolve ((default : Scope).assign "note" note) ((∅ : Values).insert "secret" (.int 7))
    let kept := resolve default ((∅ : Values).insert "note" note)
    ¬ Names "Note: $\x7bnote\x7d" "secret" ∧
    given "Note: $\x7bnote\x7d" = kept "Note: $\x7bnote\x7d" ∧
    kept "Note: $\x7bnote\x7d" = some (.str "Note: $\x7bsecret\x7d") := by
  have only : roots "Note: $\x7bnote\x7d" = ["note"] := by decide
  refine ⟨fun named => ?_, (resolve_reads_names _ _ _ _).1 _ fun name named => ?_, rfl⟩
  · rw [← mem_roots_iff, only] at named
    simp at named
  · rw [← mem_roots_iff, only, List.mem_singleton] at named
    subst named
    rfl

end Interpolation

end Caseflow
