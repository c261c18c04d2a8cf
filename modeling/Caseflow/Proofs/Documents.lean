import Mathlib.Data.List.Perm.Basic
import Caseflow.Proofs.Maps
import Caseflow.Proofs.Numerals
import Caseflow.Proofs.Readings
/-! Blueprints and queries come back from their documents, and so do all their parts. What is
written under a name is read under the same name; what is left out is what the reader puts there. -/
namespace Caseflow

open Json (Document Members)

/-! ### Numbers, texts and lists -/

namespace Json

attribute [simp] document documentsOfItems documentsOfMembers Document.asMembers?
  Document.asTagged? Members.required_eq Members.defaulted_eq Members.optional_eq Members.sole?

@[simp] theorem documentsOfMembers_append (front back : List (String × Json)) :
    documentsOfMembers (front ++ back) = documentsOfMembers front ++ documentsOfMembers back := by
  simp [documentsOfMembers_eq_map]

/-- The members of a record are known before any of them is looked at. -/
theorem bind_asMembers? {α : Type} (members : List (String × Json)) (rest : Members → Option α) :
    ((obj members).document.asMembers? >>= rest) = rest (documentsOfMembers members) := rfl

@[simp] theorem asBool?_bool (value : Bool) : (Document.bool value).asBool? = some value := rfl

@[simp] theorem asText?_str (value : String) : (Document.str value).asText? = some value := rfl

@[simp] theorem asInt32?_ofInt32 (value : Int32) :
    (ofInt32 value).document.asInt32? = some value :=
  Text.int32OfInt?_toInt value

@[simp] theorem asTexts?_ofTexts (texts : SortedMap String String) :
    (ofTexts texts).document.asTexts? = some texts := by
  have read : (documentsOfMembers (texts.pairs.map fun pair => (pair.1, str pair.2))).mapM
      (fun member : String × Document => member.2.asText?.map fun text => (member.1, text)) =
        some texts.pairs := by
    rw [mapM_eq_some_iff, documentsOfMembers_eq_map, List.forall₂_map_left_iff,
      List.forall₂_map_left_iff, List.forall₂_same]
    intro pair _
    rfl
  rw [ofTexts, document, Document.asTexts?, read, Option.map_some, SortedMap.ofList_pairs]

/-- A list comes back if each of its items does. -/
theorem mapM_documents {α : Type} {write : α → Json} {read : Document → Option α} {values : List α}
    (back : ∀ value ∈ values, read (write value).document = some value) :
    (documentsOfItems (values.map write)).mapM read = some values := by
  rw [mapM_eq_some_iff, documentsOfItems_eq_map, List.forall₂_map_left_iff,
    List.forall₂_map_left_iff, List.forall₂_same]
  exact back

@[simp] theorem asList?_arr {α : Type} {write : α → Json} {read : Document → Option α}
    (back : ∀ value, read (write value).document = some value) (values : List α) :
    (Document.arr (documentsOfItems (values.map write))).asList? read = some values :=
  mapM_documents fun value _ => back value

namespace Members

/-- A member that is left out where there is no value stands for the value. -/
@[simp] theorem named_present (other name : String) (value : Option Json) :
    named (documentsOfMembers (present other value)) name =
      if other = name then (value.map document).toList else [] := by
  cases value <;> simp [present]

theorem soleOrNone?_of_ne_null {α : Type} {part : Document} (real : part ≠ .null)
    (read : Document → Option α) : soleOrNone? read [part] = (read part).map some := by
  unfold soleOrNone?
  split <;> simp_all

@[simp] theorem soleOrNone?_toList {α : Type} {write : α → Json} {read : Document → Option α}
    (back : ∀ value, read (write value).document = some value) (unreal : read .null = none)
    (value : Option α) :
    soleOrNone? read (value.map (document ∘ write)).toList = some value := by
  cases value with
  | none => rfl
  | some value =>
    have real : (write value).document ≠ .null := by
      intro null
      have read := back value
      rw [null, unreal] at read
      cases read
    change soleOrNone? read [(write value).document] = _
    rw [soleOrNone?_of_ne_null real, back, Option.map_some]

@[simp] theorem soleOrNone?_text (text : Option String) :
    soleOrNone? Document.asText? (text.map (document ∘ str)).toList = some text :=
  soleOrNone?_toList (fun _ => rfl) rfl text

@[simp] theorem soleOr?_one {α : Type} (read : Document → Option α) (fallback : α)
    (part : Document) : soleOr? read fallback [part] = read part := rfl

/-- What stands for metadata: nothing for none. -/
def partsOfTexts (texts : SortedMap String String) : List Document :=
  if texts.isEmpty then [] else [(ofTexts texts).document]

@[simp] theorem named_presentTexts (other name : String) (texts : SortedMap String String) :
    named (documentsOfMembers (presentTexts other texts)) name =
      if other = name then partsOfTexts texts else [] := by
  unfold presentTexts partsOfTexts
  rw [named_present]
  by_cases same : other = name
  · rw [if_pos same, if_pos same]
    split <;> rfl
  · rw [if_neg same, if_neg same]

@[simp] theorem soleOr?_partsOfTexts (texts : SortedMap String String) :
    soleOr? Document.asTexts? ∅ (partsOfTexts texts) = some texts := by
  unfold partsOfTexts
  split
  · rename_i nothing
    have bare : texts.pairs = [] := by simpa [SortedMap.isEmpty] using nothing
    exact congrArg some (SortedMap.ext_pairs bare.symm)
  · exact asTexts?_ofTexts texts

end Members

end Json

/-! ### Parts of blueprints -/

namespace Call

@[simp] theorem ofDocument?_toJson (call : Call) :
    ofDocument? call.toJson.document = some call := by
  simp [toJson, members, ofDocument?, ofMembers?]

@[simp] theorem asList?_listToJson (calls : List Call) :
    (listToJson calls).document.asList? ofDocument? = some calls := by
  simp [listToJson]

end Call

namespace Check

@[simp] theorem ofDocument?_toJson (check : Check) :
    ofDocument? check.toJson.document = some check := by
  unfold ofDocument? toJson
  rw [Json.bind_asMembers?]
  simp [Call.members, Call.ofMembers?]

end Check

namespace Combinator

@[simp] theorem ofDocument?_toJson (combinator : Combinator) :
    ofDocument? combinator.toJson.document = some combinator := by
  cases combinator <;> rfl

end Combinator

namespace Condition

/-- A tree comes back if the conditions in it do. -/
theorem readTree?_toJson {tree : Conditions}
    (back : (Json.documentsOfItems (toJsonAll tree.children)).mapM ofDocument? =
      some tree.children) : readTree? ofDocument? tree.toJson.document = some tree := by
  simp [Conditions.toJson, readTree?, Document.asList?, back]

mutual

@[simp] theorem ofDocument?_toJson : ∀ condition : Condition,
    ofDocument? condition.toJson.document = some condition
  | .leaf check => by simp [ofDocument?_eq, toJson, layer?]
  | .group combinator children => by
    have inside : Conditions.ofDocument? (Conditions.toJson ⟨combinator, children⟩).document =
        some ⟨combinator, children⟩ := by
      rw [Conditions.ofDocument?_eq]
      exact readTree?_toJson (ofDocument?_toJsonAll children)
    change ofDocument?
      (.obj true [("Nested", (Conditions.toJson ⟨combinator, children⟩).document)]) = _
    rw [ofDocument?_eq]
    simp [layer?, inside, Conditions.nested]

theorem ofDocument?_toJsonAll : ∀ conditions,
    (Json.documentsOfItems (toJsonAll conditions)).mapM ofDocument? = some conditions
  | [] => rfl
  | head :: rest => by
    simp [toJsonAll, ofDocument?_toJson head, ofDocument?_toJsonAll rest]

end

end Condition

namespace Conditions

@[simp] theorem ofDocument?_null : ofDocument? .null = none := by
  unfold ofDocument?
  rfl

@[simp] theorem ofDocument?_toJson (tree : Conditions) :
    ofDocument? tree.toJson.document = some tree := by
  rw [ofDocument?_eq]
  exact Condition.readTree?_toJson (Condition.ofDocument?_toJsonAll tree.children)

end Conditions

namespace RegisterCall

@[simp] theorem ofDocument?_toJson (register : RegisterCall) :
    ofDocument? register.toJson.document = some register := by
  unfold ofDocument? toJson
  rw [Json.bind_asMembers?]
  simp

end RegisterCall

namespace Target

@[simp] theorem ofDocument?_toJson (target : Target) :
    ofDocument? target.toJson.document = some target := by
  cases target <;> simp [toJson, ofDocument?]

end Target

namespace Outcome

@[simp] theorem ofDocument?_null : ofDocument? .null = none := by
  unfold ofDocument?
  rfl

@[simp] theorem ofDocument?_toJson (outcome : Outcome) :
    ofDocument? outcome.toJson.document = some outcome := by
  unfold ofDocument? toJson
  rw [Json.bind_asMembers?]
  simp

end Outcome

namespace ConditionalOutcome

@[simp] theorem ofDocument?_toJson (conditional : ConditionalOutcome) :
    ofDocument? conditional.toJson.document = some conditional := by
  unfold ofDocument? toJson
  rw [Json.bind_asMembers?]
  simp

end ConditionalOutcome

namespace Action

@[simp] theorem ofDocument?_toJson (action : Action) :
    ofDocument? action.toJson.document = some action := by
  unfold ofDocument? toJson
  rw [Json.bind_asMembers?]
  simp

end Action

namespace StepDef

@[simp] theorem ofDocument?_toJson (step : StepDef) :
    ofDocument? step.toJson.document = some step := by
  unfold ofDocument? toJson
  rw [Json.bind_asMembers?]
  simp

end StepDef

namespace Split

@[simp] theorem ofDocument?_toJson (split : Split) :
    ofDocument? split.toJson.document = some split := by
  unfold ofDocument? toJson
  rw [Json.bind_asMembers?]
  simp

end Split

namespace Join

@[simp] theorem ofDocument?_toJson (join : Join) :
    ofDocument? join.toJson.document = some join := by
  unfold ofDocument? toJson
  rw [Json.bind_asMembers?]
  simp

end Join

/-! ### Blueprints -/

namespace Blueprint

@[simp] theorem idOfName?_integerText (id : Int32) :
    idOfName? (Text.integerText id.toInt) = some id := by
  simp [idOfName?, Text.int32?_integerText, Option.filter]

/-- Common actions come back, although the numerals stand in another order than the numbers. -/
@[simp] theorem readCommonActions?_toJson (actions : SortedMap ActionId Action) :
    readCommonActions? (commonActionsToJson actions).document = some actions := by
  have apart : ((actions.pairs.map fun pair =>
      (Text.integerText pair.1.toInt, pair.2.toJson)).map (·.1)).Nodup := by
    have once := actions.ascending.nodup_keys.map fun _ _ same => Text.int32_of_integerText same
    simpa [List.map_map, Function.comp_def] using once
  have placed := (SortedMap.pairs_ofList_perm apart).map fun member => (member.1, member.2.document)
  have read : List.Forall₂ (fun (member : String × Document) pair => (do
        let id ← idOfName? member.1
        let action ← Action.ofDocument? member.2
        return (id, action)) = some pair)
      ((actions.pairs.map fun pair => (Text.integerText pair.1.toInt, pair.2.toJson)).map
        fun member => (member.1, member.2.document)) actions.pairs := by
    rw [List.forall₂_map_left_iff, List.forall₂_map_left_iff, List.forall₂_same]
    simp
  obtain ⟨pairs, inOrder, same⟩ := List.perm_comp_forall₂ placed read
  have taken := mapM_eq_some_iff.mpr inOrder
  rw [← Json.documentsOfMembers_eq_map] at taken
  rw [commonActionsToJson, readCommonActions?, Json.ofMap, Json.document,
    Document.asPlainMembers?, Option.bind_eq_bind, Option.bind_some, taken, Option.bind_eq_bind,
    Option.bind_some, SortedMap.ofList_of_perm same]
  rfl

@[simp] theorem ofDocument?_toJson (blueprint : Blueprint) :
    ofDocument? blueprint.toJson.document = some blueprint := by
  unfold ofDocument? toJson
  rw [Json.bind_asMembers?]
  simp

end Blueprint

/-! ### Queries -/

namespace Partition

@[simp] theorem ofDocument?_toJson (partition : Partition) :
    ofDocument? partition.toJson.document = some partition := by
  cases partition <;> rfl

end Partition

namespace FieldTest

@[simp] theorem ofDocument?_toJson (test : FieldTest) :
    ofDocument? test.toJson.document = some test := by
  cases test <;> simp [toJson, ofDocument?]

end FieldTest

namespace EntryState

@[simp] theorem ofDocument?_toJson (state : EntryState) :
    ofDocument? state.toJson.document = some state := by
  cases state <;> rfl

end EntryState

namespace Query

mutual

@[simp] theorem ofDocument?_toJson : ∀ query : Query,
    ofDocument? query.toJson.document = some query
  | .someStep partition test => by simp [ofDocument?_eq, toJson, layer?, readStepTest?]
  | .ofWorkflow name => by simp [ofDocument?_eq, toJson, layer?]
  | .inState state => by simp [ofDocument?_eq, toJson, layer?]
  | .all parts => by
    simp [ofDocument?_eq, toJson, layer?, Document.asList?, mapM_toJsonAll parts]
  | .any parts => by
    simp [ofDocument?_eq, toJson, layer?, Document.asList?, mapM_toJsonAll parts]
  | .not part => by
    rw [ofDocument?_eq]
    simp [toJson, layer?, ofDocument?_toJson part]

theorem mapM_toJsonAll : ∀ queries,
    (Json.documentsOfItems (toJsonAll queries)).mapM ofDocument? = some queries
  | [] => rfl
  | head :: rest => by
    simp [toJsonAll, ofDocument?_toJson head, mapM_toJsonAll rest]

end

end Query

end Caseflow
