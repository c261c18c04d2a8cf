import Caseflow.Proofs.Documents
import Caseflow.Proofs.Layouts
/-! Documents that say the same are read the same. An edit of a record leaves what is given for each
of its fields readable as before, so the whole record is, and whatever the record stands in. -/
namespace Caseflow

open Json (Document Members)

/-! ### Readings that are kept -/

/-- Whatever was read before is read after. -/
def Refines {α : Type} (before after : Option α) : Prop :=
  ∀ value, before = some value → after = some value

namespace Refines

variable {α β : Type}

theorem refl (read : Option α) : Refines read read :=
  fun _ same => same

theorem bind {before after : Option α} {rest rest' : α → Option β} (first : Refines before after)
    (next : ∀ value, Refines (rest value) (rest' value)) :
    Refines (before.bind rest) (after.bind rest') := by
  intro value read
  obtain ⟨middle, read, last⟩ := Option.bind_eq_some_iff.mp read
  rw [first middle read]
  exact next middle value last

theorem map {before after : Option α} (first : Refines before after) (change : α → β) :
    Refines (before.map change) (after.map change) := by
  intro value read
  obtain ⟨middle, found, rfl⟩ := Option.map_eq_some_iff.mp read
  rw [first middle found, Option.map_some]

/-- A list keeps its reading when one item of it does. -/
theorem mapM {γ : Type} {read : γ → Option α} {item edited : γ}
    (kept : Refines (read item) (read edited)) (front back : List γ) :
    Refines ((front ++ item :: back).mapM read) ((front ++ edited :: back).mapM read) := by
  rw [List.mapM_append, List.mapM_append, List.mapM_cons, List.mapM_cons]
  apply bind (refl _)
  intro front
  apply bind _ fun _ => refl _
  exact bind kept fun _ => refl _

end Refines

namespace Json

/-- What the documents of a kind stand for. -/
def Kind.Value : Kind → Type
  | .call => Call
  | .check => Check
  | .condition => Condition
  | .tree => Conditions
  | .register => RegisterCall
  | .outcome => Outcome
  | .conditional => ConditionalOutcome
  | .action => Action
  | .step => StepDef
  | .split => Split
  | .join => Join
  | .blueprint => Blueprint
  | .stepTest => Query
  | .query => Query

def Kind.read : (kind : Kind) → Document → Option kind.Value
  | .call => Call.ofDocument?
  | .check => Check.ofDocument?
  | .condition => Condition.ofDocument?
  | .tree => Conditions.ofDocument?
  | .register => RegisterCall.ofDocument?
  | .outcome => Outcome.ofDocument?
  | .conditional => ConditionalOutcome.ofDocument?
  | .action => Action.ofDocument?
  | .step => StepDef.ofDocument?
  | .split => Split.ofDocument?
  | .join => Join.ofDocument?
  | .blueprint => Blueprint.ofDocument?
  | .stepTest => Query.readStepTest?
  | .query => Query.ofDocument?

/-- What is read in one place is kept. -/
def Part.Keeps : Part → Document → Document → Prop
  | .leaf, part, edited => part = edited
  | .one kind, part, edited => Refines (kind.read part) (kind.read edited)
  | .many kind, part, edited => Refines (part.asList? kind.read) (edited.asList? kind.read)
  | .commonActions, part, edited =>
    Refines (Blueprint.readCommonActions? part) (Blueprint.readCommonActions? edited)

/-- Whatever is kept in such a place is kept for the reader. -/
def Part.Serves {α : Type} (place : Part) (read : Document → Option α) : Prop :=
  ∀ part edited, place.Keeps part edited → Refines (read part) (read edited)

namespace Part.Serves

theorem leaf {α : Type} (read : Document → Option α) : Part.leaf.Serves read := by
  rintro part _ rfl
  exact .refl _

theorem one (kind : Kind) : (Part.one kind).Serves kind.read :=
  fun _ _ kept => kept

theorem many (kind : Kind) : (Part.many kind).Serves (Document.asList? kind.read) :=
  fun _ _ kept => kept

theorem commonActions : Part.commonActions.Serves Blueprint.readCommonActions? :=
  fun _ _ kept => kept

end Part.Serves

/-- What is given for a field, and what is given for it once a record is edited. Where it is given
twice there is nothing to keep. -/
inductive Field.Still (field : Field) : List Document → List Document → Prop where
  | same (parts : List Document) : field.Still parts parts
  | leftOut {value : Json} (default : field.fallback = some value) :
      field.Still [value.document] []
  | edited {part edited : Document} (kept : field.part.Keeps part edited) (real : part ≠ .null)
      (realStill : edited ≠ .null) : field.Still [part] [edited]
  | unread (first second : Document) (rest after : List Document) :
      field.Still (first :: second :: rest) after

namespace Field.Still

open Members

variable {α : Type} {name : String} {place : Part} {before after : List Document}
  {read : Document → Option α}

theorem sole? (still : (required name place).Still before after) (serves : place.Serves read) :
    Refines (sole? read before) (sole? read after) := by
  cases still with
  | same => exact .refl _
  | leftOut default => cases default
  | edited kept => exact serves _ _ kept
  | unread => exact nofun

theorem soleOr? {value : Json} {fallback : α}
    (still : (defaulted name place value).Still before after)
    (default : read value.document = some fallback) (serves : place.Serves read) :
    Refines (soleOr? read fallback before) (soleOr? read fallback after) := by
  cases still with
  | same => exact .refl _
  | leftOut spared =>
    cases spared
    intro value held
    exact default.symm.trans held
  | edited kept => exact serves _ _ kept
  | unread => exact nofun

theorem soleOrNone? (still : (optional name place).Still before after)
    (serves : place.Serves read) :
    Refines (soleOrNone? read before) (soleOrNone? read after) := by
  cases still with
  | same => exact .refl _
  | leftOut spared =>
    cases spared
    exact .refl _
  | edited kept real realStill =>
    rw [soleOrNone?_of_ne_null real, soleOrNone?_of_ne_null realStill]
    exact (serves _ _ kept).map some
  | unread first => cases first <;> exact nofun

end Field.Still

/-- What all fields of a record are given. -/
def Members.Still (fields : List Field) (before after : Members) : Prop :=
  ∀ field ∈ fields, field.Still (before.named field.name) (after.named field.name)

namespace Members.Still

variable {α : Type} {fields : List Field} {before after : Members} {name : String} {place : Part}
  {read : Document → Option α}

theorem required (still : Still fields before after) (known : Field.required name place ∈ fields)
    (serves : place.Serves read) :
    Refines (before.required name read) (after.required name read) :=
  (still _ known).sole? serves

theorem defaulted {value : Json} {fallback : α} (still : Still fields before after)
    (known : Field.defaulted name place value ∈ fields)
    (default : read value.document = some fallback) (serves : place.Serves read) :
    Refines (before.defaulted name read fallback) (after.defaulted name read fallback) :=
  (still _ known).soleOr? default serves

theorem optional (still : Still fields before after) (known : Field.optional name place ∈ fields)
    (serves : place.Serves read) :
    Refines (before.optional name read) (after.optional name read) :=
  (still _ known).soleOrNone? serves

theorem list (still : Still fields before after) (known : Field.list name place ∈ fields)
    (serves : place.Serves (Document.asList? read)) :
    Refines (before.defaulted name (Document.asList? read) [])
      (after.defaulted name (Document.asList? read) []) :=
  still.defaulted known rfl serves

theorem texts (still : Still fields before after) (known : Field.map name .leaf ∈ fields) :
    Refines (before.defaulted name Document.asTexts? ∅)
      (after.defaulted name Document.asTexts? ∅) :=
  still.defaulted known rfl (.leaf _)

theorem text {fallback : String} (still : Still fields before after)
    (known : Field.defaulted name .leaf (.str fallback) ∈ fields) :
    Refines (before.defaulted name Document.asText? fallback)
      (after.defaulted name Document.asText? fallback) :=
  still.defaulted known rfl (.leaf _)

theorem flag {fallback : Bool} (still : Still fields before after)
    (known : Field.defaulted name .leaf (.bool fallback) ∈ fields) :
    Refines (before.defaulted name Document.asBool? fallback)
      (after.defaulted name Document.asBool? fallback) :=
  still.defaulted known rfl (.leaf _)

theorem of_subset {some all : List Field} (still : Still all before after) (within : some ⊆ all) :
    Still some before after :=
  fun field known => still field (within known)

end Members.Still

end Json

/-! ### Records

A reader of records asks for one field after the other, and each line here is about one field. The
name, the default and the part that are listed for the field must be those that the reader has. -/

section

open Json.Kind
open Json (Part)

variable {plain plain' : Bool} {before after : Members}

theorem Call.ofMembers?_still (still : Json.Members.Still callFields before after) :
    Refines (ofMembers? before) (ofMembers? after) := by
  refine .bind (still.required (by simp [callFields]) (.leaf _)) fun type => ?_
  refine .bind (still.texts (by simp [callFields])) fun args => ?_
  exact .bind (still.optional (by simp [callFields]) (.leaf _)) fun label => .refl _

theorem Check.ofDocument?_still (still : Json.Members.Still checkFields before after) :
    Refines (ofDocument? (.obj plain before)) (ofDocument? (.obj plain' after)) := by
  refine .bind (Call.ofMembers?_still (still.of_subset (List.subset_cons_self _ _))) fun call => ?_
  exact .bind (still.flag (by simp [checkFields])) fun negate => .refl _

theorem Conditions.ofDocument?_still (still : Json.Members.Still treeFields before after) :
    Refines (ofDocument? (.obj plain before)) (ofDocument? (.obj plain' after)) := by
  rw [ofDocument?_eq, ofDocument?_eq]
  refine .bind (still.required (by simp [treeFields]) (.leaf _)) fun combinator => ?_
  exact .bind (still.list (by simp [treeFields]) (.many .condition)) fun children => .refl _

theorem RegisterCall.ofDocument?_still (still : Json.Members.Still registerFields before after) :
    Refines (ofDocument? (.obj plain before)) (ofDocument? (.obj plain' after)) := by
  refine .bind (still.required (by simp [registerFields]) (.leaf _)) fun name => ?_
  refine .bind (still.required (by simp [registerFields]) (.leaf _)) fun type => ?_
  exact .bind (still.texts (by simp [registerFields])) fun args => .refl _

theorem Outcome.ofDocument?_still (still : Json.Members.Still outcomeFields before after) :
    Refines (ofDocument? (.obj plain before)) (ofDocument? (.obj plain' after)) := by
  refine .bind (still.required (by simp [outcomeFields]) (.leaf _)) fun target => ?_
  refine .bind (still.text (by simp [outcomeFields])) fun status => ?_
  refine .bind (still.text (by simp [outcomeFields])) fun oldStatus => ?_
  refine .bind (still.optional (by simp [outcomeFields]) (.leaf _)) fun owner => ?_
  refine .bind (still.optional (by simp [outcomeFields]) (.leaf _)) fun dueDate => ?_
  refine .bind (still.list (by simp [outcomeFields]) (.many .call)) fun preFunctions => ?_
  refine .bind (still.list (by simp [outcomeFields]) (.many .call)) fun postFunctions => ?_
  refine .bind (still.list (by simp [outcomeFields]) (.many .call)) fun validators => ?_
  exact .bind (still.optional (by simp [outcomeFields]) (.leaf _)) fun displayName => .refl _

theorem ConditionalOutcome.ofDocument?_still
    (still : Json.Members.Still conditionalFields before after) :
    Refines (ofDocument? (.obj plain before)) (ofDocument? (.obj plain' after)) := by
  refine .bind (still.required (by simp [conditionalFields]) (.one .tree)) fun conditions => ?_
  exact .bind (still.required (by simp [conditionalFields]) (.one .outcome)) fun outcome => .refl _

theorem Action.ofDocument?_still (still : Json.Members.Still actionFields before after) :
    Refines (ofDocument? (.obj plain before)) (ofDocument? (.obj plain' after)) := by
  refine .bind (still.required (by simp [actionFields]) (.leaf _)) fun id => ?_
  refine .bind (still.text (by simp [actionFields])) fun name => ?_
  refine .bind (still.flag (by simp [actionFields])) fun autoExecute => ?_
  refine .bind (still.flag (by simp [actionFields])) fun finish => ?_
  refine .bind (still.optional (by simp [actionFields]) (.one .tree)) fun restriction => ?_
  refine .bind (still.list (by simp [actionFields]) (.many .call)) fun validators => ?_
  refine .bind (still.list (by simp [actionFields]) (.many .call)) fun preFunctions => ?_
  refine .bind (still.list (by simp [actionFields]) (.many .call)) fun postFunctions => ?_
  refine .bind (still.list (by simp [actionFields]) (.many .conditional)) fun conditionals => ?_
  refine .bind (still.optional (by simp [actionFields]) (.one .outcome)) fun unconditional => ?_
  exact .bind (still.texts (by simp [actionFields])) fun metadata => .refl _

theorem StepDef.ofDocument?_still (still : Json.Members.Still stepFields before after) :
    Refines (ofDocument? (.obj plain before)) (ofDocument? (.obj plain' after)) := by
  refine .bind (still.required (by simp [stepFields]) (.leaf _)) fun id => ?_
  refine .bind (still.text (by simp [stepFields])) fun name => ?_
  refine .bind (still.list (by simp [stepFields]) (.many .action)) fun actions => ?_
  refine .bind (still.list (by simp [stepFields]) (.leaf _)) fun commonActions => ?_
  refine .bind (still.list (by simp [stepFields]) (.many .call)) fun preFunctions => ?_
  refine .bind (still.list (by simp [stepFields]) (.many .call)) fun postFunctions => ?_
  exact .bind (still.texts (by simp [stepFields])) fun metadata => .refl _

theorem Split.ofDocument?_still (still : Json.Members.Still splitFields before after) :
    Refines (ofDocument? (.obj plain before)) (ofDocument? (.obj plain' after)) := by
  refine .bind (still.required (by simp [splitFields]) (.leaf _)) fun id => ?_
  exact .bind (still.list (by simp [splitFields]) (.many .outcome)) fun outcomes => .refl _

theorem Join.ofDocument?_still (still : Json.Members.Still joinFields before after) :
    Refines (ofDocument? (.obj plain before)) (ofDocument? (.obj plain' after)) := by
  refine .bind (still.required (by simp [joinFields]) (.leaf _)) fun id => ?_
  have known : Json.Field.defaulted "conditions" (.one .tree) (Conditions.toJson {}) ∈
      joinFields := by
    simp [joinFields]
  have empty := Conditions.ofDocument?_toJson {}
  refine .bind (still.defaulted known empty (.one .tree)) fun conditions => ?_
  exact .bind (still.optional (by simp [joinFields]) (.one .outcome)) fun outcome => .refl _

theorem Blueprint.ofDocument?_still (still : Json.Members.Still blueprintFields before after) :
    Refines (ofDocument? (.obj plain before)) (ofDocument? (.obj plain' after)) := by
  refine .bind (still.required (by simp [blueprintFields]) (.leaf _)) fun name => ?_
  refine .bind (still.list (by simp [blueprintFields]) (.many .action)) fun initialActions => ?_
  refine .bind (still.list (by simp [blueprintFields]) (.many .action)) fun globalActions => ?_
  have known : Json.Field.map "common_actions" .commonActions ∈ blueprintFields := by
    simp [blueprintFields]
  refine .bind (still.defaulted known rfl .commonActions) fun commonActions => ?_
  refine .bind (still.list (by simp [blueprintFields]) (.many .step)) fun steps => ?_
  refine .bind (still.list (by simp [blueprintFields]) (.many .split)) fun splits => ?_
  refine .bind (still.list (by simp [blueprintFields]) (.many .join)) fun joins => ?_
  refine .bind (still.optional (by simp [blueprintFields]) (.one .tree)) fun conditions => ?_
  refine .bind (still.list (by simp [blueprintFields]) (.many .register)) fun registers => ?_
  exact .bind (still.texts (by simp [blueprintFields])) fun metadata => .refl _

theorem Query.readStepTest?_still (still : Json.Members.Still stepTestFields before after) :
    Refines (readStepTest? (.obj plain before)) (readStepTest? (.obj plain' after)) := by
  refine .bind (still.required (by simp [stepTestFields]) (.leaf _)) fun partition => ?_
  exact .bind (still.required (by simp [stepTestFields]) (.leaf _)) fun test => .refl _

end

namespace Json

/-- A record is read as before when its fields are given as before. -/
theorem Kind.read_still {kind : Kind} {fields : List Field} (record : kind.shape = .record fields)
    {plain plain' : Bool} {before after : Members} (still : Members.Still fields before after) :
    Refines (kind.read (.obj plain before)) (kind.read (.obj plain' after)) := by
  cases kind with
  | call => cases record; exact Call.ofMembers?_still still
  | check => cases record; exact Check.ofDocument?_still still
  | tree => cases record; exact Conditions.ofDocument?_still still
  | register => cases record; exact RegisterCall.ofDocument?_still still
  | outcome => cases record; exact Outcome.ofDocument?_still still
  | conditional => cases record; exact ConditionalOutcome.ofDocument?_still still
  | action => cases record; exact Action.ofDocument?_still still
  | step => cases record; exact StepDef.ofDocument?_still still
  | split => cases record; exact Split.ofDocument?_still still
  | join => cases record; exact Join.ofDocument?_still still
  | blueprint => cases record; exact Blueprint.ofDocument?_still still
  | stepTest => cases record; exact Query.readStepTest?_still still
  | condition => cases record
  | query => cases record

/-- A choice is read as before when what stands under its tag is. -/
theorem Kind.read_variant {kind : Kind} {variants : List (String × Part)}
    (choice : kind.shape = .choice variants) {tag : String} {place : Part}
    (known : (tag, place) ∈ variants) {part edited : Document} (kept : place.Keeps part edited)
    {plain : Bool} :
    Refines (kind.read (.obj plain [(tag, part)])) (kind.read (.obj plain [(tag, edited)])) := by
  cases kind with
  | condition =>
    cases choice
    change Refines (Condition.ofDocument? _) (Condition.ofDocument? _)
    rw [Condition.ofDocument?_eq, Condition.ofDocument?_eq]
    simp only [List.mem_cons, List.not_mem_nil, or_false, Prod.mk.injEq] at known
    obtain ⟨rfl, rfl⟩ | ⟨rfl, rfl⟩ := known
    · exact Refines.map kept Condition.leaf
    · exact Refines.map kept Conditions.nested
  | query =>
    cases choice
    change Refines (Query.ofDocument? _) (Query.ofDocument? _)
    rw [Query.ofDocument?_eq, Query.ofDocument?_eq]
    simp only [List.mem_cons, List.not_mem_nil, or_false, Prod.mk.injEq] at known
    obtain ⟨rfl, rfl⟩ | ⟨rfl, rfl⟩ | ⟨rfl, rfl⟩ | ⟨rfl, rfl⟩ | ⟨rfl, rfl⟩ |
      ⟨rfl, rfl⟩ := known
    · exact kept
    · cases kept
      exact .refl _
    · cases kept
      exact .refl _
    · exact Refines.map kept Query.all
    · exact Refines.map kept Query.any
    · exact Refines.map kept Query.not
  | _ => cases choice

/-! ### Edits -/

/-- Of the parts given for a field one is replaced, or taken away. -/
theorem Field.Still.among {field : Field} {part : Document} {changed : List Document}
    (still : field.Still [part] changed) (front back : List Document) :
    field.Still (front ++ part :: back) (front ++ changed ++ back) := by
  cases front with
  | nil =>
    cases back with
    | nil => simpa using still
    | cons second rest => exact .unread part second rest _
  | cons first front =>
    cases front with
    | nil => exact .unread first part back _
    | cons second rest => exact .unread first second _ _

namespace Members

theorem still_add {fields : List Field} {name : String}
    (unknown : ∀ field ∈ fields, field.name ≠ name) (added : Document) (front back : Members) :
    Still fields (front ++ back) (front ++ (name, added) :: back) := by
  intro field known
  have other : name ≠ field.name := (unknown field known).symm
  have given : named (front ++ (name, added) :: back) field.name =
      named (front ++ back) field.name := by
    simp [other]
  rw [given]
  exact .same _

/-- A change of what is given for one field leaves the other fields of a record as they are. -/
theorem still_change {fields : List Field} (once : (fields.map Field.name).Nodup) {field : Field}
    (known : field ∈ fields) {part : Document} {changed : List Document}
    (still : field.Still [part] changed) (front back : Members) :
    Still fields (front ++ (field.name, part) :: back)
      (front ++ changed.map (fun part => (field.name, part)) ++ back) := by
  intro other knownToo
  by_cases same : other.name = field.name
  · obtain rfl : other = field := List.inj_on_of_nodup_map once knownToo known same
    have given : named (changed.map fun part => (other.name, part)) other.name = changed := by
      simp [named, List.filter_map, Function.comp_def]
    simpa [given] using still.among (named front other.name) (named back other.name)
  · have apart : field.name ≠ other.name := fun same' => same same'.symm
    have given : named (changed.map fun part => (field.name, part)) other.name = [] := by
      simp [named, List.filter_map, Function.comp_def, apart]
    simpa [given, apart] using Field.Still.same _

end Members

namespace Edit

/-- Edits happen inside of lists and objects only. -/
theorem real {place : Part} {part edited : Document} (edit : Edit place part edited) :
    part ≠ .null ∧ edited ≠ .null := by
  cases edit <;> simp

theorem keeps {place : Part} {part edited : Document} (edit : Edit place part edited) :
    place.Keeps part edited := by
  induction edit with
  | add record unknown added =>
    exact Kind.read_still record (Members.still_add unknown added _ _)
  | leaveOut record known default =>
    have still := Members.still_change (Kind.names_once record) known (.leftOut default)
    exact Kind.read_still record (by simpa using still _ _)
  | inField record known inside ih =>
    have still := Members.still_change (Kind.names_once record) known
      (.edited ih inside.real.1 inside.real.2)
    exact Kind.read_still record (by simpa using still _ _)
  | inVariant choice known inside ih => exact Kind.read_variant choice known ih
  | inItem inside ih => exact Refines.mapM ih _ _
  | @inCommonAction name part edited inside plain front back ih =>
    cases plain with
    | false => exact nofun
    | true =>
      apply Refines.bind _ fun _ => .refl _
      apply Refines.mapM
      exact .bind (.refl _) fun id => .bind ih fun action => .refl _

end Edit

/-- However a document is edited, what was read is read. -/
theorem Edited.refines {kind : Kind} {document edited : Document}
    (edits : Edited (.one kind) document edited) :
    Refines (kind.read document) (kind.read edited) := by
  induction edits with
  | refl => exact .refl _
  | tail _ edit ih =>
    intro value read
    exact edit.keeps value (ih value read)

end Json

/-- Every blueprint and every query comes back from its document, and from every document that is
got from it by leaving out fields that hold their default and by adding members to records. -/
theorem documents_read_back :
    (∀ blueprint : Blueprint,
      Blueprint.ofDocument? blueprint.toJson.document = some blueprint ∧
      ∀ edited, Json.Edited (.one .blueprint) blueprint.toJson.document edited →
        Blueprint.ofDocument? edited = some blueprint) ∧
    (∀ query : Query,
      Query.ofDocument? query.toJson.document = some query ∧
      ∀ edited, Json.Edited (.one .query) query.toJson.document edited →
        Query.ofDocument? edited = some query) := by
  constructor
  · intro blueprint
    have back := Blueprint.ofDocument?_toJson blueprint
    exact ⟨back, fun edited edits => edits.refines blueprint back⟩
  · intro query
    have back := Query.ofDocument?_toJson query
    exact ⟨back, fun edited edits => edits.refines query back⟩

/-- The document of a blueprint with one join, with a comment added to it and the conditions of the
join left out. -/
def oneJoinEdited : Document :=
  .obj true [("comment", .unfit), ("common_actions", .obj true []), ("global_actions", .arr []),
    ("initial_actions", .arr []), ("joins", .arr [.obj true [("id", .int 1)]]),
    ("name", .str "review"), ("registers", .arr []), ("splits", .arr []), ("steps", .arr [])]

theorem oneJoinEdited_edited :
    Json.Edited (.one .blueprint)
      (Blueprint.toJson { name := "review", joins := [{ id := 1 }] }).document oneJoinEdited := by
  have bare := @Json.Edit.leaveOut .join _ rfl
    (.defaulted "conditions" (.one .tree) (Conditions.toJson {})) (by simp [Json.Kind.joinFields])
    _ rfl true [] [("id", .int 1)]
  have inside := @Json.Edit.inField .blueprint _ rfl (.list "joins" (.many .join))
    (by simp [Json.Kind.blueprintFields]) _ _ (@Json.Edit.inItem .join _ _ bare [] []) true
    [("common_actions", .obj true []), ("global_actions", .arr []), ("initial_actions", .arr [])]
    [("name", .str "review"), ("registers", .arr []), ("splits", .arr []), ("steps", .arr [])]
  have comment := @Json.Edit.add .blueprint _ rfl "comment" (by decide) .unfit true true []
    [("common_actions", .obj true []), ("global_actions", .arr []), ("initial_actions", .arr []),
      ("joins", .arr [.obj true [("id", .int 1)]]), ("name", .str "review"),
      ("registers", .arr []), ("splits", .arr []), ("steps", .arr [])]
  exact .tail (.single inside) comment

/-- The document of a search for what is not owned by someone, with a note in it. -/
def notOwnedEdited : Document :=
  .obj true [("Not", .obj true [("Step", .obj true [("condition",
    .obj true [("Owner", .str "ann")]), ("context", .str "Current"), ("note", .null)])])]

theorem notOwnedEdited_edited :
    Json.Edited (.one .query)
      (Query.toJson (.not (.someStep .current (.owner "ann")))).document notOwnedEdited := by
  have note := @Json.Edit.add .stepTest _ rfl "note" (by decide) .null true true
    [("condition", .obj true [("Owner", .str "ann")]), ("context", .str "Current")] []
  have test := @Json.Edit.inVariant .query _ rfl "Step" (.one .stepTest) (by simp) _ _ note true
  exact .single (@Json.Edit.inVariant .query _ rfl "Not" (.one .query) (by simp) _ _ test true)

theorem edited_read_back :
    Blueprint.ofDocument? oneJoinEdited = some { name := "review", joins := [{ id := 1 }] } ∧
      Query.ofDocument? notOwnedEdited = some (.not (.someStep .current (.owner "ann"))) :=
  ⟨(documents_read_back.1 _).2 _ oneJoinEdited_edited,
    (documents_read_back.2 _).2 _ notOwnedEdited_edited⟩

end Caseflow
