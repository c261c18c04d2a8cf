import Mathlib.Data.List.Forall2
import Caseflow.Store.Query
/-! How documents are read. A member of a record is read from the parts given under its name,
wherever they stand; a tree is read by a reader of its parts, whatever its depth. -/
namespace Caseflow

open Json (Document Members)

/-- A list is read where each of its items is. -/
theorem mapM_eq_some_iff {α β : Type} {read : α → Option β} {items : List α} {values : List β} :
    items.mapM read = some values ↔
      List.Forall₂ (fun item value => read item = some value) items values := by
  induction items generalizing values with
  | nil => cases values <;> simp
  | cons item rest ih =>
    cases values with
    | nil => simp [List.mapM_cons, Option.bind_eq_some_iff]
    | cons value others => simp [List.mapM_cons, Option.bind_eq_some_iff, ← ih]

namespace Json

/-! ### The parts given under a name -/

namespace Members

@[simp] theorem named_nil (name : String) : named [] name = [] := rfl

@[simp] theorem named_cons (other : String) (part : Document) (rest : Members) (name : String) :
    named ((other, part) :: rest) name =
      if other = name then part :: named rest name else named rest name := by
  unfold named
  split <;> simp [*]

@[simp] theorem named_append (front back : Members) (name : String) :
    named (front ++ back) name = named front name ++ named back name := by
  simp [named]

/-- Reads the only part that is given. -/
def sole? {α : Type} (read : Document → Option α) : List Document → Option α
  | [part] => read part
  | _ => none

/-- Reads the only part that is given, and `fallback` where none is. -/
def soleOr? {α : Type} (read : Document → Option α) (fallback : α) : List Document → Option α
  | [] => some fallback
  | [part] => read part
  | _ => none

/-- Reads the only part that is given, where one is that is not null. -/
def soleOrNone? {α : Type} (read : Document → Option α) : List Document → Option (Option α)
  | [] => some none
  | [.null] => some none
  | [part] => (read part).map some
  | _ => none

variable {α : Type} (members : Members) (name : String) (read : Document → Option α)

theorem required_eq : members.required name read = sole? read (members.named name) := rfl

theorem defaulted_eq (fallback : α) :
    members.defaulted name read fallback = soleOr? read fallback (members.named name) := rfl

theorem optional_eq : members.optional name read = soleOrNone? read (members.named name) := rfl

end Members

/-! ### Trees

A tree is read within a limit, which is the depth of its document. What is inside is read within the
same limit less one, where its own depth would do. -/

namespace Document

/-- What a member stands for is less deep than the document. -/
theorem depth_lt_of_member {document : Document} {members : Members} {member : String × Document}
    (taken : document.asMembers? = some members) (inside : member ∈ members) :
    member.2.depth < document.depth := by
  have bounded {members : Members} (inside : member ∈ members) :
      member.2.depth ≤ depthOfMembers members := by
    induction members with
    | nil => cases inside
    | cons head rest ih =>
      rw [depthOfMembers]
      rcases List.mem_cons.mp inside with rfl | inside
      · omega
      · have := ih inside
        omega
  cases document with
  | obj plain held =>
    cases taken
    rw [depth]
    have := bounded inside
    omega
  | _ => cases taken

theorem depth_lt_of_item {items : List Document} {item : Document} (inside : item ∈ items) :
    item.depth < (arr items).depth := by
  rw [depth]
  induction items with
  | nil => cases inside
  | cons head rest ih =>
    rw [depthOfItems]
    rcases List.mem_cons.mp inside with rfl | inside
    · omega
    · have := ih inside
      omega

/-- Two readers of items that agree on all that is less deep read the same list. -/
theorem asList?_congr {α : Type} {read other : Document → Option α} {document : Document}
    (agree : ∀ item, item.depth < document.depth → read item = other item) :
    document.asList? read = document.asList? other := by
  cases document with
  | arr items =>
    have same {items : List Document} (agree : ∀ item ∈ items, read item = other item) :
        items.mapM read = items.mapM other := by
      induction items with
      | nil => rfl
      | cons head rest ih =>
        rw [List.mapM_cons, List.mapM_cons, agree head List.mem_cons_self,
          ih fun item inside => agree item (List.mem_cons_of_mem _ inside)]
    exact same fun item inside => agree item (depth_lt_of_item inside)
  | _ => rfl

theorem asMembers?_of_asTagged? {document : Document} {member : String × Document}
    (tagged : document.asTagged? = some member) : document.asMembers? = some [member] := by
  unfold asTagged? at tagged
  split at tagged
  · cases tagged
    rfl
  · cases tagged

/-- What stands under a tag is less deep than the document. -/
theorem depth_lt_of_asTagged? {document : Document} {member : String × Document}
    (tagged : document.asTagged? = some member) : member.2.depth < document.depth :=
  depth_lt_of_member (asMembers?_of_asTagged? tagged) List.mem_cons_self

/-- Nothing stands in a document without depth. -/
theorem asTagged?_of_depth_zero {document : Document} (flat : document.depth = 0) :
    document.asTagged? = none := by
  cases tagged : document.asTagged? with
  | none => rfl
  | some member =>
    have := depth_lt_of_asTagged? tagged
    omega

end Document

namespace Members

theorem mem_of_named {members : Members} {name : String} {part : Document}
    (given : part ∈ members.named name) : (name, part) ∈ members := by
  obtain ⟨member, found, rfl⟩ := List.mem_map.mp given
  obtain ⟨inside, same⟩ := List.mem_filter.mp found
  obtain rfl : member.1 = name := by simpa using same
  exact inside

theorem soleOr?_congr {α : Type} {read other : Document → Option α} {parts : List Document}
    (agree : ∀ part ∈ parts, read part = other part) (fallback : α) :
    soleOr? read fallback parts = soleOr? other fallback parts := by
  unfold soleOr?
  split
  · rfl
  · exact agree _ List.mem_cons_self
  · rfl

end Members

/-- A reader of trees within a limit. It reads one layer and leaves what is inside to itself, within
the limit less one; how a layer is read depends only on how its parts are. -/
structure Layered {α : Type} (read : Nat → Document → Option α)
    (layer : (Document → Option α) → String × Document → Option α) : Prop where
  untagged {document : Document} : document.asTagged? = none → read 0 document = none
  deeper (limit : Nat) (document : Document) :
    read (limit + 1) document = document.asTagged?.bind (layer (read limit))
  congr {read other : Document → Option α} {member : String × Document} :
    (∀ part, part.depth ≤ member.2.depth → read part = other part) →
      layer read member = layer other member

namespace Layered

variable {α : Type} {read : Nat → Document → Option α}
  {layer : (Document → Option α) → String × Document → Option α}

/-- Limits that are deep enough read the same. -/
theorem same (layered : Layered read layer) {limit other : Nat} {document : Document}
    (enough : document.depth ≤ limit) (enoughToo : document.depth ≤ other) :
    read limit document = read other document := by
  have bare (limit : Nat) {document : Document} (untagged : document.asTagged? = none) :
      read limit document = none := by
    cases limit with
    | zero => exact layered.untagged untagged
    | succ limit => rw [layered.deeper, untagged, Option.bind_none]
  induction limit generalizing other document with
  | zero =>
    have untagged : document.asTagged? = none := Document.asTagged?_of_depth_zero (by omega)
    rw [bare 0 untagged, bare other untagged]
  | succ limit ih =>
    cases tagged : document.asTagged? with
    | none => rw [bare _ tagged, bare _ tagged]
    | some member =>
      have below := Document.depth_lt_of_asTagged? tagged
      obtain ⟨other, rfl⟩ := Nat.exists_eq_add_of_lt (show 0 < other by omega)
      rw [Nat.zero_add, layered.deeper, layered.deeper, tagged, Option.bind_some, Option.bind_some]
      exact layered.congr fun part deeper => ih (by omega) (by omega)

/-- Within the depth of the document, what is inside is read within its own depth. -/
theorem eq (layered : Layered read layer) (document : Document) :
    read document.depth document =
      document.asTagged?.bind (layer fun part => read part.depth part) := by
  cases tagged : document.asTagged? with
  | none =>
    rw [layered.same (Nat.le_refl _) (Nat.le_succ _), layered.deeper, tagged]
    rfl
  | some member =>
    have below := Document.depth_lt_of_asTagged? tagged
    obtain ⟨limit, deep⟩ := Nat.exists_eq_add_of_lt below
    rw [deep, layered.deeper, tagged, Option.bind_some, Option.bind_some]
    exact layered.congr fun part deeper => layered.same (by omega) (Nat.le_refl _)

end Layered

end Json

namespace Condition

/-- A tree is read alike by two readers of conditions that agree on all that is less deep. -/
theorem readTree?_congr {read other : Document → Option Condition} {document : Document}
    (agree : ∀ part, part.depth < document.depth → read part = other part) :
    readTree? read document = readTree? other document := by
  unfold readTree?
  cases taken : document.asMembers? with
  | none => rfl
  | some members =>
    have same : Members.defaulted members "conditions" (Document.asList? read) [] =
        Members.defaulted members "conditions" (Document.asList? other) [] := by
      apply Members.soleOr?_congr
      intro part given
      have below := Document.depth_lt_of_member taken (Members.mem_of_named given)
      exact Document.asList?_congr fun item inside => agree item (Nat.lt_trans inside below)
    rw [Option.bind_eq_bind, Option.bind_eq_bind, Option.bind_some, Option.bind_some, same]

/-- Reads one layer of a condition, where `read` reads the trees inside. -/
def layer? (read : Document → Option Conditions) : String × Document → Option Condition
  | ("Leaf", check) => (Check.ofDocument? check).map .leaf
  | ("Nested", tree) => (read tree).map Conditions.nested
  | _ => none

theorem layer?_congr {read other : Document → Option Conditions} {member : String × Document}
    (agree : read member.2 = other member.2) : layer? read member = layer? other member := by
  unfold layer?
  split
  · rfl
  · rw [agree]
  · rfl

theorem readWithin?_succ (limit : Nat) (document : Document) :
    readWithin? (limit + 1) document =
      document.asTagged?.bind (layer? (readTree? (readWithin? limit))) := by
  unfold readWithin? layer?
  cases document.asTagged? with
  | none => rfl
  | some member => split <;> simp_all

theorem layered : Json.Layered readWithin? fun read => layer? (readTree? read) where
  untagged untagged := by
    unfold readWithin?
    rw [untagged]
  deeper := readWithin?_succ
  congr agree := layer?_congr (readTree?_congr fun part below => agree part (Nat.le_of_lt below))

end Condition

/-- A tree of conditions is read by the reader of conditions. -/
theorem Conditions.ofDocument?_eq (document : Document) :
    ofDocument? document = Condition.readTree? Condition.ofDocument? document :=
  Condition.readTree?_congr fun _ below =>
    Condition.layered.same (Nat.le_of_lt below) (Nat.le_refl _)

/-- A condition is read by the reader of trees. -/
theorem Condition.ofDocument?_eq (document : Document) :
    ofDocument? document = document.asTagged?.bind (layer? Conditions.ofDocument?) := by
  rw [funext Conditions.ofDocument?_eq]
  exact layered.eq document

namespace Query

/-- Reads a condition on the steps of a partition. -/
def readStepTest? (document : Document) : Option Query := do
  let members ← document.asMembers?
  let partition ← members.required "context" Partition.ofDocument?
  let test ← members.required "condition" FieldTest.ofDocument?
  return .someStep partition test

/-- Reads one layer of an expression, where `read` reads the expressions inside. -/
def layer? (read : Document → Option Query) : String × Document → Option Query
  | ("Step", test) => readStepTest? test
  | ("WorkflowName", name) => name.asText?.map .ofWorkflow
  | ("EntryState", state) => (EntryState.ofDocument? state).map .inState
  | ("And", parts) => (parts.asList? read).map .all
  | ("Or", parts) => (parts.asList? read).map .any
  | ("Not", part) => (read part).map .not
  | _ => none

theorem layer?_congr {read other : Document → Option Query} {member : String × Document}
    (agree : ∀ part, part.depth ≤ member.2.depth → read part = other part) :
    layer? read member = layer? other member := by
  unfold layer?
  split
  · rfl
  · rfl
  · rfl
  · rw [Document.asList?_congr fun item below => agree item (Nat.le_of_lt below)]
  · rw [Document.asList?_congr fun item below => agree item (Nat.le_of_lt below)]
  · rw [agree _ (Nat.le_refl _)]
  · rfl

theorem readWithin?_succ (limit : Nat) (document : Document) :
    readWithin? (limit + 1) document = document.asTagged?.bind (layer? (readWithin? limit)) := by
  cases tagged : document.asTagged? with
  | none =>
    unfold readWithin?
    simp only [tagged, Option.bind_none]
  | some member =>
    unfold readWithin? layer? readStepTest?
    simp only [tagged, Option.bind_some]
    -- the first split leaves the connectives, which the reader looks at after the limit
    split <;> simp_all
    split <;> simp_all

theorem layered : Json.Layered readWithin? layer? where
  untagged untagged := by
    unfold readWithin?
    rw [untagged]
  deeper := readWithin?_succ
  congr := layer?_congr

/-- An expression is read by the reader of expressions. -/
theorem ofDocument?_eq (document : Document) :
    ofDocument? document = document.asTagged?.bind (layer? ofDocument?) :=
  layered.eq document

end Query

end Caseflow
