/-! Finite maps kept as a list of pairs in strictly ascending key order. Two maps with the same
pairs are therefore equal, whatever order the pairs were put in, and every listing of a map comes
out in key order. -/
namespace Caseflow

variable {κ α : Type} [Ord κ]

/-- The pairs stand in strictly ascending order of their keys. -/
def Ascending (pairs : List (κ × α)) : Prop :=
  pairs.Pairwise fun earlier later => compare earlier.1 later.1 = .lt

/-- Puts a pair into an ascending list; a pair with the same key is replaced. -/
def putPair (key : κ) (value : α) : List (κ × α) → List (κ × α)
  | [] => [(key, value)]
  | head :: rest =>
    match compare key head.1 with
    | .lt => (key, value) :: head :: rest
    | .eq => (key, value) :: rest
    | .gt => head :: putPair key value rest

/-- The value of the first pair with this key. -/
def findPair? (key : κ) : List (κ × α) → Option α
  | [] => none
  | head :: rest => if compare key head.1 = .eq then some head.2 else findPair? key rest

theorem mem_putPair {key : κ} {value : α} {pair : κ × α} {pairs : List (κ × α)}
    (member : pair ∈ putPair key value pairs) : pair = (key, value) ∨ pair ∈ pairs := by
  induction pairs with
  | nil => simpa [putPair] using member
  | cons head rest ih =>
    unfold putPair at member
    split at member
    · simpa using member
    · rcases List.mem_cons.mp member with same | inside
      · exact .inl same
      · exact .inr (List.mem_cons_of_mem _ inside)
    · rcases List.mem_cons.mp member with same | inside
      · exact .inr (by simp [same])
      · exact (ih inside).imp_right (List.mem_cons_of_mem _)

theorem ascending_putPair [Std.TransOrd κ] [Std.LawfulEqOrd κ] (key : κ) (value : α)
    {pairs : List (κ × α)} (sorted : Ascending pairs) : Ascending (putPair key value pairs) := by
  induction pairs with
  | nil => simp [putPair, Ascending]
  | cons head rest ih =>
    obtain ⟨below, tail⟩ := List.pairwise_cons.mp sorted
    unfold putPair
    split
    · rename_i less
      refine List.pairwise_cons.mpr ⟨?_, sorted⟩
      intro pair member
      rcases List.mem_cons.mp member with same | inside
      · subst same; exact less
      · exact Std.TransCmp.lt_trans less (below pair inside)
    · rename_i same
      have equal : key = head.1 := Std.LawfulEqCmp.eq_of_compare same
      exact List.pairwise_cons.mpr ⟨fun pair member => equal ▸ below pair member, tail⟩
    · rename_i greater
      refine List.pairwise_cons.mpr ⟨?_, ih tail⟩
      intro pair member
      rcases mem_putPair member with same | inside
      · subst same; exact Std.OrientedCmp.lt_of_gt greater
      · exact below pair inside

theorem mem_of_findPair? [Std.LawfulEqOrd κ] {key : κ} {value : α} {pairs : List (κ × α)}
    (found : findPair? key pairs = some value) : (key, value) ∈ pairs := by
  induction pairs with
  | nil => cases found
  | cons head rest ih =>
    unfold findPair? at found
    split at found
    · rename_i same
      have equal : key = head.1 := Std.LawfulEqCmp.eq_of_compare same
      cases found
      exact equal ▸ List.mem_cons_self
    · exact List.mem_cons_of_mem _ (ih found)

theorem findPair?_putPair_self [Std.ReflOrd κ] (key : κ) (value : α) (pairs : List (κ × α)) :
    findPair? key (putPair key value pairs) = some value := by
  induction pairs with
  | nil => simp [putPair, findPair?]
  | cons head rest ih =>
    unfold putPair
    split
    · simp [findPair?]
    · simp [findPair?]
    · rename_i greater
      simp [findPair?, greater, ih]

theorem findPair?_putPair_of_ne [Std.LawfulEqOrd κ] {key other : κ} (differ : other ≠ key)
    (value : α) (pairs : List (κ × α)) :
    findPair? other (putPair key value pairs) = findPair? other pairs := by
  have apart : compare other key ≠ .eq := fun same => differ (Std.LawfulEqCmp.eq_of_compare same)
  induction pairs with
  | nil => simp [putPair, findPair?, apart]
  | cons head rest ih =>
    unfold putPair
    split
    · simp [findPair?, apart]
    · rename_i same
      have equal : key = head.1 := Std.LawfulEqCmp.eq_of_compare same
      simp [findPair?, apart, ← equal]
    · simp [findPair?, ih]

theorem findPair?_map {β : Type} (key : κ) (change : α → β) (pairs : List (κ × α)) :
    findPair? key (pairs.map fun pair => (pair.1, change pair.2)) =
      (findPair? key pairs).map change := by
  induction pairs with
  | nil => rfl
  | cons head rest ih =>
    simp only [List.map_cons, findPair?]
    split
    · rfl
    · exact ih

theorem findPair?_filter_self (key : κ) (pairs : List (κ × α)) :
    findPair? key (pairs.filter fun pair => compare key pair.1 ≠ .eq) = none := by
  induction pairs with
  | nil => rfl
  | cons head rest ih =>
    by_cases same : compare key head.1 = .eq
    · simpa [same] using ih
    · simpa [same, findPair?] using ih

theorem findPair?_filter_of_ne [Std.LawfulEqOrd κ] {key other : κ} (differ : other ≠ key)
    (pairs : List (κ × α)) :
    findPair? other (pairs.filter fun pair => compare key pair.1 ≠ .eq) =
      findPair? other pairs := by
  have apart : compare other key ≠ .eq := fun same => differ (Std.LawfulEqCmp.eq_of_compare same)
  induction pairs with
  | nil => rfl
  | cons head rest ih =>
    by_cases same : compare key head.1 = .eq
    · have equal : key = head.1 := Std.LawfulEqCmp.eq_of_compare same
      simpa [same, findPair?, apart, ← equal] using ih
    · simpa [same, findPair?] using congrArg (if compare other head.1 = .eq then some head.2 else ·) ih

/-- A finite map from keys to values. -/
structure SortedMap (κ α : Type) [Ord κ] where
  pairs : List (κ × α)
  ascending : Ascending pairs
  deriving DecidableEq

namespace SortedMap

theorem ext_pairs {left right : SortedMap κ α} (same : left.pairs = right.pairs) : left = right := by
  cases left; cases right; cases same; rfl

/-- The map without pairs. -/
def empty : SortedMap κ α := ⟨[], List.Pairwise.nil⟩

instance : EmptyCollection (SortedMap κ α) := ⟨empty⟩
instance : Inhabited (SortedMap κ α) := ⟨empty⟩

def get? (map : SortedMap κ α) (key : κ) : Option α :=
  findPair? key map.pairs

def contains (map : SortedMap κ α) (key : κ) : Bool :=
  (map.get? key).isSome

def keys (map : SortedMap κ α) : List κ :=
  map.pairs.map (·.1)

def values (map : SortedMap κ α) : List α :=
  map.pairs.map (·.2)

def size (map : SortedMap κ α) : Nat :=
  map.pairs.length

def isEmpty (map : SortedMap κ α) : Bool :=
  map.pairs.isEmpty

/-- Removes the pair with this key, if there is one. -/
def erase (map : SortedMap κ α) (key : κ) : SortedMap κ α :=
  ⟨map.pairs.filter fun pair => compare key pair.1 ≠ .eq, map.ascending.filter _⟩

@[simp] theorem get?_empty (key : κ) : (∅ : SortedMap κ α).get? key = none := rfl

/-- Changes the values and keeps the keys. -/
def mapValues {β : Type} (change : α → β) (map : SortedMap κ α) : SortedMap κ β :=
  ⟨map.pairs.map fun pair => (pair.1, change pair.2),
    by simpa [Ascending, List.pairwise_map] using map.ascending⟩

theorem get?_mapValues {β : Type} (map : SortedMap κ α) (change : α → β) (key : κ) :
    (map.mapValues change).get? key = (map.get? key).map change :=
  findPair?_map key change map.pairs

@[simp] theorem get?_erase_self (map : SortedMap κ α) (key : κ) :
    (map.erase key).get? key = none :=
  findPair?_filter_self key map.pairs

theorem get?_erase_of_ne [Std.LawfulEqOrd κ] (map : SortedMap κ α) {key other : κ}
    (differ : other ≠ key) : (map.erase key).get? other = map.get? other :=
  findPair?_filter_of_ne differ map.pairs

variable [Std.TransOrd κ] [Std.LawfulEqOrd κ]

/-- Sets the value of a key. -/
def insert (map : SortedMap κ α) (key : κ) (value : α) : SortedMap κ α :=
  ⟨putPair key value map.pairs, ascending_putPair key value map.ascending⟩

/-- Sets every pair in turn, so of two pairs with one key the later one stays. -/
def insertMany (map : SortedMap κ α) (pairs : List (κ × α)) : SortedMap κ α :=
  pairs.foldl (fun held pair => held.insert pair.1 pair.2) map

def ofList (pairs : List (κ × α)) : SortedMap κ α :=
  empty.insertMany pairs

@[simp] theorem get?_insert_self (map : SortedMap κ α) (key : κ) (value : α) :
    (map.insert key value).get? key = some value :=
  findPair?_putPair_self key value map.pairs

theorem get?_insert_of_ne (map : SortedMap κ α) {key other : κ} (differ : other ≠ key)
    (value : α) : (map.insert key value).get? other = map.get? other :=
  findPair?_putPair_of_ne differ value map.pairs

end SortedMap

end Caseflow
