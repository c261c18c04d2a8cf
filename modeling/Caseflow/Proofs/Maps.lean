import Mathlib.Data.List.Sort
import Caseflow.SortedMap
/-! Maps made from lists of pairs. Whatever order the pairs of a map are put in, they make the same
map again. -/
namespace Caseflow

variable {κ α : Type} [Ord κ]

/-- No key of an ascending list stands in it twice. -/
theorem Ascending.nodup_keys [Std.ReflOrd κ] {pairs : List (κ × α)} (sorted : Ascending pairs) :
    (pairs.map (·.1)).Nodup := by
  refine List.pairwise_map.mpr (sorted.imp fun {earlier later} below same => ?_)
  rw [same, Std.ReflOrd.compare_self] at below
  cases below

/-- In an ascending list every pair is the one that is found under its key. -/
theorem findPair?_of_mem [Std.LawfulEqOrd κ] {key : κ} {value : α} {pairs : List (κ × α)}
    (sorted : Ascending pairs) (member : (key, value) ∈ pairs) : findPair? key pairs = some value := by
  induction pairs with
  | nil => cases member
  | cons head rest ih =>
    obtain ⟨below, tail⟩ := List.pairwise_cons.mp sorted
    unfold findPair?
    rcases List.mem_cons.mp member with rfl | inside
    · rw [if_pos Std.ReflOrd.compare_self]
    · have apart : compare key head.1 ≠ .eq := by
        intro same
        have less := below _ inside
        rw [Std.LawfulEqCmp.eq_of_compare same, Std.ReflOrd.compare_self] at less
        cases less
      rw [if_neg apart]
      exact ih tail inside

theorem SortedMap.mem_values_iff [Std.LawfulEqOrd κ] {map : SortedMap κ α} {value : α} :
    value ∈ map.values ↔ ∃ key, map.get? key = some value := by
  rw [values, List.mem_map]
  constructor
  · rintro ⟨pair, member, rfl⟩
    exact ⟨pair.1, findPair?_of_mem map.ascending member⟩
  · rintro ⟨key, found⟩
    exact ⟨(key, value), mem_of_findPair? found, rfl⟩

variable [Std.TransOrd κ] [Std.LawfulEqOrd κ]

/-- What is put in stands for its key from then on. -/
theorem mem_putPair_iff {key : κ} {value : α} {pair : κ × α} {pairs : List (κ × α)}
    (sorted : Ascending pairs) :
    pair ∈ putPair key value pairs ↔ pair = (key, value) ∨ pair.1 ≠ key ∧ pair ∈ pairs := by
  have apart {other : κ} (below : compare key other = .lt) : other ≠ key := by
    rintro rfl
    rw [Std.ReflOrd.compare_self] at below
    cases below
  induction pairs with
  | nil => simp [putPair]
  | cons head rest ih =>
    obtain ⟨below, tail⟩ := List.pairwise_cons.mp sorted
    unfold putPair
    split
    · rename_i less
      have others (other : κ × α) (member : other ∈ head :: rest) : other.1 ≠ key := by
        rcases List.mem_cons.mp member with rfl | inside
        · exact apart less
        · exact apart (Std.TransCmp.lt_trans less (below other inside))
      rw [List.mem_cons, and_iff_right_of_imp (others pair)]
    · rename_i same
      obtain rfl : key = head.1 := Std.LawfulEqCmp.eq_of_compare same
      have others (other : κ × α) (member : other ∈ rest) : other.1 ≠ head.1 :=
        apart (below other member)
      grind
    · rename_i greater
      have other : head.1 ≠ key := by
        rintro rfl
        rw [Std.ReflOrd.compare_self] at greater
        cases greater
      have inside := ih tail
      grind

namespace SortedMap

/-- Maps with the same pairs are equal. -/
theorem eq_of_mem_iff {left right : SortedMap κ α}
    (same : ∀ pair, pair ∈ left.pairs ↔ pair ∈ right.pairs) : left = right := by
  have irrefl : Std.Irrefl fun earlier later : κ × α => compare earlier.1 later.1 = .lt :=
    ⟨fun pair below => by simp at below⟩
  have antisymm : Std.Antisymm fun earlier later : κ × α => compare earlier.1 later.1 = .lt :=
    ⟨fun earlier later below above => by
      have turned := Std.OrientedCmp.gt_of_lt below
      rw [above] at turned
      cases turned⟩
  exact ext_pairs (left.ascending.eq_of_mem_iff right.ascending same)

theorem mem_insert_iff {map : SortedMap κ α} {key : κ} {value : α} {pair : κ × α} :
    pair ∈ (map.insert key value).pairs ↔ pair = (key, value) ∨ pair.1 ≠ key ∧ pair ∈ map.pairs :=
  mem_putPair_iff map.ascending

/-- Of pairs with different keys all stand for their keys, once they are put in. -/
theorem mem_insertMany_iff {pairs : List (κ × α)} (apart : (pairs.map (·.1)).Nodup)
    {map : SortedMap κ α} {pair : κ × α} :
    pair ∈ (map.insertMany pairs).pairs ↔
      pair ∈ pairs ∨ pair.1 ∉ pairs.map (·.1) ∧ pair ∈ map.pairs := by
  induction pairs generalizing map with
  | nil => simp [insertMany]
  | cons head rest ih =>
    obtain ⟨new, others⟩ := List.nodup_cons.mp apart
    have step : map.insertMany (head :: rest) = (map.insert head.1 head.2).insertMany rest := rfl
    rw [step, ih others, mem_insert_iff]
    by_cases same : pair = head
    · subst same
      have absent : ∀ value, (pair.1, value) ∉ rest := by simpa using new
      simp [absent]
    · simp [same]
      tauto

theorem mem_ofList_iff {pairs : List (κ × α)} (apart : (pairs.map (·.1)).Nodup) {pair : κ × α} :
    pair ∈ (ofList pairs).pairs ↔ pair ∈ pairs := by
  unfold ofList
  rw [mem_insertMany_iff apart]
  simp [empty]

/-- The pairs of a map, in any order, make the map. -/
theorem ofList_of_perm {map : SortedMap κ α} {pairs : List (κ × α)} (same : pairs.Perm map.pairs) :
    ofList pairs = map := by
  have apart : (pairs.map (·.1)).Nodup :=
    (same.map (·.1)).nodup_iff.mpr map.ascending.nodup_keys
  apply eq_of_mem_iff
  intro pair
  rw [mem_ofList_iff apart, same.mem_iff]

theorem ofList_pairs (map : SortedMap κ α) : ofList map.pairs = map :=
  ofList_of_perm (.refl _)

/-- What is made from pairs with different keys has just these pairs. -/
theorem pairs_ofList_perm {pairs : List (κ × α)} (apart : (pairs.map (·.1)).Nodup) :
    (ofList pairs).pairs.Perm pairs := by
  have once : (ofList pairs).pairs.Nodup := (ofList pairs).ascending.nodup_keys.of_map _
  exact (List.perm_ext_iff_of_nodup once (apart.of_map _)).mpr fun pair => mem_ofList_iff apart

end SortedMap

end Caseflow
