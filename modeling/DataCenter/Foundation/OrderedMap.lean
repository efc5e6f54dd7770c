import Mathlib

/-! # Scans of an ordered map

`std::map` keeps its elements in key order, and code that searches one by value
walks an iterator from `begin ()` and stops at the first element that passes a
test.  `scan` is that loop over `Std.ExtTreeMap`, whose equality, like that of
`std::map`, is equality of contents. -/

namespace DataCenter.OrderedMap

open Std

variable {α β : Type} {cmp : α → α → Ordering} [TransCmp cmp]

/-- The first element in key order whose value passes the test. -/
def scan (map : ExtTreeMap α β cmp) (test : β → Bool) : Option (α × β) :=
  map.toList.find? fun element => test element.2

variable [LawfulEqCmp cmp]

theorem getElem?_of_scan {map : ExtTreeMap α β cmp} {test : β → Bool}
    {key : α} {value : β} (found : scan map test = some (key, value)) :
    map[key]? = some value :=
  ExtTreeMap.mem_toList_iff_getElem?_eq_some.mp (List.mem_of_find?_eq_some found)

omit [LawfulEqCmp cmp] in
theorem test_of_scan {map : ExtTreeMap α β cmp} {test : β → Bool}
    {key : α} {value : β} (found : scan map test = some (key, value)) :
    test value = true := by
  simpa using List.find?_some found

theorem scan_eq_none_iff {map : ExtTreeMap α β cmp} {test : β → Bool} :
    scan map test = none ↔
      ∀ (key : α) (value : β), map[key]? = some value → test value = false := by
  rw [scan, List.find?_eq_none]
  constructor
  · intro rejected key value stored
    have member := ExtTreeMap.mem_toList_iff_getElem?_eq_some.mpr stored
    simpa using rejected (key, value) member
  · intro rejected element member
    rcases element with ⟨key, value⟩
    have stored := ExtTreeMap.mem_toList_iff_getElem?_eq_some.mp member
    simpa using rejected key value stored

/-- A scan whose test only one key passes finds that key. -/
theorem scan_eq_some_of_unique {map : ExtTreeMap α β cmp} (test : β → Bool)
    {key : α} {value : β} (stored : map[key]? = some value) (passes : test value = true)
    (unique : ∀ (other : α) (found : β),
      map[other]? = some found → test found = true → other = key) :
    scan map test = some (key, value) := by
  cases result : scan map test with
  | none =>
      have rejected := scan_eq_none_iff.mp result key value stored
      simp [passes] at rejected
  | some element =>
      rcases element with ⟨other, found⟩
      have otherStored := getElem?_of_scan result
      have same : other = key := unique other found otherStored (test_of_scan result)
      subst same
      rw [stored] at otherStored
      cases otherStored
      rfl

/-- The keys before the one that a scan finds do not pass the test. -/
theorem rejected_of_scan {map : ExtTreeMap α β cmp} {test : β → Bool} {key : α}
    {value : β} (result : scan map test = some (key, value)) {other : α} {found : β}
    (stored : map[other]? = some found) (smaller : cmp other key = .lt) :
    test found = false := by
  have ordered := ExtTreeMap.ordered_keys_toList (t := map)
  have member := ExtTreeMap.mem_toList_iff_getElem?_eq_some.mpr stored
  rcases List.find?_eq_some_iff_append.mp result with ⟨-, before, after, listed, rejected⟩
  rw [listed] at member ordered
  rcases List.mem_append.mp member with early | late
  · simpa using rejected _ early
  · have tail := (List.pairwise_append.mp ordered).2.1
    rcases List.mem_cons.mp late with same | later
    · cases same
      have self : cmp key key = .eq := ReflCmp.compare_self
      rw [self] at smaller
      cases smaller
    · have larger := (List.pairwise_cons.mp tail).1 _ later
      rw [OrientedCmp.gt_of_lt larger] at smaller
      cases smaller

/-- A scan finds the least key whose value passes the test. -/
theorem scan_eq_some_iff {map : ExtTreeMap α β cmp} {test : β → Bool} {key : α}
    {value : β} :
    scan map test = some (key, value) ↔ map[key]? = some value ∧ test value = true ∧
      ∀ (other : α) (found : β), map[other]? = some found → cmp other key = .lt →
        test found = false := by
  constructor
  · intro result
    exact ⟨getElem?_of_scan result, test_of_scan result, fun _ _ =>
      rejected_of_scan result⟩
  · intro first
    rcases first with ⟨stored, passes, least⟩
    cases result : scan map test with
    | none =>
        have rejected := scan_eq_none_iff.mp result key value stored
        simp [passes] at rejected
    | some element =>
        rcases element with ⟨other, found⟩
        have otherStored := getElem?_of_scan result
        have otherPasses := test_of_scan result
        cases order : cmp other key with
        | lt => simp [least other found otherStored order] at otherPasses
        | gt =>
            have rejected := rejected_of_scan result stored (OrientedCmp.lt_of_gt order)
            simp [passes] at rejected
        | eq =>
            have same := LawfulEqCmp.eq_of_compare order
            subst same
            rw [stored] at otherStored
            cases otherStored
            rfl

/-! ## The keys of a map -/

section Support

variable [DecidableEq α]

/-- The keys that have a value. -/
def support (map : ExtTreeMap α β cmp) : Finset α := map.keys.toFinset

theorem mem_support {map : ExtTreeMap α β cmp} {key : α} : key ∈ support map ↔
    key ∈ map := by
  simp [support]

@[simp] theorem support_empty : support (∅ : ExtTreeMap α β cmp) = ∅ := by
  ext key
  simp [mem_support]

@[simp] theorem support_insert (map : ExtTreeMap α β cmp) (key : α) (value : β) :
    support (map.insert key value) = insert key (support map) := by
  ext other
  rw [mem_support, ExtTreeMap.mem_insert, LawfulEqCmp.compare_eq_iff_eq,
    Finset.mem_insert, mem_support, eq_comm]

@[simp] theorem support_erase (map : ExtTreeMap α β cmp) (key : α) :
    support (map.erase key) = (support map).erase key := by
  ext other
  rw [mem_support, ExtTreeMap.mem_erase, ne_eq, LawfulEqCmp.compare_eq_iff_eq,
    Finset.mem_erase, mem_support, ne_eq, eq_comm]

/-- A sum over the values of a map, as one over its keys. -/
theorem sum_toList (map : ExtTreeMap α β cmp) (figure : β → Nat) :
    (map.toList.map fun element => figure element.2).sum =
      ∑ key ∈ support map, map[key]?.elim 0 figure := by
  have nodup : map.keys.Nodup :=
    ExtTreeMap.distinct_keys.imp fun different same => different (by simp [same])
  rw [support, List.sum_toFinset _ nodup, ← ExtTreeMap.map_fst_toList_eq_keys,
    List.map_map]
  congr 1
  apply List.map_congr_left
  intro element member
  have stored := ExtTreeMap.mem_toList_iff_getElem?_eq_some.mp member
  simp [stored]

/-- A value put under a key counts instead of the one that was there. -/
theorem sum_toList_insert (map : ExtTreeMap α β cmp) (key : α) (value : β)
    (figure : β → Nat) :
    ((map.insert key value).toList.map fun element => figure element.2).sum +
        map[key]?.elim 0 figure =
      (map.toList.map fun element => figure element.2).sum + figure value := by
  have others : ∑ other ∈ (support map).erase key,
      (map.insert key value)[other]?.elim 0 figure =
      ∑ other ∈ (support map).erase key, map[other]?.elim 0 figure := by
    apply Finset.sum_congr rfl
    intro other member
    have different : key ≠ other := (Finset.ne_of_mem_erase member).symm
    simp [ExtTreeMap.getElem?_insert, different]
  rw [sum_toList, sum_toList, support_insert,
    ← Finset.add_sum_erase _ _ (Finset.mem_insert_self key (support map)),
    Finset.erase_insert_eq_erase, others]
  have whole : ∑ other ∈ support map, map[other]?.elim 0 figure =
      map[key]?.elim 0 figure +
      ∑ other ∈ (support map).erase key, map[other]?.elim 0 figure := by
    by_cases stored : key ∈ support map
    · exact (Finset.add_sum_erase _ _ stored).symm
    · have absent : map[key]? = none := by
        rw [mem_support] at stored
        exact ExtTreeMap.getElem?_eq_none stored
      rw [Finset.erase_eq_of_notMem stored, absent]
      simp
  rw [whole, ExtTreeMap.getElem?_insert_self, Option.elim_some]
  omega

end Support

end DataCenter.OrderedMap
