import Mathlib

/-! # Loop nests that fill arrays

Three nested counting loops whose body appends to one cell of an array.  Where
different iterations write different cells, a cell ends up with the one item
written to it. -/

namespace DataCenter

/-- An array of containers. -/
abbrev Cells (κ α : Type) := κ → List α

/-- `cells[key].Add (item)` -/
def Cells.add {κ α : Type} [DecidableEq κ] (cells : Cells κ α) (key : κ) (item : α) :
    Cells κ α :=
  Function.update cells key (cells key ++ [item])

/-- `for (i = 0; i < count; i++)` -/
def forEach {σ : Type} (count : Nat) (body : Fin count → σ → σ) (state : σ) : σ :=
  (List.finRange count).foldl (fun state i => body i state) state

/-- The iterations of three nested loops, in order. -/
def iterations (a b c : Nat) : List (Fin a × Fin b × Fin c) :=
  (List.finRange a).product ((List.finRange b).product (List.finRange c))

theorem mem_iterations {a b c : Nat} (iteration : Fin a × Fin b × Fin c) :
    iteration ∈ iterations a b c := by
  rcases iteration with ⟨i, j, h⟩
  simp [iterations, List.pair_mem_product]

theorem mem_pairs {a b : Nat} (pair : Fin a × Fin b) :
    pair ∈ (List.finRange a).product (List.finRange b) := by
  rcases pair with ⟨i, j⟩
  simp [List.pair_mem_product]

theorem nodup_iterations (a b c : Nat) : (iterations a b c).Nodup :=
  (List.nodup_finRange a).product
    ((List.nodup_finRange b).product (List.nodup_finRange c))

theorem forEach_nest {σ : Type} {a b c : Nat} (body : Fin a → Fin b → Fin c → σ → σ)
    (state : σ) :
    forEach a (fun i => forEach b fun j => forEach c fun h => body i j h) state =
      (iterations a b c).foldl (fun state it => body it.1 it.2.1 it.2.2 state) state := by
  simp [forEach, iterations, List.product, List.foldl_flatMap, List.foldl_map]

theorem forEach_pair {σ : Type} {a b : Nat} (body : Fin a → Fin b → σ → σ) (state : σ) :
    forEach a (fun i => forEach b fun j => body i j) state =
      ((List.finRange a).product (List.finRange b)).foldl
        (fun state it => body it.1 it.2 state) state := by
  simp [forEach, List.product, List.foldl_flatMap, List.foldl_map]

/-- A pair is as far in the product of two lists as its parts are in these. -/
theorem getElem?_product {α β : Type} {first : List α} {second : List β} {i j : Nat}
    {a : α} {b : β} (atFirst : first[i]? = some a) (atSecond : second[j]? = some b) :
    (first.product second)[i * second.length + j]? = some (a, b) := by
  have bound : j < second.length := (List.getElem?_eq_some_iff.mp atSecond).1
  induction first generalizing i with
  | nil => simp at atFirst
  | cons head rest induction =>
      rw [List.product, List.flatMap_cons]
      cases i with
      | zero =>
          cases atFirst
          rw [Nat.zero_mul, Nat.zero_add,
            List.getElem?_append_left (by simpa using bound), List.getElem?_map, atSecond]
          rfl
      | succ i =>
          have later : (i + 1) * second.length + j - (second.map (Prod.mk head)).length =
              i * second.length + j := by
            rw [List.length_map, Nat.succ_mul]
            omega
          rw [List.getElem?_append_right, later]
          · exact induction atFirst
          · rw [List.length_map, Nat.succ_mul]
            omega

theorem length_pairs {α β : Type} (first : List α) (second : List β) :
    (first.product second).length = first.length * second.length :=
  List.length_product first second

theorem getElem?_finRange {count : Nat} (index : Fin count) :
    (List.finRange count)[index.val]? = some index := by
  simp

/-- The number of an iteration. -/
theorem getElem?_iterations {a b c : Nat} (i : Fin a) (j : Fin b) (h : Fin c) :
    (iterations a b c)[(i * b + j) * c + h]? = some (i, j, h) := by
  have inner := getElem?_product (getElem?_finRange j) (getElem?_finRange h)
  have outer := getElem?_product (getElem?_finRange i) inner
  have place : i.val * (b * c) + (j * c + h) = (i * b + j) * c + h := by ring
  rw [length_pairs, List.length_finRange, List.length_finRange, place] at outer
  exact outer

theorem length_iterations (a b c : Nat) : (iterations a b c).length = a * b * c := by
  rw [iterations, length_pairs, length_pairs]
  simp only [List.length_finRange, Nat.mul_assoc]

section Cells

variable {κ α τ : Type} [DecidableEq κ]

/-- Appending loops leave in each cell what it held and what the iterations of
that cell wrote. -/
theorem foldl_add (key : τ → κ) (item : τ → α) (writes : List τ) (cells : Cells κ α)
    (cell : κ) :
    (writes.foldl (fun cells write => cells.add (key write) (item write)) cells) cell =
      cells cell ++ (writes.filter fun write => key write = cell).map item := by
  induction writes generalizing cells with
  | nil => simp
  | cons write writes induction =>
      rw [List.foldl_cons, induction]
      by_cases here : key write = cell
      · subst here
        simp [Cells.add]
      · have elsewhere : cell ≠ key write := fun equal => here equal.symm
        simp [Cells.add, here, elsewhere]

theorem filter_eq_singleton {writes : List τ} (nodup : writes.Nodup) {write : τ}
    (member : write ∈ writes) {test : τ → Bool}
    (only : ∀ other ∈ writes, test other = true ↔ other = write) :
    writes.filter test = [write] := by
  apply List.perm_singleton.mp
  refine (List.perm_ext_iff_of_nodup (nodup.filter test)
    (List.nodup_singleton write)).mpr ?_
  intro other
  rw [List.mem_filter, List.mem_singleton]
  constructor
  · intro both
    rcases both with ⟨otherMember, passes⟩
    exact (only other otherMember).mp passes
  · intro same
    subst same
    exact ⟨member, (only other member).mpr rfl⟩

section Nest

variable {σ : Type} {a b c : Nat} {body : Fin a → Fin b → Fin c → σ → σ}
  (field : σ → Cells κ α)
  (key : Fin a × Fin b × Fin c → κ) (item : Fin a × Fin b × Fin c → α)

theorem field_nest (adds : ∀ i j h state,
      field (body i j h state) = (field state).add (key (i, j, h)) (item (i, j, h)))
    (state : σ) :
    field (forEach a (fun i => forEach b fun j => forEach c fun h => body i j h) state) =
      (iterations a b c).foldl (fun cells it => cells.add (key it) (item it))
        (field state) := by
  rw [forEach_nest]
  symm
  apply List.foldl_hom field
  intro state index
  rcases index with ⟨i, j, h⟩
  exact (adds i j h state).symm

/-- A cell that one iteration writes. -/
theorem cell_of_unique (adds : ∀ i j h state,
      field (body i j h state) = (field state).add (key (i, j, h)) (item (i, j, h)))
    (state : σ) (it : Fin a × Fin b × Fin c)
    (unique : ∀ other, key other = key it → other = it) :
    field (forEach a (fun i => forEach b fun j => forEach c fun h => body i j h) state)
      (key it) = field state (key it) ++ [item it] := by
  have written : (iterations a b c).filter (fun other => key other = key it) = [it] := by
    apply filter_eq_singleton (nodup_iterations a b c) (mem_iterations it)
    intro other _
    rw [decide_eq_true_iff]
    exact ⟨unique other, fun same => same ▸ rfl⟩
  rw [field_nest field key item adds, foldl_add, written]
  rfl

/-- A cell that no iteration writes. -/
theorem cell_of_none (adds : ∀ i j h state,
      field (body i j h state) = (field state).add (key (i, j, h)) (item (i, j, h)))
    (state : σ) (cell : κ) (untouched : ∀ it, key it ≠ cell) :
    field (forEach a (fun i => forEach b fun j => forEach c fun h => body i j h) state)
      cell = field state cell := by
  rw [field_nest field key item adds, foldl_add, List.filter_eq_nil_iff.mpr, List.map_nil,
    List.append_nil]
  intro it _
  simpa using untouched it

end Nest

end Cells

/-- A loop nest that never writes an array. -/
theorem field_of_untouched {κ α σ : Type} {a b c : Nat}
    {body : Fin a → Fin b → Fin c → σ → σ} (field : σ → Cells κ α)
    (keeps : ∀ i j h state, field (body i j h state) = field state) (state : σ) :
    field (forEach a (fun i => forEach b fun j => forEach c fun h => body i j h) state) =
      field state := by
  rw [forEach_nest]
  induction iterations a b c generalizing state with
  | nil => rfl
  | cons it rest induction => rw [List.foldl_cons, induction, keeps]

/-- A counted loop whose iterations may fail, with an invariant that says how far
it is. -/
theorem exists_foldlM_range {σ : Type} {body : σ → Nat → Option σ}
    (Invariant : Nat → σ → Prop) {count : Nat}
    (continues : ∀ i state, i < count → Invariant i state →
      ∃ next, body state i = some next ∧ Invariant (i + 1) next)
    {start : σ} (holds : Invariant 0 start) :
    ∃ final, (List.range count).foldlM body start = some final ∧
      Invariant count final := by
  induction count with
  | zero => exact ⟨start, rfl, holds⟩
  | succ count induction =>
      rcases induction fun i state small =>
        continues i state (Nat.lt_succ_of_lt small) with
        ⟨middle, ran, holdsMiddle⟩
      rcases continues count middle (Nat.lt_succ_self count) holdsMiddle with
        ⟨final, last, holdsFinal⟩
      refine ⟨final, ?_, holdsFinal⟩
      rw [List.range_succ, List.foldlM_append, ran]
      simp [last]

/-- A counted loop each of whose iterations collects a block. -/
theorem exists_foldlM_collect {σ α : Type} {body : σ → Nat → Option σ}
    (collected : σ → List α) (block : Nat → List α) {count : Nat}
    (adds : ∀ i < count, ∀ state, ∃ next, body state i = some next ∧
      collected next = collected state ++ block i) (start : σ) :
    ∃ final, (List.range count).foldlM body start = some final ∧
      collected final = collected start ++ (List.range count).flatMap block := by
  apply exists_foldlM_range fun i state =>
    collected state = collected start ++ (List.range i).flatMap block
  · intro i state small soFar
    rcases adds i small state with ⟨next, ran, added⟩
    refine ⟨next, ran, ?_⟩
    rw [added, soFar, List.range_succ, List.flatMap_append, List.flatMap_singleton,
      List.append_assoc]
  · simp

/-- Items that are made one after another, each of them from where the one before it
ended. -/
inductive MadeInTurn {α : Type} (Made : Nat → α → Nat → Prop) : List α → Nat → Prop
  | nil : MadeInTurn Made [] 0
  | concat {items : List α} {position next : Nat} {item : α}
      (before : MadeInTurn Made items position) (made : Made position item next) :
      MadeInTurn Made (items ++ [item]) next

theorem MadeInTurn.forall_mem {α : Type} {Made : Nat → α → Nat → Prop} {Good : α → Prop}
    (good : ∀ position item next, Made position item next → Good item) {items : List α}
    {last : Nat} (inTurn : MadeInTurn Made items last) : ∀ item ∈ items, Good item := by
  induction inTurn with
  | nil =>
      intro item member
      cases member
  | concat _ made induction =>
      intro item member
      rcases List.mem_append.mp member with earlier | last
      · exact induction item earlier
      · rw [List.mem_singleton.mp last]
        exact good _ _ _ made

theorem foldlM_mono {σ β : Type} {body : Nat → σ → β → Option σ}
    (mono : ∀ fuel more state i next, fuel ≤ more → body fuel state i = some next →
      body more state i = some next) {steps : List β} {fuel more : Nat} (enough :
        fuel ≤ more)
    {start final : σ} (ran : steps.foldlM (body fuel) start = some final) :
    steps.foldlM (body more) start = some final := by
  induction steps generalizing start with
  | nil => exact ran
  | cons i steps induction =>
      rw [List.foldlM_cons] at ran ⊢
      rcases Option.bind_eq_some_iff.mp ran with ⟨next, first, rest⟩
      rw [mono _ _ _ _ _ enough first]
      exact induction rest

/-- A counted loop that makes one item each time, with an inner loop that needs fuel,
makes the items in turn: it can be run to its end exactly if they can all be made. -/
theorem exists_foldlM_iff {α : Type}
    {body : Nat → List α × Nat → Nat → Option (List α × Nat)}
    {Made : Nat → α → Nat → Prop}
    (turn : ∀ items position i next, (∃ fuel, body fuel (items, position) i = some next) ↔
      ∃ item, next.1 = items ++ [item] ∧ Made position item next.2)
    (mono : ∀ fuel more state i next, fuel ≤ more → body fuel state i = some next →
      body more state i = some next) {count : Nat} {final : List α × Nat} :
    (∃ fuel, (List.range count).foldlM (body fuel) ([], 0) = some final) ↔
      final.1.length = count ∧ MadeInTurn Made final.1 final.2 := by
  induction count generalizing final with
  | zero =>
      constructor
      · intro ran
        rcases ran with ⟨fuel, ran⟩
        cases ran
        exact ⟨rfl, .nil⟩
      · intro made
        rcases final with ⟨items, last⟩
        rcases made with ⟨empty, inTurn⟩
        cases List.length_eq_zero_iff.mp empty
        generalize noItems : ([] : List α) = items at inTurn
        cases inTurn with
        | nil => exact ⟨0, rfl⟩
        | concat => simp at noItems
  | succ count induction =>
      constructor
      · intro ran
        rcases ran with ⟨fuel, ran⟩
        rw [List.range_succ, List.foldlM_append] at ran
        rcases Option.bind_eq_some_iff.mp ran with ⟨middle, before, last⟩
        rcases induction.mp ⟨fuel, before⟩ with ⟨number, inTurn⟩
        rw [List.foldlM_cons] at last
        rcases Option.bind_eq_some_iff.mp last with ⟨next, made, ended⟩
        cases ended
        rcases (turn _ _ _ _).mp ⟨fuel, made⟩ with ⟨item, added, made⟩
        rw [added, List.length_append, number]
        exact ⟨rfl, .concat inTurn made⟩
      · intro made
        rcases final with ⟨items, last⟩
        rcases made with ⟨number, inTurn⟩
        cases inTurn with
        | nil => cases number
        | @concat items position _ item before made =>
            have fewer : items.length = count := by simpa using number
            rcases induction.mpr (show (items, position).1.length = count ∧ _ from
              ⟨fewer, before⟩) with ⟨fuel, ran⟩
            rcases (turn items position count _).mpr ⟨item, rfl, made⟩ with ⟨more, added⟩
            refine ⟨max fuel more, ?_⟩
            rw [List.range_succ, List.foldlM_append,
              foldlM_mono mono (Nat.le_max_left fuel more) ran]
            simp [mono _ _ _ _ _ (Nat.le_max_right fuel more) added]

/-- Blocks whose items show which block they are from. -/
theorem nodup_flatMap_of_owner {α β : Type} {list : List α} (nodup : list.Nodup)
    {block : α → List β} (owner : β → α) (blocks : ∀ key ∈ list, (block key).Nodup)
    (owned : ∀ key ∈ list, ∀ item ∈ block key, owner item = key) :
    (list.flatMap block).Nodup := by
  rw [List.nodup_flatMap]
  refine ⟨blocks, ?_⟩
  apply nodup.pairwise_of_forall_ne
  intro key member other otherMember different item itemMember itemOther
  apply different
  rw [← owned key member item itemMember, owned other otherMember item itemOther]

/-- A loop that appends one item each time lists the items. -/
theorem forEach_append {α : Type} {count : Nat} {items : Fin count → List α}
    {item : Fin count → α} (single : ∀ i, items i = [item i]) (start : List α) :
    forEach count (fun i listed => listed ++ items i) start =
      start ++ (List.finRange count).map item := by
  rw [forEach]
  induction List.finRange count generalizing start with
  | nil => simp
  | cons i rest induction =>
      rw [List.foldl_cons, induction]
      simp [single]

end DataCenter
