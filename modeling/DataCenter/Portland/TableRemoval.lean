import DataCenter.Foundation.Loop
import DataCenter.Portland.PmacTable

/-! # Removal from a PMAC table

`Remove` looks for the entry of an AMAC like the searches of the table, but its
loop has no `it++`. -/

namespace DataCenter.Portland.PMACTable

open Std OrderedMap

/-- One turn of the loop of `Remove`: the iterator, as the rest of the map, stays where
it is unless the entry has the AMAC. -/
def removeTurn (amac : Mac48Address) :
    List (Mac48Address × PMACEntry) →
      Turn (List (Mac48Address × PMACEntry)) (Option (Mac48Address × PMACEntry))
  | [] => .leave none
  | element :: rest =>
      if element.2.amac = amac then .leave (some element) else .again (element :: rest)

/-- `none` if the loop has not ended within the fuel. -/
def remove (table : PMACTable) (amac : Mac48Address) (fuel : Nat) : Option PMACTable := do
  let found ← loop (removeTurn amac) fuel table.mapping.toList
  match found with
  | some (key, _) => return { mapping := table.mapping.erase key }
  | none => return table

/-- What `Remove` is to leave behind. -/
structure RemovesFirst (table : PMACTable) (amac : Mac48Address) (after : PMACTable) :
    Prop where
  /-- Without an entry of the AMAC the table stays as it is. -/
  absent : (∀ (key : Mac48Address) (entry : PMACEntry),
    table.mapping[key]? = some entry → entry.amac ≠ amac) → after = table
  /-- Otherwise the first such entry is gone, and no other. -/
  present : ∀ (key : Mac48Address) (entry : PMACEntry),
    table.mapping[key]? = some entry → entry.amac = amac →
    (∀ (other : Mac48Address) (found : PMACEntry), table.mapping[other]? = some found →
      compare other key = .lt → found.amac ≠ amac) →
    after.mapping[key]? = none ∧
      ∀ other : Mac48Address, other ≠ key → after.mapping[other]? = table.mapping[other]?
  /-- If it was the only one, the AMAC is unknown. -/
  unknown : ∀ (key : Mac48Address) (entry : PMACEntry),
    table.mapping[key]? = some entry → entry.amac = amac →
    (∀ (other : Mac48Address) (found : PMACEntry), table.mapping[other]? = some found →
      found.amac = amac → other = key) →
    after.findPMACOfAmac amac = .getBroadcast

variable {table : PMACTable} {amac : Mac48Address}

theorem getElem?_erase (table : PMACTable) (key other : Mac48Address) :
    (table.mapping.erase key)[other]? = if key = other then none
      else table.mapping[other]? := by
  simp [ExtTreeMap.getElem?_erase]

theorem removesFirst_of_absent
    (missing : scan table.mapping (fun entry => entry.amac = amac) =
    none) : table.RemovesFirst amac table := by
  have rejected := scan_eq_none_iff.mp missing
  have elsewhere : ∀ (key : Mac48Address) (entry : PMACEntry),
      table.mapping[key]? = some entry → entry.amac ≠ amac := by
    intro key entry stored
    simpa using rejected key entry stored
  constructor
  · intro _
    rfl
  · intro key entry stored sameAmac
    exact absurd sameAmac (elsewhere key entry stored)
  · intro key entry stored sameAmac
    exact absurd sameAmac (elsewhere key entry stored)

/-- Erasing the entry that a scan finds is what `Remove` is for. -/
theorem removesFirst_of_scan {key : Mac48Address} {entry : PMACEntry}
    (found : scan table.mapping (fun entry => entry.amac = amac) = some (key, entry)) :
    table.RemovesFirst amac { mapping := table.mapping.erase key } := by
  rcases scan_eq_some_iff.mp found with ⟨stored, holds, least⟩
  have sameAmac : entry.amac = amac := by simpa using holds
  constructor
  · intro absent
    exact absurd sameAmac (absent key entry stored)
  · intro first value firstStored firstAmac firstLeast
    have same : first = key := by
      have again := scan_eq_some_iff.mpr ⟨firstStored, decide_eq_true firstAmac,
        fun other value otherStored smaller =>
          decide_eq_false (firstLeast other value otherStored smaller)⟩
      rw [found] at again
      exact (congrArg Prod.fst (Option.some.inj again)).symm
    subst same
    constructor
    · simp
    · intro other different
      simp [getElem?_erase, different.symm]
  · intro only value onlyStored onlyAmac unique
    have same : key = only := unique key entry stored sameAmac
    subst same
    rcases findPMACOfAmac_cases { mapping := table.mapping.erase key } amac with
      ⟨left, leftStored, leftAmac⟩ | ⟨unknown, -⟩
    · rw [getElem?_erase] at leftStored
      split at leftStored
      · cases leftStored
      · next different => exact absurd (unique _ left leftStored leftAmac).symm different
    · exact unknown

/-- `Remove` ends, and does what it is for, exactly on the tables that are empty or
whose first entry has the AMAC. -/
theorem remove_removesFirst_iff (table : PMACTable) (amac : Mac48Address) :
    (∃ fuel after, table.remove amac fuel = some after ∧ table.RemovesFirst amac after) ↔
      ∀ first ∈ table.mapping.toList.head?, first.2.amac = amac := by
  constructor
  · intro removes first isFirst
    rcases removes with ⟨fuel, after, removed, -⟩
    by_contra different
    have stuck : loop (removeTurn amac) fuel table.mapping.toList = none := by
      apply loop_eq_none_of_stuck fun rest => rest = table.mapping.toList
      · intro rest same
        refine ⟨rest, ?_, same⟩
        rw [same, ← List.cons_head?_tail isFirst]
        exact if_neg different
      · rfl
    rw [remove, stuck] at removed
    cases removed
  · intro first
    cases listed : table.mapping.toList with
    | nil =>
        have missing : scan table.mapping (fun entry => entry.amac = amac) = none := by
          rw [scan, listed]
          rfl
        refine ⟨1, table, ?_, removesFirst_of_absent missing⟩
        rw [remove, listed]
        rfl
    | cons element rest =>
        have sameAmac : element.2.amac = amac := first element (by simp [listed])
        have found :
            scan table.mapping (fun entry => entry.amac = amac) = some element := by
          rw [scan, listed]
          exact List.find?_cons_of_pos (decide_eq_true sameAmac)
        have left : removeTurn amac (element :: rest) = .leave (some element) :=
          if_pos sameAmac
        refine ⟨1, _, ?_, removesFirst_of_scan found⟩
        rw [remove, listed, loop_succ_of_leave left]
        rfl

/-- Two hosts, the second of which is to be removed. -/
theorem remove_second_never_ends :
    let table :=
      (({} : PMACTable).add ⟨0, 0, 0, 0, 0, 1⟩ ⟨2, 0, 0, 0, 0, 1⟩ ⟨0x0a010001⟩ 0).add
      ⟨0, 0, 0, 1, 0, 1⟩ ⟨2, 0, 0, 0, 0, 2⟩ ⟨0x0a010002⟩ 1
    table.findPMACOfAmac ⟨2, 0, 0, 0, 0, 2⟩ = ⟨0, 0, 0, 1, 0, 1⟩ ∧
      ∀ fuel, table.remove ⟨2, 0, 0, 0, 0, 2⟩ fuel = none := by
  intro table
  have goesOn : removeTurn ⟨2, 0, 0, 0, 0, 2⟩ table.mapping.toList =
      .again table.mapping.toList := by decide
  refine ⟨by decide, ?_⟩
  intro fuel
  have stuck : loop (removeTurn ⟨2, 0, 0, 0, 0, 2⟩) fuel table.mapping.toList = none := by
    apply loop_eq_none_of_stuck fun rest => rest = table.mapping.toList
    · intro rest same
      exact ⟨rest, by rw [same, goesOn], same⟩
    · rfl
  rw [remove, stuck]
  rfl

end DataCenter.Portland.PMACTable
