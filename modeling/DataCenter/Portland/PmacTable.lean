import DataCenter.Foundation.OrderedMap
import DataCenter.Header

/-! # The PMAC table of a switch

`PMACTable` maps a pseudo MAC address (PMAC) to the actual address (AMAC), the
IP address and the port of the host behind it.  Only the PMAC is a key: the
searches by AMAC and by IP address walk the map in key order. -/

namespace DataCenter.Portland

open Std OrderedMap

structure PMACEntry where
  pmac : Mac48Address
  amac : Mac48Address
  ipAddress : Ipv4Address
  port : UInt8
  deriving DecidableEq, Repr

structure PMACTable where
  mapping : ExtTreeMap Mac48Address PMACEntry compare := ∅

namespace PMACTable

/-- `mapping.insert`, which leaves an existing entry of the key alone. -/
def add (table : PMACTable) (pmac amac : Mac48Address) (ipAddress : Ipv4Address)
    (port : UInt32) : PMACTable where
  mapping :=
    table.mapping.insertIfNew pmac { pmac, amac, ipAddress, port := port.toUInt8 }

/-- `Add` of the four fields of an entry. -/
def record (table : PMACTable) (entry : PMACEntry) : PMACTable :=
  table.add entry.pmac entry.amac entry.ipAddress entry.port.toUInt32

def findPortOfPmac (table : PMACTable) (pmac : Mac48Address) : Int :=
  match table.mapping[pmac]? with
  | some entry => entry.port.toNat
  | none => -1

def findPortOfIp (table : PMACTable) (ipAddress : Ipv4Address) : Int :=
  match scan table.mapping fun entry => entry.ipAddress = ipAddress with
  | some (_, entry) => entry.port.toNat
  | none => -1

def findAMACOfPmac (table : PMACTable) (pmac : Mac48Address) : Mac48Address :=
  match table.mapping[pmac]? with
  | some entry => entry.amac
  | none => .getBroadcast

def findPMACOfAmac (table : PMACTable) (amac : Mac48Address) : Mac48Address :=
  match scan table.mapping fun entry => entry.amac = amac with
  | some (pmac, _) => pmac
  | none => .getBroadcast

def findPMACOfIp (table : PMACTable) (ipAddress : Ipv4Address) : Mac48Address :=
  match scan table.mapping fun entry => entry.ipAddress = ipAddress with
  | some (pmac, _) => pmac
  | none => .getBroadcast

/-- Some entry holds the IP address: the test that `GetSourcePMAC` and
`GetDestinationPMAC` make with `FindPort`. -/
def HoldsIp (table : PMACTable) (ipAddress : Ipv4Address) : Prop :=
  ∃ (pmac : Mac48Address) (entry : PMACEntry),
    table.mapping[pmac]? = some entry ∧ entry.ipAddress = ipAddress

theorem ext_getElem? {left right : PMACTable}
    (equal : ∀ pmac : Mac48Address, left.mapping[pmac]? = right.mapping[pmac]?) :
    left = right := by
  cases left
  cases right
  congr
  exact ExtTreeMap.ext_getElem? equal

/-- `Add` fills a free key and changes nothing else. -/
theorem getElem?_add (table : PMACTable) (pmac amac : Mac48Address)
    (ipAddress : Ipv4Address) (port : UInt32) (key : Mac48Address) :
    (table.add pmac amac ipAddress port).mapping[key]? =
      if pmac = key ∧ table.mapping[key]? = none then
        some { pmac, amac, ipAddress, port := port.toUInt8 }
      else table.mapping[key]? := by
  simp only [add, ExtTreeMap.getElem?_insertIfNew, LawfulEqOrd.compare_eq_iff_eq]
  by_cases same : pmac = key
  · subst same
    cases stored : table.mapping[pmac]? with
    | none =>
        have free : pmac ∉ table.mapping := by
          rw [ExtTreeMap.mem_iff_isSome_getElem?, stored]
          simp
        simp [free]
    | some entry =>
        have taken : pmac ∈ table.mapping := by
          rw [ExtTreeMap.mem_iff_isSome_getElem?, stored]
          rfl
        simp [taken]
  · simp [same]

theorem getElem?_record (table : PMACTable) (entry : PMACEntry) (key : Mac48Address) :
    (table.record entry).mapping[key]? =
      if entry.pmac = key ∧ table.mapping[key]? = none then some entry
      else table.mapping[key]? := by
  simp [record, getElem?_add]

theorem getElem?_record_of_getElem? {table : PMACTable} {key : Mac48Address}
    {stored : PMACEntry} (present : table.mapping[key]? = some stored)
    (entry : PMACEntry) :
    (table.record entry).mapping[key]? = some stored := by
  simp [getElem?_record, present]

/-- After `Add` the key is taken, if not by the new entry then by the old one. -/
theorem exists_getElem?_record (table : PMACTable) (entry : PMACEntry) :
    ∃ stored, (table.record entry).mapping[entry.pmac]? = some stored := by
  rw [getElem?_record]
  cases present : table.mapping[entry.pmac]? with
  | none => exact ⟨entry, by simp⟩
  | some stored => exact ⟨stored, by simp⟩

theorem findPortOfIp_eq_neg_one_iff (table : PMACTable) (ipAddress : Ipv4Address) :
    table.findPortOfIp ipAddress = -1 ↔ ¬ table.HoldsIp ipAddress := by
  rw [findPortOfIp, HoldsIp]
  split
  · next pmac entry found =>
      have stored := getElem?_of_scan found
      have sameIp : entry.ipAddress = ipAddress := by simpa using test_of_scan found
      constructor
      · intro negative
        omega
      · intro absent
        exact absurd ⟨pmac, entry, stored, sameIp⟩ absent
  · next missing =>
      have rejected := scan_eq_none_iff.mp missing
      constructor
      · intro _ known
        rcases known with ⟨pmac, entry, stored, sameIp⟩
        simpa [sameIp] using rejected pmac entry stored
      · intro _
        rfl

theorem findPortOfIp_ne_neg_one_iff (table : PMACTable) (ipAddress : Ipv4Address) :
    table.findPortOfIp ipAddress ≠ -1 ↔ table.HoldsIp ipAddress := by
  rw [Ne, findPortOfIp_eq_neg_one_iff, not_not]

theorem findAMACOfPmac_of_getElem? {table : PMACTable} {pmac : Mac48Address}
    {entry : PMACEntry} (stored : table.mapping[pmac]? = some entry) :
    table.findAMACOfPmac pmac = entry.amac := by
  simp [findAMACOfPmac, stored]

/-- An IP address that the table holds is translated to the key of one of the
entries that hold it. -/
theorem exists_of_holdsIp {table : PMACTable} {ipAddress : Ipv4Address}
    (holds : table.HoldsIp ipAddress) :
    ∃ entry : PMACEntry, table.mapping[table.findPMACOfIp ipAddress]? = some entry ∧
      entry.ipAddress = ipAddress := by
  rw [findPMACOfIp]
  split
  · next pmac entry found =>
      exact ⟨entry, getElem?_of_scan found, by simpa using test_of_scan found⟩
  · next missing =>
      rcases holds with ⟨pmac, entry, stored, sameIp⟩
      have rejected := scan_eq_none_iff.mp missing pmac entry stored
      simp [sameIp] at rejected

/-- An AMAC is translated to the key of an entry that holds it, or to the
broadcast address if no entry does. -/
theorem findPMACOfAmac_cases (table : PMACTable) (amac : Mac48Address) :
    (∃ entry : PMACEntry, table.mapping[table.findPMACOfAmac amac]? = some entry ∧
      entry.amac = amac) ∨
    (table.findPMACOfAmac amac = .getBroadcast ∧
      ∀ (pmac : Mac48Address) (entry : PMACEntry),
        table.mapping[pmac]? = some entry → entry.amac ≠ amac) := by
  rw [findPMACOfAmac]
  split
  · next pmac entry found =>
      exact .inl ⟨entry, getElem?_of_scan found, by simpa using test_of_scan found⟩
  · next missing =>
      refine .inr ⟨rfl, ?_⟩
      intro pmac entry stored sameAmac
      have rejected := scan_eq_none_iff.mp missing pmac entry stored
      simp [sameAmac] at rejected

/-- An AMAC that only one key holds is translated to that key. -/
theorem findPMACOfAmac_eq_of_unique {table : PMACTable} {amac pmac : Mac48Address}
    {entry : PMACEntry} (stored : table.mapping[pmac]? = some entry)
    (sameAmac : entry.amac = amac)
    (unique : ∀ (other : Mac48Address) (found : PMACEntry),
      table.mapping[other]? = some found → found.amac = amac → other = pmac) :
    table.findPMACOfAmac amac = pmac := by
  have found := scan_eq_some_of_unique (fun entry => entry.amac = amac) stored
    (by simpa using sameAmac) (by simpa using unique)
  simp [findPMACOfAmac, found]

/-- An AMAC is translated to the least of the keys that hold it. -/
theorem findPMACOfAmac_eq_iff {table : PMACTable} {amac pmac : Mac48Address}
    (unicast : pmac ≠ .getBroadcast) :
    table.findPMACOfAmac amac = pmac ↔
      (∃ entry : PMACEntry, table.mapping[pmac]? = some entry ∧ entry.amac = amac) ∧
        ∀ (other : Mac48Address) (found : PMACEntry), table.mapping[other]? = some found →
          compare other pmac = .lt → found.amac ≠ amac := by
  rw [findPMACOfAmac]
  constructor
  · intro translated
    split at translated
    · next key entry found =>
        subst translated
        rcases scan_eq_some_iff.mp found with ⟨stored, holds, least⟩
        refine ⟨⟨entry, stored, by simpa using holds⟩, ?_⟩
        intro other value otherStored smaller
        simpa using least other value otherStored smaller
    · exact absurd translated.symm unicast
  · intro first
    rcases first with ⟨⟨entry, stored, holds⟩, least⟩
    have found :
        scan table.mapping (fun entry => entry.amac = amac) = some (pmac, entry) := by
      apply scan_eq_some_iff.mpr
      refine ⟨stored, by simpa using holds, ?_⟩
      intro other value otherStored smaller
      simpa using least other value otherStored smaller
    rw [found]

end PMACTable

end DataCenter.Portland
