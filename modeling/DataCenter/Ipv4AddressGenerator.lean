import DataCenter.Foundation.Run
import DataCenter.Ipv4AddressHelper

/-! # Allocated addresses

`Ipv4AddressGenerator`, which hands out addresses and notes the ones that are
taken in a list of blocks. -/

namespace DataCenter

/-- A block of addresses that are taken. -/
structure Entry where
  addrLow : UInt32
  addrHigh : UInt32
  deriving DecidableEq, Repr

/-- The next network and the next address for the masks of one length. -/
structure NetworkState where
  shift : UInt32
  network : UInt32 := 1
  addr : UInt32 := 1
  addrMax : UInt32
  deriving DecidableEq, Repr

structure Ipv4AddressGenerator where
  netTable : List NetworkState
  entries : List Entry := []
  test : Bool := false
  deriving DecidableEq, Repr

namespace Ipv4AddressGenerator

/-! ## The class -/

/-- The loop of `Reset`, from index `i` on. -/
def resetFrom (i mask : UInt32) : Nat → List NetworkState
  | 0 => []
  | count + 1 =>
      let mask := mask >>> 1 ||| 0x80000000
      { shift := 32 - i, addrMax := ~~~ mask } :: resetFrom (i + 1) mask count

def reset : Ipv4AddressGenerator where
  netTable := resetFrom 0 0 32

/-- The loop of `MaskToIndex`, for the bits from `i` on; `none` if it aborts. -/
def maskToIndexFrom (maskBits i : UInt32) : Nat → Option Nat
  | 0 => none
  | count + 1 =>
      if maskBits &&& 1 ≠ 0 then
        if 0 < 32 - i ∧ 32 - i < 32 then some (32 - i).toNat else none
      else maskToIndexFrom (maskBits >>> 1) (i + 1) count

def maskToIndex (mask : Ipv4Address) : Option Nat := maskToIndexFrom mask.address 0 32

/-- The loop of `AddAllocated`; `none` if there is a collision. -/
def addAllocatedFrom (addr : UInt32) : List Entry → Option (List Entry)
  | [] => some [⟨addr, addr⟩]
  | i :: rest =>
      if addr ≥ i.addrLow ∧ addr ≤ i.addrHigh then none
      else if addr < i.addrLow - 1 then some (⟨addr, addr⟩ :: i :: rest)
      else if addr = i.addrHigh + 1 then
        if (rest.head?.map Entry.addrLow) = some addr then none
        else some ({ i with addrHigh := addr } :: rest)
      else if addr = i.addrLow - 1 then some ({ i with addrLow := addr } :: rest)
      else (addAllocatedFrom addr rest).map (i :: ·)

/-- `AddAllocated`; `none` if the program ends. -/
def addAllocated (generator : Ipv4AddressGenerator) (address : Ipv4Address) :
    Option (Bool × Ipv4AddressGenerator) :=
  if address.address = 0 then none
  else
    match addAllocatedFrom address.address generator.entries with
    | some entries => some (true, { generator with entries })
    | none => if generator.test then some (false, generator) else none

/-- `Init`; `none` if it aborts. -/
def init (generator : Ipv4AddressGenerator) (net mask addr : Ipv4Address) :
    Option Ipv4AddressGenerator := do
  guard (net.address &&& ~~~ mask.address = 0)
  guard (addr.address &&& mask.address = 0)
  let index ← maskToIndex mask
  let state ← generator.netTable[index]?
  guard (addr.address ≤ state.addrMax)
  return { generator with
    netTable := generator.netTable.set index
      { state with network := net.address >>> state.shift, addr := addr.address } }

/-- `NextNetwork` -/
def nextNetwork (generator : Ipv4AddressGenerator) (mask : Ipv4Address) :
    Option (Ipv4Address × Ipv4AddressGenerator) := do
  let index ← maskToIndex mask
  let state ← generator.netTable[index]?
  return (⟨(state.network + 1) <<< state.shift⟩, { generator with
    netTable :=
      generator.netTable.set index { state with network := state.network + 1 } })

/-- `InitAddress` -/
def initAddress (generator : Ipv4AddressGenerator) (addr mask : Ipv4Address) :
    Option Ipv4AddressGenerator := do
  let index ← maskToIndex mask
  let state ← generator.netTable[index]?
  guard (addr.address ≤ state.addrMax)
  return { generator with
    netTable := generator.netTable.set index { state with addr := addr.address } }

/-- `NextAddress`, which does not look at what `AddAllocated` returns. -/
def nextAddress (generator : Ipv4AddressGenerator) (mask : Ipv4Address) :
    Option (Ipv4Address × Bool × Ipv4AddressGenerator) := do
  let index ← maskToIndex mask
  let state ← generator.netTable[index]?
  guard (state.addr ≤ state.addrMax)
  let addr : Ipv4Address := ⟨state.network <<< state.shift ||| state.addr⟩
  let (added, generator) ← addAllocated { generator with
    netTable := generator.netTable.set index { state with addr := state.addr + 1 } } addr
  return (addr, added, generator)

/-! ## The blocks -/

/-- The address is in a block. -/
def Taken (entries : List Entry) (addr : UInt32) : Prop :=
  ∃ entry ∈ entries, entry.addrLow ≤ addr ∧ addr ≤ entry.addrHigh

theorem taken_cons {entry : Entry} {rest : List Entry} {addr : UInt32} :
    Taken (entry :: rest) addr ↔
      entry.addrLow ≤ addr ∧ addr ≤ entry.addrHigh ∨ Taken rest addr := by
  simp [Taken]

theorem not_taken_nil (addr : UInt32) : ¬ Taken [] addr := by
  simp [Taken]

/-- The blocks are in order and do not overlap.  They may touch. -/
structure Ordered (entries : List Entry) : Prop where
  blocks : ∀ entry ∈ entries, 0 < entry.addrLow.toNat ∧
    entry.addrLow.toNat ≤ entry.addrHigh.toNat
  apart : entries.Pairwise fun entry later => entry.addrHigh.toNat < later.addrLow.toNat

section Blocks

variable {entry : Entry} {rest entries next : List Entry} {addr other : UInt32}

theorem ordered_nil : Ordered [] := ⟨by simp, List.Pairwise.nil⟩

theorem ordered_cons : Ordered (entry :: rest) ↔
    (0 < entry.addrLow.toNat ∧ entry.addrLow.toNat ≤ entry.addrHigh.toNat) ∧
      (∀ later ∈ rest, entry.addrHigh.toNat < later.addrLow.toNat) ∧ Ordered rest := by
  constructor
  · intro ordered
    rcases List.pairwise_cons.mp ordered.apart with ⟨before, apart⟩
    exact ⟨ordered.blocks entry List.mem_cons_self, before,
      fun later member => ordered.blocks later (List.mem_cons_of_mem _ member), apart⟩
  · intro ordered
    rcases ordered with ⟨block, before, rest⟩
    exact ⟨List.forall_mem_cons.mpr ⟨block, rest.blocks⟩,
      List.pairwise_cons.mpr ⟨before, rest.apart⟩⟩

/-- If all blocks start after an address, all that they hold comes after it. -/
theorem Ordered.lt_iff (ordered : Ordered entries) {bound : Nat} :
    (∀ later ∈ entries, bound < later.addrLow.toNat) ↔
      ∀ addr, Taken entries addr → bound < addr.toNat := by
  constructor
  · intro after addr taken
    rcases taken with ⟨later, member, low, -⟩
    exact (after later member).trans_le (UInt32.le_iff_toNat_le.mp low)
  · intro after later member
    have block := (ordered.blocks later member).2
    exact after later.addrLow
      ⟨later, member, UInt32.le_refl _, UInt32.le_iff_toNat_le.mpr block⟩

theorem toNat_sub_one (positive : 0 < other.toNat) :
    (other - 1).toNat + 1 = other.toNat := by
  have one : (1 : UInt32) ≤ other := UInt32.le_iff_toNat_le.mpr positive
  rw [UInt32.toNat_sub_of_le _ _ one, UInt32.toNat_one]
  omega

theorem eq_add_one_iff (some : addr ≠ 0) : addr = other + 1 ↔
    addr.toNat = other.toNat + 1 := by
  have positive : addr.toNat ≠ 0 := fun zero => some (UInt32.toNat_inj.mp zero)
  have small := addr.toNat_lt
  have bound := other.toNat_lt
  rw [← UInt32.toNat_inj, UInt32.toNat_add, UInt32.toNat_one]
  omega

/-- The first block starts where a later block could start at the earliest. -/
theorem Ordered.lt_of_head (ordered : Ordered rest) {bound : Nat}
    (after : ∀ later ∈ rest, bound < later.addrLow.toNat) (next : addr.toNat = bound + 1)
    (free : rest.head?.map Entry.addrLow ≠ some addr) :
    ∀ later ∈ rest, addr.toNat < later.addrLow.toNat := by
  cases rest with
  | nil => simp
  | cons first rest =>
      rcases ordered_cons.mp ordered with ⟨block, before, -⟩
      have firstAfter := after first List.mem_cons_self
      have differs : first.addrLow.toNat ≠ addr.toNat := by
        intro same
        exact free (congrArg some (UInt32.toNat_inj.mp same))
      intro later member
      rcases List.mem_cons.mp member with rfl | inRest
      · omega
      · have more := before later inRest
        omega

/-- The loop finds a collision exactly if the address is taken.  Else it takes the
address. -/
theorem addAllocatedFrom_spec (ordered : Ordered entries) (notZero : addr ≠ 0) :
    (Taken entries addr ∧ addAllocatedFrom addr entries = none) ∨
      ∃ next, ¬ Taken entries addr ∧ addAllocatedFrom addr entries = some next ∧
        Ordered next ∧
        ∀ other, Taken next other ↔ other = addr ∨ Taken entries other := by
  have positive : addr.toNat ≠ 0 := fun zero => notZero (UInt32.toNat_inj.mp zero)
  have single (other : UInt32) : addr ≤ other ∧ other ≤ addr ↔ other = addr := by
    rw [UInt32.le_iff_toNat_le, UInt32.le_iff_toNat_le, ← UInt32.toNat_inj]
    omega
  induction entries with
  | nil =>
      refine .inr ⟨[⟨addr, addr⟩], not_taken_nil addr, rfl, ?_, ?_⟩
      · exact ordered_cons.mpr
          ⟨⟨Nat.pos_of_ne_zero positive, le_rfl⟩, by simp, ordered_nil⟩
      · intro other
        rw [taken_cons, single]
  | cons i rest induction =>
      rcases ordered_cons.mp ordered with ⟨block, before, restOrdered⟩
      have later := restOrdered.lt_iff.mp before
      have lower := toNat_sub_one block.1
      have fresh (outside : ¬ (addr ≥ i.addrLow ∧ addr ≤ i.addrHigh))
          (apart : ∀ later ∈ rest, addr.toNat < later.addrLow.toNat) :
          ¬ Taken (i :: rest) addr := by
        rw [taken_cons]
        intro taken
        rcases taken with here | inRest
        · exact outside here
        · exact lt_irrefl _ (restOrdered.lt_iff.mp apart addr inRest)
      rw [addAllocatedFrom]
      by_cases inside : addr ≥ i.addrLow ∧ addr ≤ i.addrHigh
      · exact .inl ⟨taken_cons.mpr (.inl inside), if_pos inside⟩
      · rw [if_neg inside]
        by_cases below : addr < i.addrLow - 1
        · have less := UInt32.lt_iff_toNat_lt.mp below
          have apart : ∀ later ∈ rest, addr.toNat < later.addrLow.toNat := by
            intro later member
            have more := before later member
            omega
          refine .inr ⟨⟨addr, addr⟩ :: i :: rest, fresh inside apart, if_pos below,
            ?_, ?_⟩
          · refine ordered_cons.mpr ⟨⟨Nat.pos_of_ne_zero positive, le_rfl⟩, ?_, ordered⟩
            exact List.forall_mem_cons.mpr ⟨by simp only; omega, apart⟩
          · intro other
            rw [taken_cons, single]
        · rw [if_neg below]
          have notLess := UInt32.lt_iff_toNat_lt.not.mp below
          by_cases above : addr = i.addrHigh + 1
          · have next := (eq_add_one_iff notZero).mp above
            rw [if_pos above]
            by_cases collision : rest.head?.map Entry.addrLow = some addr
            · rcases Option.map_eq_some_iff.mp collision with ⟨first, isFirst, low⟩
              have member := List.mem_of_head? isFirst
              have high := (restOrdered.blocks first member).2
              refine .inl
                ⟨taken_cons.mpr (.inr ⟨first, member, ?_, ?_⟩), if_pos collision⟩
              · rw [low]
                exact UInt32.le_refl _
              · rw [← low]
                exact UInt32.le_iff_toNat_le.mpr high
            · have apart := restOrdered.lt_of_head before next collision
              refine .inr ⟨{ i with addrHigh := addr } :: rest, fresh inside apart,
                if_neg collision, ordered_cons.mpr ⟨⟨block.1, by simp only; omega⟩, apart,
                  restOrdered⟩, ?_⟩
              intro other
              rw [taken_cons, taken_cons, ← or_assoc]
              apply or_congr_left
              simp only [UInt32.le_iff_toNat_le, ← UInt32.toNat_inj]
              omega
          · rw [if_neg above]
            have notNext := (eq_add_one_iff notZero).not.mp above
            by_cases adjacent : addr = i.addrLow - 1
            · have same := congrArg UInt32.toNat adjacent
              have apart : ∀ later ∈ rest, addr.toNat < later.addrLow.toNat := by
                intro later member
                have more := before later member
                omega
              refine .inr ⟨{ i with addrLow := addr } :: rest, fresh inside apart,
                if_pos adjacent,
                  ordered_cons.mpr ⟨⟨by simp only; omega, by simp only; omega⟩,
                  before, restOrdered⟩, ?_⟩
              intro other
              rw [taken_cons, taken_cons, ← or_assoc]
              apply or_congr_left
              simp only [UInt32.le_iff_toNat_le, ← UInt32.toNat_inj]
              omega
            · rw [if_neg adjacent]
              have notSame : addr.toNat ≠ (i.addrLow - 1).toNat :=
                fun same => adjacent (UInt32.toNat_inj.mp same)
              have outside :
                  ¬ (i.addrLow.toNat ≤ addr.toNat ∧ addr.toNat ≤ i.addrHigh.toNat) := by
                intro both
                exact inside
                  ⟨UInt32.le_iff_toNat_le.mpr both.1, UInt32.le_iff_toNat_le.mpr both.2⟩
              rcases induction restOrdered with
                ⟨taken, none⟩ | ⟨next, free, added, nextOrdered, all⟩
              · exact .inl ⟨taken_cons.mpr (.inr taken), by rw [none, Option.map_none]⟩
              · refine .inr ⟨i :: next, ?_, by rw [added, Option.map_some], ?_, ?_⟩
                · rw [taken_cons]
                  intro taken
                  exact taken.elim inside free
                · refine ordered_cons.mpr ⟨block, nextOrdered.lt_iff.mpr ?_, nextOrdered⟩
                  intro other taken
                  rcases (all other).mp taken with rfl | inRest
                  · omega
                  · exact later other inRest
                · intro other
                  rw [taken_cons, taken_cons, all, or_left_comm]

end Blocks

/-! ## Runs -/

inductive Operation where
  | reset
  | init (net mask addr : Ipv4Address)
  | nextNetwork (mask : Ipv4Address)
  | initAddress (addr mask : Ipv4Address)
  | nextAddress (mask : Ipv4Address)
  | addAllocated (address : Ipv4Address)
  | testMode
  deriving DecidableEq, Repr

/-- A generator and the addresses that it took since it was reset. -/
structure History where
  generator : Ipv4AddressGenerator := reset
  taken : List Ipv4Address := []

def History.record (history : History) (address : Ipv4Address) (added : Bool)
    (generator : Ipv4AddressGenerator) : History where
  generator
  taken := if added then history.taken ++ [address] else history.taken

def step : PartialStep History Operation
  | _, .reset => some {}
  | history, .init net mask addr =>
      (history.generator.init net mask addr).map fun generator =>
        { history with generator }
  | history, .nextNetwork mask =>
      (history.generator.nextNetwork mask).map fun next =>
        { history with generator := next.2 }
  | history, .initAddress addr mask =>
      (history.generator.initAddress addr mask).map fun generator =>
        { history with generator }
  | history, .nextAddress mask =>
      (history.generator.nextAddress mask).map fun next =>
        history.record next.1 next.2.1 next.2.2
  | history, .addAllocated address =>
      (history.generator.addAllocated address).map fun next =>
        history.record address next.1 next.2
  | history, .testMode =>
      some { history with generator := { history.generator with test := true } }

/-- The blocks hold the addresses that were taken, each of them once. -/
structure Represents (history : History) : Prop where
  ordered : Ordered history.generator.entries
  nodup : history.taken.Nodup
  taken_iff : ∀ address, Taken history.generator.entries address.address ↔
    address ∈ history.taken

theorem represents_start : Represents {} where
  ordered := ordered_nil
  nodup := List.nodup_nil
  taken_iff address := by simp [Taken, reset]

section Runs

variable {history : History} {generator next : Ipv4AddressGenerator}
  {address : Ipv4Address} {added : Bool}

theorem Represents.of_entries (represents : Represents history)
    (same : generator.entries = history.generator.entries) :
    Represents { history with generator } where
  ordered := same ▸ represents.ordered
  nodup := represents.nodup
  taken_iff := same ▸ represents.taken_iff

theorem Represents.notZero (represents : Represents history)
    (member : address ∈ history.taken) :
    address.address ≠ 0 := by
  intro zero
  rcases (represents.taken_iff address).mpr member with ⟨entry, entryIn, low, -⟩
  have positive := (represents.ordered.blocks entry entryIn).1
  rw [zero, UInt32.le_iff_toNat_le, UInt32.toNat_zero] at low
  omega

/-- An address is added exactly if it is not 0 and not taken. -/
theorem Represents.addAllocated (represents : Represents history)
    (address : Ipv4Address) :
    (address.address = 0 ∧ history.generator.addAllocated address = none) ∨
    (address ∈ history.taken ∧ history.generator.addAllocated address =
      if history.generator.test then some (false, history.generator) else none) ∨
    ∃ next, address.address ≠ 0 ∧ address ∉ history.taken ∧
      history.generator.addAllocated address = some (true, next) ∧
      Represents (history.record address true next) := by
  by_cases zero : address.address = 0
  · exact .inl ⟨zero, if_pos zero⟩
  · right
    rw [Ipv4AddressGenerator.addAllocated, if_neg zero]
    rcases addAllocatedFrom_spec represents.ordered zero with
      ⟨taken, collision⟩ | ⟨entries, free, made, ordered, all⟩
    · exact .inl ⟨(represents.taken_iff address).mp taken, by rw [collision]⟩
    · rw [represents.taken_iff] at free
      refine .inr
        ⟨{ history.generator with entries }, zero, free, by rw [made], ordered, ?_, ?_⟩
      · simp only [History.record, if_true]
        exact List.nodup_append.mpr ⟨represents.nodup, by simp, by
          intro first member second isAddress same
          rw [List.mem_singleton.mp isAddress] at same
          exact free (same ▸ member)⟩
      · intro other
        simp only [History.record, if_true, List.mem_append, List.mem_singleton]
        rw [all, represents.taken_iff, or_comm, ← Ipv4Address.mk.injEq]

theorem Represents.record (represents : Represents history)
    (result : history.generator.addAllocated address = some (added, next)) :
    Represents (history.record address added next) := by
  rcases represents.addAllocated address with
    ⟨-, none⟩ | ⟨-, collision⟩ | ⟨other, -, -, made, after⟩
  · cases none.symm.trans result
  · rw [collision] at result
    split at result
    · cases result
      exact represents
    · cases result
  · cases made.symm.trans result
    exact after

theorem Represents.step {operation : Operation} {after : History}
    (represents : Represents history) (ran : step history operation = some after) :
    Represents after := by
  cases operation with
  | reset =>
      cases ran
      exact represents_start
  | init net mask addr =>
      rcases Option.map_eq_some_iff.mp ran with ⟨generator, made, rfl⟩
      apply represents.of_entries
      simp only [init, Option.bind_eq_bind, Option.bind_eq_some_iff] at made
      rcases made with ⟨-, -, -, -, index, -, state, -, -, -, made⟩
      cases made
      rfl
  | nextNetwork mask =>
      rcases Option.map_eq_some_iff.mp ran with ⟨generator, made, rfl⟩
      apply represents.of_entries
      simp only [nextNetwork, Option.bind_eq_bind, Option.bind_eq_some_iff] at made
      rcases made with ⟨index, -, state, -, made⟩
      cases made
      rfl
  | initAddress addr mask =>
      rcases Option.map_eq_some_iff.mp ran with ⟨generator, made, rfl⟩
      apply represents.of_entries
      simp only [initAddress, Option.bind_eq_bind, Option.bind_eq_some_iff] at made
      rcases made with ⟨index, -, state, -, -, -, made⟩
      cases made
      rfl
  | nextAddress mask =>
      rcases Option.map_eq_some_iff.mp ran with ⟨⟨address, added, generator⟩, made, rfl⟩
      simp only [nextAddress, Option.bind_eq_bind, Option.bind_eq_some_iff] at made
      rcases made with ⟨index, -, state, -, -, -, ⟨added, generator⟩, result, made⟩
      cases made
      have moved : Represents { history with
          generator := { history.generator with
            netTable := history.generator.netTable.set index
              { state with addr := state.addr + 1 } } } := represents.of_entries rfl
      exact moved.record result
  | addAllocated address =>
      rcases Option.map_eq_some_iff.mp ran with ⟨⟨added, generator⟩, result, rfl⟩
      exact represents.record result
  | testMode =>
      cases ran
      exact represents.of_entries rfl

/-- In every run no address is taken twice, and `AddAllocated` takes an address exactly
if it is not 0 and was not taken before.  In test mode it reports that an address is
taken. -/
theorem addAllocated_of_reachable
    (reached : Ipv4AddressGenerator.step.Reachable (fun _ => True) {} history)
    (address : Ipv4Address) :
    history.taken.Nodup ∧
      ((∃ next, history.generator.addAllocated address = some (true, next)) ↔
        address.address ≠ 0 ∧ address ∉ history.taken) ∧
      ((∃ next, history.generator.addAllocated address = some (false, next)) ↔
        address ∈ history.taken ∧ history.generator.test = true) := by
  have represents : Represents history :=
    reached.invariant Represents (fun _ _ _ _ before ran => before.step ran)
      represents_start
  refine ⟨represents.nodup, ?_⟩
  rcases represents.addAllocated address with
    ⟨zero, none⟩ | ⟨taken, collision⟩ | ⟨next, notZero, free, made, -⟩
  · have free : address ∉ history.taken := fun taken => represents.notZero taken zero
    simp [none, zero, free]
  · rw [collision]
    split
    · next test => simp [taken, test]
    · next noTest => simp [taken, noTest]
  · simp [made, notZero, free]

/-- The first address of network 1, in test mode. -/
theorem addAllocated_of_reachable_first :
    ∃ history, Ipv4AddressGenerator.step.run {} [.nextAddress ⟨0xff000000⟩, .testMode] =
        some history ∧ history.taken = [⟨0x1000001⟩] ∧
      ∃ next, history.generator.addAllocated ⟨0x1000001⟩ = some (false, next) := by
  have ran : (Ipv4AddressGenerator.step.run {} [.nextAddress ⟨0xff000000⟩, .testMode]).map
      (fun history => (history.taken, history.generator.test)) =
        some ([⟨0x1000001⟩], true) := by
    decide
  rcases Option.map_eq_some_iff.mp ran with ⟨history, isHistory, parts⟩
  rcases Prod.mk.inj parts with ⟨taken, test⟩
  refine ⟨history, isHistory, taken, ?_⟩
  exact (addAllocated_of_reachable ⟨_, by simp, isHistory⟩ _).2.2.mpr
    ⟨by simp [taken], test⟩

end Runs

/-! ## The addresses of a network -/

/-- The mask of a number of bits. -/
def prefixMask (bits : Nat) : Ipv4Address := ⟨0xffffffff <<< UInt32.ofNat (32 - bits)⟩

/-- Calls of `NextAddress`, one after the other. -/
def nextAddresses (mask : Ipv4Address) :
    Nat → Ipv4AddressGenerator → Option (List Ipv4Address)
  | 0, _ => some []
  | count + 1, generator => do
      let (address, _, generator) ← generator.nextAddress mask
      let addresses ← nextAddresses mask count generator
      return address :: addresses

theorem maskToIndex_prefixMask :
    ∀ bits : Fin 32, 0 < bits.val → maskToIndex (prefixMask bits) = some bits.val := by
  decide

/-- The greatest address is the inverse of the mask that has one bit more. -/
theorem netTable_reset :
    ∀ bits : Fin 32, reset.netTable[bits.val]? = some
      { shift := .ofNat (32 - bits.val),
        addrMax := .ofNat (2 ^ (31 - bits.val) - 1) } := by
  decide

section Networks

variable {bits next : Nat} {generator : Ipv4AddressGenerator}

/-- The state of a network whose next address comes after all that were taken. -/
structure Fresh (bits next : Nat) (generator : Ipv4AddressGenerator) : Prop where
  state : generator.netTable[bits]? = some
    { shift := .ofNat (32 - bits), addr := .ofNat next,
      addrMax := .ofNat (2 ^ (31 - bits) - 1) }
  ordered : Ordered generator.entries
  below : ∀ addr, Taken generator.entries addr → addr.toNat < 2 ^ (32 - bits) + next

theorem fresh_reset (small : bits < 32) : Fresh bits 1 reset where
  state := netTable_reset ⟨bits, small⟩
  ordered := ordered_nil
  below addr taken := absurd taken (not_taken_nil addr)

theorem toNat_shift (positive : 0 < bits) :
    (UInt32.ofNat (32 - bits)).toNat = 32 - bits :=
  UInt32.toNat_ofNat_of_lt' (by simp only [UInt32.size]; omega)

theorem two_pow_le (positive : 0 < bits) (small : bits < 32) :
    2 ^ (32 - bits) = 2 * 2 ^ (31 - bits) ∧ 2 ^ (32 - bits) ≤ 2 ^ 31 := by
  have more : 32 - bits = 31 - bits + 1 := by omega
  refine ⟨by rw [more, pow_succ'], Nat.pow_le_pow_right (by decide) (by omega)⟩

/-- Network 1 with an address of its lower half. -/
theorem network_or_eq (positive : 0 < bits) (small : bits < 32)
    (within : next < 2 ^ (31 - bits)) :
    ((1 : UInt32) <<< UInt32.ofNat (32 - bits) ||| .ofNat next) =
      .ofNat (2 ^ (32 - bits) + next) := by
  rcases two_pow_le positive small with ⟨twice, bound⟩
  have nextIs : (UInt32.ofNat next).toNat = next :=
    UInt32.toNat_ofNat_of_lt' (by simp only [UInt32.size]; omega)
  have shifted :
      ((1 : UInt32) <<< UInt32.ofNat (32 - bits)).toNat = 1 <<< (32 - bits) := by
    rw [UInt32.toNat_shiftLeft, toNat_shift positive, UInt32.toNat_one,
      Nat.mod_eq_of_lt (show 32 - bits < 32 by omega), Nat.shiftLeft_eq, one_mul,
      Nat.mod_eq_of_lt (by omega)]
  have below : next < 2 ^ (32 - bits) := by omega
  rw [← UInt32.toNat_inj, UInt32.toNat_or, nextIs, shifted,
    ← Nat.shiftLeft_add_eq_or_of_lt below, Nat.shiftLeft_eq, one_mul,
    UInt32.toNat_ofNat_of_lt' (by simp only [UInt32.size]; omega)]

theorem Fresh.exists_nextAddress (fresh : Fresh bits next generator) (positive : 0 < bits)
    (small : bits < 32) (within : next < 2 ^ (31 - bits)) :
    ∃ after, generator.nextAddress (prefixMask bits) =
        some (⟨.ofNat (2 ^ (32 - bits) + next)⟩, true, after) ∧
          Fresh bits (next + 1) after := by
  rcases two_pow_le positive small with ⟨twice, bound⟩
  have nextIs : (UInt32.ofNat next).toNat = next :=
    UInt32.toNat_ofNat_of_lt' (by simp only [UInt32.size]; omega)
  have mostIs : (UInt32.ofNat (2 ^ (31 - bits) - 1)).toNat = 2 ^ (31 - bits) - 1 :=
    UInt32.toNat_ofNat_of_lt' (by simp only [UInt32.size]; omega)
  have addressIs :
      (UInt32.ofNat (2 ^ (32 - bits) + next)).toNat = 2 ^ (32 - bits) + next :=
    UInt32.toNat_ofNat_of_lt' (by simp only [UInt32.size]; omega)
  have allowed : UInt32.ofNat next ≤ .ofNat (2 ^ (31 - bits) - 1) := by
    rw [UInt32.le_iff_toNat_le, nextIs, mostIs]
    omega
  have notZero : UInt32.ofNat (2 ^ (32 - bits) + next) ≠ 0 := by
    intro zero
    rw [zero, UInt32.toNat_zero] at addressIs
    omega
  have following : UInt32.ofNat next + 1 = .ofNat (next + 1) :=
    (UInt32.ofNat_add next 1).symm
  have inTable := (List.getElem?_eq_some_iff.mp fresh.state).1
  rcases addAllocatedFrom_spec fresh.ordered notZero with
    ⟨taken, -⟩ | ⟨entries, -, added, ordered, all⟩
  · have below := fresh.below _ taken
    omega
  · let moved := { generator with
      netTable := generator.netTable.set bits
        { shift := .ofNat (32 - bits), addr := .ofNat (next + 1),
          addrMax := .ofNat (2 ^ (31 - bits) - 1) } }
    have index := maskToIndex_prefixMask ⟨bits, small⟩ positive
    have result : moved.addAllocated ⟨.ofNat (2 ^ (32 - bits) + next)⟩ =
        some (true, { moved with entries }) := by
      have entriesIs : moved.entries = generator.entries := rfl
      rw [addAllocated, if_neg notZero, entriesIs, added]
    refine ⟨{ moved with entries }, ?_, ?_, ordered, ?_⟩
    · simp only [nextAddress, index, fresh.state, allowed, guard, if_true, following,
        network_or_eq positive small within, Option.bind_eq_bind, Option.bind_some,
        Option.pure_def]
      rw [result]
      rfl
    · simp [moved, inTable]
    · intro addr taken
      rcases (all addr).mp taken with rfl | before
      · omega
      · have below := fresh.below addr before
        omega

theorem Fresh.nextAddress_eq_none (fresh : Fresh bits next generator)
    (positive : 0 < bits) (small : bits < 32) (full : next = 2 ^ (31 - bits)) :
    generator.nextAddress (prefixMask bits) = none := by
  rcases two_pow_le positive small with ⟨twice, bound⟩
  have index := maskToIndex_prefixMask ⟨bits, small⟩ positive
  have some : 0 < 2 ^ (31 - bits) := Nat.two_pow_pos _
  have nextIs : (UInt32.ofNat next).toNat = next :=
    UInt32.toNat_ofNat_of_lt' (by simp only [UInt32.size]; omega)
  have mostIs : (UInt32.ofNat (2 ^ (31 - bits) - 1)).toNat = 2 ^ (31 - bits) - 1 :=
    UInt32.toNat_ofNat_of_lt' (by simp only [UInt32.size]; omega)
  have tooLarge : ¬ UInt32.ofNat next ≤ .ofNat (2 ^ (31 - bits) - 1) := by
    rw [UInt32.le_iff_toNat_le, nextIs, mostIs]
    omega
  simp only [nextAddress, index, fresh.state, tooLarge, guard, if_false,
    Option.bind_eq_bind, Option.bind_some]
  rfl

theorem Fresh.nextAddresses (fresh : Fresh bits next generator) (positive : 0 < bits)
    (small : bits < 32) (within : next ≤ 2 ^ (31 - bits)) (count : Nat) :
    Ipv4AddressGenerator.nextAddresses (prefixMask bits) count generator =
      if next + count ≤ 2 ^ (31 - bits) then
        some ((List.range' next count).map fun addr => ⟨.ofNat (2 ^ (32 - bits) + addr)⟩)
      else none := by
  induction count generalizing next generator with
  | zero => simp [Ipv4AddressGenerator.nextAddresses, within]
  | succ count induction =>
      rw [Ipv4AddressGenerator.nextAddresses]
      rcases Nat.lt_or_eq_of_le within with room | full
      · rcases fresh.exists_nextAddress positive small room with ⟨after, made, still⟩
        rw [made]
        simp only [Option.bind_eq_bind, Option.bind_some]
        rw [induction still room, List.range'_succ, List.map_cons, Nat.add_right_comm,
          Nat.add_assoc]
        split <;> rfl
      · have tooMany : ¬ next + (count + 1) ≤ 2 ^ (31 - bits) := by omega
        rw [fresh.nextAddress_eq_none positive small full, if_neg tooMany]
        rfl

/-- After `Reset` a network gives out the addresses of its lower half only, although its
mask leaves room for twice as many. -/
theorem nextAddresses_reset (positive : 0 < bits) (small : bits < 32) (count : Nat) :
    nextAddresses (prefixMask bits) count reset =
      if count < 2 ^ (31 - bits) then
        some ((List.range' 1 count).map fun addr => ⟨.ofNat (2 ^ (32 - bits) + addr)⟩)
      else none := by
  rw [(fresh_reset small).nextAddresses positive small Nat.one_le_two_pow]
  simp only [Nat.add_comm 1, Nat.succ_le_iff]

/-- `255.255.255.252` leaves room for one address. -/
theorem nextAddresses_reset_thirty :
    nextAddresses (prefixMask 30) 2 reset = none ∧
      nextAddresses (prefixMask 30) 1 reset = some [⟨5⟩] :=
  ⟨nextAddresses_reset (by decide) (by decide) 2,
    nextAddresses_reset (by decide) (by decide) 1⟩

end Networks

end Ipv4AddressGenerator

/-! ## Assignments -/

/-- `Assign`, with what `NewAddress` makes the generator do. -/
def Ipv4AddressHelper.assignAllocated {δ : Type} (helper : Ipv4AddressHelper)
    (generator : Ipv4AddressGenerator) :
    List δ → Option (List (δ × Ipv4Address) × Ipv4AddressGenerator)
  | [] => some ([], generator)
  | device :: container => do
      let (address, helper) ← helper.newAddress
      let (_, generator) ← generator.addAllocated address
      let (assigned, generator) ← helper.assignAllocated generator container
      return ((device, address) :: assigned, generator)

namespace Ipv4AddressGenerator

section Assignments

variable {δ : Type} {helper : Ipv4AddressHelper} {history : History}
  {generator : Ipv4AddressGenerator} {container : List δ}
  {assigned : List (δ × Ipv4Address)}

/-- Addresses that are new are assigned and taken. -/
theorem Represents.exists_assignAllocated (represents : Represents history)
    {final : Ipv4AddressHelper} (made : helper.assign container = some (assigned, final))
    (new : (history.taken ++ assigned.map Prod.snd).Nodup)
    (notZero : ∀ pair ∈ assigned, pair.2.address ≠ 0) :
    ∃ generator, helper.assignAllocated history.generator container =
      some (assigned, generator) ∧
      Represents { generator, taken := history.taken ++ assigned.map Prod.snd } := by
  induction container generalizing helper history assigned with
  | nil =>
      cases made
      rw [List.map_nil, List.append_nil]
      exact ⟨history.generator, rfl, represents⟩
  | cons device container induction =>
      simp only [Ipv4AddressHelper.assign, Option.bind_eq_bind, Option.bind_eq_some_iff]
        at made
      rcases made with ⟨⟨address, following⟩, isNew, ⟨rest, last⟩, restMade, made⟩
      cases made
      rw [List.map_cons, List.append_cons] at new ⊢
      rcases represents.addAllocated address with
        ⟨zero, -⟩ | ⟨taken, -⟩ | ⟨next, -, -, isNext, after⟩
      · exact absurd zero (notZero (device, address) List.mem_cons_self)
      · have twice := (List.nodup_append.mp (List.nodup_append.mp new).1).2.2
        exact absurd rfl (twice address taken address (List.mem_singleton_self address))
      · rcases induction after restMade new
          fun pair member => notZero pair (List.mem_cons_of_mem _ member) with
          ⟨generator, restAllocated, still⟩
        have restAllocated : following.assignAllocated next container =
            some (rest, generator) := restAllocated
        refine ⟨generator, ?_, still⟩
        rw [Ipv4AddressHelper.assignAllocated, isNew]
        simp [isNext, restAllocated]

theorem test_of_addAllocated {address : Ipv4Address} {added : Bool}
    {next : Ipv4AddressGenerator}
    (result : generator.addAllocated address = some (added, next)) :
    next.test = generator.test := by
  rw [addAllocated] at result
  split at result
  · cases result
  · split at result
    · cases result
      rfl
    · split at result
      · cases result
        rfl
      · cases result

/-- What is assigned is taken. -/
theorem Represents.of_assignAllocated (represents : Represents history)
    (noTest : history.generator.test = false)
    (made : helper.assignAllocated history.generator container =
      some (assigned, generator)) :
    generator.test = false ∧
      Represents { generator, taken := history.taken ++ assigned.map Prod.snd } := by
  induction container generalizing helper history assigned with
  | nil =>
      cases made
      rw [List.map_nil, List.append_nil]
      exact ⟨noTest, represents⟩
  | cons device container induction =>
      simp only [Ipv4AddressHelper.assignAllocated, Option.bind_eq_bind,
        Option.bind_eq_some_iff] at made
      rcases made with
        ⟨⟨address, following⟩, isNew, ⟨added, next⟩, result, ⟨rest, last⟩, restMade,
        made⟩
      cases made
      rcases represents.addAllocated address with
        ⟨-, none⟩ | ⟨-, collision⟩ | ⟨other, -, -, isOther, after⟩
      · cases none.symm.trans result
      · rw [noTest] at collision
        cases collision.symm.trans result
      · cases isOther.symm.trans result
        have still := induction after (test_of_addAllocated result ▸ noTest) restMade
        simpa [History.record] using still

end Assignments

end Ipv4AddressGenerator

end DataCenter
