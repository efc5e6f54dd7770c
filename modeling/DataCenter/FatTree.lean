import DataCenter.Ipv4AddressHelper
import DataCenter.Foundation.LoopNest

/-! # The addresses of the fat tree

The address assignment of `main` in Fat-tree.cc and Fat-tree-AlFares.cc, which
differ in no line of it. -/

namespace DataCenter.FatTree

/-! ## The set-up -/

/-- The two devices of a point-to-point link, in the order of `p2p.Install`. -/
inductive Side where
  | upper
  | lower
  deriving DecidableEq, Repr

/-- The devices that get an address: of an edge switch and of a host on their
shared medium, and of the links `ae` and `ca`. -/
inductive Device where
  | edge (i j : Nat)
  | host (i j h : Nat)
  | ae (i j h : Nat) (side : Side)
  | ca (i j h : Nat) (side : Side)
  deriving DecidableEq, Repr

/-- The variable `address` and what has been assigned with it. -/
structure Setup where
  address : Ipv4AddressHelper := {}
  assigned : List (Device × Ipv4Address) := []

/-- `address.SetBase (subnet, "255.255.255.0", base)` and `address.Assign`; `none` if
one of their assertions fails. -/
def Setup.assign (setup : Setup) (subnet base : List Char) (container : List Device) :
    Option Setup := do
  let address ← Ipv4AddressHelper.setBase (.ofString subnet) octetMask (.ofString base)
  let (assigned, address) ← address.assign container
  return { address, assigned := setup.assigned ++ assigned }

/-- The container `hostSw[i][j]`. -/
def hostSw (k i j : Nat) : List Device :=
  .edge i j :: (List.range (k / 2)).map (.host i j)

/-- The base is the default of `SetBase`. -/
def connectEdge (k i : Nat) (setup : Setup) (j : Nat) : Option Setup :=
  setup.assign (addressString 10 i j 0) "0.0.0.1".toList (hostSw k i j)

def connectEdges (k : Nat) (setup : Setup) : Option Setup :=
  (List.range k).foldlM
    (fun setup i => (List.range (k / 2)).foldlM (connectEdge k i) setup) setup

/-- The container that `p2p.Install (agg[i].Get(j), edge[i].Get(h))` returns. -/
def ae (i j h : Nat) : List Device := [.ae i j h .upper, .ae i j h .lower]

def connectAggregation (k i j : Nat) (setup : Setup) (h : Nat) : Option Setup :=
  let fourth_octet := if h = 0 then 1 else h * 2 + 1
  setup.assign (addressString 10 i (j + k / 2) 0) (addressString 0 0 0 fourth_octet)
    (ae i j h)

def connectAggregations (k : Nat) (setup : Setup) : Option Setup :=
  (List.range k).foldlM (fun setup i => (List.range (k / 2)).foldlM (fun setup j =>
    (List.range (k / 2)).foldlM (connectAggregation k i j) setup) setup) setup

/-- The container that `p2p.Install (core[i].Get(j), agg[h].Get(i))` returns. -/
def ca (i j h : Nat) : List Device := [.ca i j h .upper, .ca i j h .lower]

/-- Here `fourth_octet` is carried from iteration to iteration. -/
def connectCore (k i j : Nat) (state : Setup × Nat) (h : Nat) : Option (Setup × Nat) := do
  let (setup, fourth_octet) := state
  let setup ← setup.assign (addressString 10 (k + i) j 0)
    (addressString 0 0 0 fourth_octet) (ca i j h)
  return (setup, fourth_octet + 2)

def connectCores (k : Nat) (setup : Setup) : Option Setup := do
  let (setup, _) ← (List.range (k / 2)).foldlM (fun state i =>
    (List.range (k / 2)).foldlM (fun state j =>
      (List.range k).foldlM (connectCore k i j) (state.1, 1)) state) (setup, 1)
  return setup

/-- The addresses after the three loop nests. -/
def assignAddresses (k : Nat) : Option (List (Device × Ipv4Address)) := do
  let setup ← connectEdges k {}
  let setup ← connectAggregations k setup
  let setup ← connectCores k setup
  return setup.assigned

/-! ## The plan -/

/-- The devices of a fat tree. -/
def Device.Exists (k : Nat) : Device → Prop
  | .edge i j => i < k ∧ j < k / 2
  | .host i j h => i < k ∧ j < k / 2 ∧ h < k / 2
  | .ae i j h _ => i < k ∧ j < k / 2 ∧ h < k / 2
  | .ca i j h _ => i < k / 2 ∧ j < k / 2 ∧ h < k

def Side.offset : Side → Nat
  | .upper => 1
  | .lower => 2

/-- The second, third and fourth octet that a device is to get. -/
def Device.octets (k : Nat) : Device → Nat × Nat × Nat
  | .edge i j => (i, j, 1)
  | .host i j h => (i, j, h + 2)
  | .ae i j h side => (i, j + k / 2, 2 * h + side.offset)
  | .ca i j h side => (k + i, j, 2 * h + side.offset)

def Device.address (k : Nat) (device : Device) : Ipv4Address :=
  .ofOctets 10 (device.octets k).1 (device.octets k).2.1 (device.octets k).2.2

/-- What an assignment of addresses to the devices of a fat tree has to be. -/
structure Addressed (k : Nat) (assigned : List (Device × Ipv4Address)) : Prop where
  /-- Every device gets one address. -/
  everyDevice : ∀ device, device ∈ assigned.map Prod.fst ↔ device.Exists k
  once : (assigned.map Prod.fst).Nodup
  /-- It is the one of the plan, whose octets are in range. -/
  planned : ∀ entry ∈ assigned, entry.2 = entry.1.address k ∧
    (entry.1.octets k).1 ≤ 255 ∧ (entry.1.octets k).2.1 ≤ 255 ∧
    1 ≤ (entry.1.octets k).2.2 ∧ (entry.1.octets k).2.2 ≤ 254
  /-- No two devices get the same address. -/
  distinct : (assigned.map Prod.snd).Nodup

/-! ## The loops follow the plan -/

/-- Devices with the addresses of the plan. -/
def planned (k : Nat) (devices : List Device) : List (Device × Ipv4Address) :=
  devices.map fun device => (device, device.address k)

/-- One subnet: the devices of its container, with consecutive host numbers. -/
theorem Setup.exists_assign (setup : Setup) {second third base : Nat}
    (secondSmall : second < 256) (thirdSmall : third < 256) (container : List Device)
    (enough : base + container.length ≤ 255) :
    ∃ next, setup.assign (addressString 10 second third 0) (addressString 0 0 0 base)
        container = some next ∧
      next.assigned = setup.assigned ++ (container.zipIdx base).map fun (device, host) =>
        (device, .ofOctets 10 second third host) := by
  rcases exists_assign_subnet (show 10 < 256 by decide) secondSmall thirdSmall container
    enough with
    ⟨helper, final, isSet, assigned⟩
  refine ⟨⟨final, setup.assigned ++ _⟩, ?_, rfl⟩
  rw [Setup.assign, isSet]
  simp only [Option.bind_eq_bind, Option.bind_some, assigned]
  rfl

/-- The host numbers on the shared medium: the edge switch has the first. -/
theorem zipIdx_hostSw (k i j : Nat) :
    ((hostSw k i j).zipIdx 1).map
        (fun (device, host) => (device, Ipv4Address.ofOctets 10 i j host)) =
      planned k (hostSw k i j) := by
  rw [hostSw, planned]
  rw [List.zipIdx_cons, List.map_cons, List.map_cons]
  congr 1
  apply List.ext_getElem
  · simp
  · intro h hSmall _
    simp [Device.address, Device.octets, Nat.add_comm]

section Loops

variable {k : Nat} (high : k ≤ 126)

include high

theorem exists_connectEdge {i j : Nat} (iSmall : i < k) (jSmall : j < k / 2)
    (setup : Setup) :
    ∃ next, connectEdge k i setup j = some next ∧
      next.assigned = setup.assigned ++ planned k (hostSw k i j) := by
  have base : "0.0.0.1".toList = addressString 0 0 0 1 := by decide
  have enough : 1 + (hostSw k i j).length ≤ 255 := by
    simp only [hostSw, List.length_cons, List.length_map, List.length_range]
    omega
  rcases setup.exists_assign (show i < 256 by omega) (show j < 256 by omega)
    (hostSw k i j) enough with ⟨next, ran, assigned⟩
  refine ⟨next, by rw [connectEdge, base, ran], ?_⟩
  rw [assigned, zipIdx_hostSw]

theorem exists_connectAggregation {i j h : Nat} (iSmall : i < k) (jSmall : j < k / 2)
    (hSmall : h < k / 2) (setup : Setup) :
    ∃ next, connectAggregation k i j setup h = some next ∧
      next.assigned = setup.assigned ++ planned k (ae i j h) := by
  have base : (if h = 0 then 1 else h * 2 + 1) = 2 * h + 1 := by
    split <;> omega
  rcases setup.exists_assign (show i < 256 by omega) (show j + k / 2 < 256 by omega)
    (ae i j h) (show 2 * h + 1 + 2 ≤ 255 by omega) with ⟨next, ran, assigned⟩
  refine ⟨next, by rw [connectAggregation, base, ran], ?_⟩
  rw [assigned]
  rfl

theorem exists_connectCore {i j h : Nat} (iSmall : i < k / 2) (jSmall : j < k / 2)
    (hSmall : h < k) (setup : Setup) :
    ∃ next, connectCore k i j (setup, 2 * h + 1) h = some (next, 2 * (h + 1) + 1) ∧
      next.assigned = setup.assigned ++ planned k (ca i j h) := by
  rcases setup.exists_assign (show k + i < 256 by omega) (show j < 256 by omega)
    (ca i j h) (show 2 * h + 1 + 2 ≤ 255 by omega) with ⟨next, ran, assigned⟩
  refine ⟨next, ?_, ?_⟩
  · simp [connectCore, ran]
    omega
  · rw [assigned]
    rfl

theorem exists_connectEdges (setup : Setup) :
    ∃ next, connectEdges k setup = some next ∧ next.assigned = setup.assigned ++
      (List.range k).flatMap fun i => (List.range (k / 2)).flatMap fun j =>
        planned k (hostSw k i j) := by
  apply exists_foldlM_collect Setup.assigned
  intro i iSmall setup
  apply exists_foldlM_collect Setup.assigned
  intro j jSmall setup
  exact exists_connectEdge high iSmall jSmall setup

theorem exists_connectAggregations (setup : Setup) :
    ∃ next, connectAggregations k setup = some next ∧ next.assigned = setup.assigned ++
      (List.range k).flatMap fun i => (List.range (k / 2)).flatMap fun j =>
        (List.range (k / 2)).flatMap fun h => planned k (ae i j h) := by
  apply exists_foldlM_collect Setup.assigned
  intro i iSmall setup
  apply exists_foldlM_collect Setup.assigned
  intro j jSmall setup
  apply exists_foldlM_collect Setup.assigned
  intro h hSmall setup
  exact exists_connectAggregation high iSmall jSmall hSmall setup

/-- The loop over the pods, where `fourth_octet` goes up by two each time. -/
theorem exists_connectCorePods {i j : Nat} (iSmall : i < k / 2) (jSmall : j < k / 2)
    (setup : Setup) :
    ∃ next, (List.range k).foldlM (connectCore k i j) (setup, 1) = some next ∧
      next.1.assigned = setup.assigned ++
        (List.range k).flatMap fun h => planned k (ca i j h) := by
  have run : ∃ final, (List.range k).foldlM (connectCore k i j) (setup, 1) = some final ∧
      final.2 = 2 * k + 1 ∧ final.1.assigned = setup.assigned ++
        (List.range k).flatMap fun h => planned k (ca i j h) := by
    apply exists_foldlM_range fun h (state : Setup × Nat) => state.2 = 2 * h + 1 ∧
      state.1.assigned = setup.assigned ++ (List.range h).flatMap fun h =>
        planned k (ca i j h)
    · intro h state hSmall invariant
      rcases state with ⟨before, fourth_octet⟩
      rcases invariant with ⟨rfl, soFar⟩
      rcases exists_connectCore high iSmall jSmall hSmall before with ⟨next, ran, added⟩
      refine ⟨_, ran, rfl, ?_⟩
      rw [added, soFar, List.range_succ, List.flatMap_append, List.flatMap_singleton,
        List.append_assoc]
    · exact ⟨rfl, by simp⟩
  rcases run with ⟨final, ran, _, assigned⟩
  exact ⟨final, ran, assigned⟩

theorem exists_connectCores (setup : Setup) :
    ∃ next, connectCores k setup = some next ∧ next.assigned = setup.assigned ++
      (List.range (k / 2)).flatMap fun i => (List.range (k / 2)).flatMap fun j =>
        (List.range k).flatMap fun h => planned k (ca i j h) := by
  have run : ∃ final : Setup × Nat, (List.range (k / 2)).foldlM (fun state i =>
      (List.range (k / 2)).foldlM (fun state j =>
        (List.range k).foldlM (connectCore k i j) (state.1, 1)) state) (setup, 1) =
          some final ∧
      final.1.assigned = setup.assigned ++
        (List.range (k / 2)).flatMap fun i => (List.range (k / 2)).flatMap fun j =>
          (List.range k).flatMap fun h => planned k (ca i j h) := by
    apply exists_foldlM_collect fun state : Setup × Nat => state.1.assigned
    intro i iSmall state
    apply exists_foldlM_collect fun state : Setup × Nat => state.1.assigned
    intro j jSmall state
    exact exists_connectCorePods high iSmall jSmall state.1
  rcases run with ⟨final, ran, assigned⟩
  exact ⟨final.1, by rw [connectCores, ran]; rfl, assigned⟩

end Loops

/-- The devices in the order in which they get their addresses. -/
def devices (k : Nat) : List Device :=
  ((List.range k).flatMap fun i => (List.range (k / 2)).flatMap fun j => hostSw k i j) ++
    ((List.range k).flatMap fun i => (List.range (k / 2)).flatMap fun j =>
      (List.range (k / 2)).flatMap fun h => ae i j h) ++
    ((List.range (k / 2)).flatMap fun i => (List.range (k / 2)).flatMap fun j =>
      (List.range k).flatMap fun h => ca i j h)

theorem assignAddresses_eq {k : Nat} (high : k ≤ 126) :
    assignAddresses k = some (planned k (devices k)) := by
  rcases exists_connectEdges high {} with ⟨first, ranEdges, firstAssigned⟩
  rcases exists_connectAggregations high first with
    ⟨second, ranAggregations, secondAssigned⟩
  rcases exists_connectCores high second with ⟨third, ranCores, thirdAssigned⟩
  rw [assignAddresses, ranEdges]
  simp only [Option.bind_eq_bind, Option.bind_some, ranAggregations, ranCores,
    thirdAssigned, secondAssigned, firstAssigned]
  simp [planned, devices, List.map_flatMap]

/-! ## The plan has no collision -/

theorem mem_devices (k : Nat) (device : Device) : device ∈ devices k ↔
    device.Exists k := by
  cases device with
  | edge i j => simp [devices, hostSw, ae, ca, Device.Exists]
  | host i j h => simp [devices, hostSw, ae, ca, Device.Exists]
  | ae i j h side => cases side <;> simp [devices, hostSw, ae, ca, Device.Exists]
  | ca i j h side => cases side <;> simp [devices, hostSw, ae, ca, Device.Exists]

/-- The three loop counters of a device. -/
def Device.counters : Device → Nat × Nat × Nat
  | .edge i j => (i, j, 0)
  | .host i j h => (i, j, h)
  | .ae i j h _ => (i, j, h)
  | .ca i j h _ => (i, j, h)

/-- A block of devices that share their first counters has no device twice. -/
theorem nodup_pods {count inner : Nat} {block : Nat → Nat → List Device}
    (blocks : ∀ i j, (block i j).Nodup)
    (owned : ∀ i j, ∀ device ∈ block i j, device.counters.1 = i ∧
      device.counters.2.1 = j) :
    ((List.range count).flatMap fun i => (List.range inner).flatMap fun j =>
      block i j).Nodup := by
  apply nodup_flatMap_of_owner List.nodup_range fun device => device.counters.1
  · intro i _
    apply nodup_flatMap_of_owner List.nodup_range fun device => device.counters.2.1
    · intro j _
      exact blocks i j
    · intro j _ device member
      exact (owned i j device member).2
  · intro i _ device member
    rcases List.mem_flatMap.mp member with ⟨j, _, inBlock⟩
    exact (owned i j device inBlock).1

theorem nodup_hostSw (k i j : Nat) : (hostSw k i j).Nodup := by
  apply List.nodup_cons.mpr ⟨by simp, ?_⟩
  apply List.nodup_range.map
  intro h other same
  exact (Device.host.inj same).2.2

theorem mem_links {count : Nat} {link : Nat → List Device} {device : Device} {i j : Nat}
    (owned : ∀ h, ∀ device ∈ link h, device.counters = (i, j, h))
    (member : device ∈ (List.range count).flatMap link) :
    device.counters.1 = i ∧ device.counters.2.1 = j := by
  rcases List.mem_flatMap.mp member with ⟨h, _, inLink⟩
  rw [owned h device inLink]
  exact ⟨rfl, rfl⟩

theorem nodup_links {count i j : Nat} {link : Nat → List Device}
    (ends : ∀ h, (link h).Nodup)
    (owned : ∀ h, ∀ device ∈ link h, device.counters = (i, j, h)) :
    ((List.range count).flatMap link).Nodup := by
  apply nodup_flatMap_of_owner List.nodup_range fun device => device.counters.2.2
  · intro h _
    exact ends h
  · intro h _ device member
    rw [owned h device member]

theorem counters_ae (i j h : Nat) : ∀ device ∈ ae i j h, device.counters = (i, j, h) := by
  simp [ae, Device.counters]

theorem counters_ca (i j h : Nat) : ∀ device ∈ ca i j h, device.counters = (i, j, h) := by
  simp [ca, Device.counters]

theorem nodup_devices (k : Nat) : (devices k).Nodup := by
  have edges : ((List.range k).flatMap fun i => (List.range (k / 2)).flatMap fun j =>
      hostSw k i j).Nodup := by
    apply nodup_pods (nodup_hostSw k)
    simp [hostSw, Device.counters]
  have aggregations :
      ((List.range k).flatMap fun i => (List.range (k / 2)).flatMap fun j =>
      (List.range (k / 2)).flatMap fun h => ae i j h).Nodup := by
    apply nodup_pods
    · intro i j
      exact nodup_links (by simp [ae]) (counters_ae i j)
    · intro i j device member
      exact mem_links (counters_ae i j) member
  have cores :
      ((List.range (k / 2)).flatMap fun i => (List.range (k / 2)).flatMap fun j =>
      (List.range k).flatMap fun h => ca i j h).Nodup := by
    apply nodup_pods
    · intro i j
      exact nodup_links (by simp [ca]) (counters_ca i j)
    · intro i j device member
      exact mem_links (counters_ca i j) member
  rw [devices]
  apply (edges.append aggregations _).append cores
  · intro device before inCores
    cases device <;> simp [hostSw, ae, ca] at before inCores
  · intro device inEdges inAggregations
    cases device <;> simp [hostSw, ae] at inEdges inAggregations

/-- The plan gives no two devices the same octets. -/
theorem Device.octets_injOn {k : Nat} {device other : Device} (present : device.Exists k)
    (otherPresent : other.Exists k) (same : device.octets k = other.octets k) :
    device = other := by
  rcases device with ⟨i, j⟩ | ⟨i, j, h⟩ | ⟨i, j, h, _ | _⟩ | ⟨i, j, h, _ | _⟩
  all_goals rcases other with ⟨p, q⟩ | ⟨p, q, r⟩ | ⟨p, q, r, _ | _⟩ | ⟨p, q, r, _ | _⟩
  all_goals
    simp only [Device.octets, Device.Exists, Side.offset, Prod.mk.injEq]
      at present otherPresent same
    simp
    try omega

theorem Device.octets_bounds {k : Nat} (high : k ≤ 126) {device : Device}
    (present : device.Exists k) :
    (device.octets k).1 ≤ 255 ∧ (device.octets k).2.1 ≤ 255 ∧
      1 ≤ (device.octets k).2.2 ∧ (device.octets k).2.2 ≤ 254 := by
  rcases device with ⟨i, j⟩ | ⟨i, j, h⟩ | ⟨i, j, h, _ | _⟩ | ⟨i, j, h, _ | _⟩
  all_goals
    simp only [Device.octets, Device.Exists, Side.offset] at present ⊢
    omega

theorem Device.address_injOn {k : Nat} (high : k ≤ 126) {device other : Device}
    (present : device.Exists k) (otherPresent : other.Exists k)
    (same : device.address k = other.address k) : device = other := by
  have bounds := Device.octets_bounds high present
  have otherBounds := Device.octets_bounds high otherPresent
  apply Device.octets_injOn present otherPresent
  rw [Device.address, Device.address,
    Ipv4Address.ofOctets_inj (by decide) (by omega) (by omega)
    (by omega) (by decide) (by omega) (by omega) (by omega)] at same
  exact Prod.ext same.2.1 (Prod.ext same.2.2.1 same.2.2.2)

/-- Fat trees with up to 126 ports for each switch have addresses that never collide. -/
theorem assignAddresses_addressed (k : Nat) (high : k ≤ 126) :
    ∃ assigned, assignAddresses k = some assigned ∧ Addressed k assigned := by
  have names : (planned k (devices k)).map Prod.fst = devices k := by
    simp [planned, Function.comp_def]
  refine ⟨planned k (devices k), assignAddresses_eq high, ?_, ?_, ?_, ?_⟩
  · intro device
    rw [names, mem_devices]
  · rw [names]
    exact nodup_devices k
  · intro entry member
    rcases List.mem_map.mp member with ⟨device, present, rfl⟩
    exact ⟨rfl, Device.octets_bounds high ((mem_devices k device).mp present)⟩
  · have addresses : (planned k (devices k)).map Prod.snd =
        (devices k).map fun device => device.address k := by
      simp [planned, Function.comp_def]
    rw [addresses]
    apply (nodup_devices k).map_on
    intro device present other otherPresent
    exact Device.address_injOn high ((mem_devices k device).mp present)
      ((mem_devices k other).mp otherPresent)

/-- The fat tree of Fat-tree.cc. -/
theorem assignAddresses_addressed_four :
    ∃ assigned, assignAddresses 4 = some assigned ∧ Addressed 4 assigned :=
  assignAddresses_addressed 4 (by decide)

end DataCenter.FatTree
