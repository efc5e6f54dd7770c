import DataCenter.Portland.Hosts

/-! # The hardware addresses of Portland-Setup

`Mac48Address::Allocate` counts, and every `csma.Install` takes an address for the
device of its first node and then one for that of its second. -/

namespace DataCenter

/-- The octets of a number, the most significant ones first. -/
def Mac48Address.ofNumber (id : UInt64) : Mac48Address where
  octet0 := ((id >>> 40) &&& 0xff).toUInt8
  octet1 := ((id >>> 32) &&& 0xff).toUInt8
  octet2 := ((id >>> 24) &&& 0xff).toUInt8
  octet3 := ((id >>> 16) &&& 0xff).toUInt8
  octet4 := ((id >>> 8) &&& 0xff).toUInt8
  octet5 := ((id >>> 0) &&& 0xff).toUInt8

/-- The number that an address is. -/
def Mac48Address.number (address : Mac48Address) : Nat :=
  address.octet0.toNat * 2 ^ 40 + address.octet1.toNat * 2 ^ 32 +
    address.octet2.toNat * 2 ^ 24 +
    address.octet3.toNat * 2 ^ 16 + address.octet4.toNat * 2 ^ 8 + address.octet5.toNat

namespace Portland

open PortlandSwitchNetDevice

variable {k : Nat}

/-- The counter of `Mac48Address::Allocate`, and the addresses that devices have got. -/
structure Allocation (k : Nat) where
  id : UInt64 := 0
  address : Device k → Mac48Address := fun _ => {}

namespace Allocation

/-- `Mac48Address::Allocate` -/
def allocate (allocation : Allocation k) : Mac48Address × Allocation k :=
  let id := allocation.id + 1
  (.ofNumber id, { allocation with id })

/-- `CsmaHelper::InstallPriv` -/
def installPriv (allocation : Allocation k) (device : Device k) : Allocation k :=
  let (address, allocation) := allocation.allocate
  { allocation with address := Function.update allocation.address device address }

/-- `CsmaHelper::Install` for the two nodes of a link. -/
def install (allocation : Allocation k) (link : Link k) : Allocation k :=
  (allocation.installPriv (link.get 0)).installPriv (link.get 1)

def connectHosts (allocation : Allocation k) : Allocation k :=
  forEach k (fun i => forEach (k / 2) fun j => forEach (k / 2) fun h allocation =>
    allocation.install (.hostEdge i j h)) allocation

def connectAggregation (allocation : Allocation k) : Allocation k :=
  forEach k (fun i => forEach (k / 2) fun j => forEach (k / 2) fun h allocation =>
    allocation.install (.edgeAggregation i j h)) allocation

def connectCore (allocation : Allocation k) : Allocation k :=
  forEach (k / 2) (fun i => forEach (k / 2) fun j => forEach k fun h allocation =>
    allocation.install (.aggregationCore i j h)) allocation

/-- After the three loop nests that fill the arrays of `Containers.connected`. -/
def connected (k : Nat) : Allocation k :=
  connectCore (connectAggregation (connectHosts {}))

end Allocation

/-- The hardware addresses of the devices. -/
def allocated (k : Nat) : Device k → Mac48Address := (Allocation.connected k).address

/-! ## Numbers of devices -/

/-- The place of a link among all links, in the order in which they are installed. -/
def Link.number : Link k → Nat
  | .hostEdge i j h => (i * (k / 2) + j) * (k / 2) + h
  | .edgeAggregation i j h => k * (k / 2) * (k / 2) + ((i * (k / 2) + j) * (k / 2) + h)
  | .aggregationCore i j h =>
      k * (k / 2) * (k / 2) + (k * (k / 2) * (k / 2) + ((i * (k / 2) + j) * k + h))

def Device.number (device : Device k) : Nat := 2 * device.link.number + device.index + 1

/-- All links, in the order of the loops. -/
def links (k : Nat) : List (Link k) :=
  (iterations k (k / 2) (k / 2)).map (fun it => .hostEdge it.1 it.2.1 it.2.2) ++
    ((iterations k (k / 2) (k / 2)).map (fun it => .edgeAggregation it.1 it.2.1 it.2.2) ++
      (iterations (k / 2) (k / 2) k).map fun it => .aggregationCore it.1 it.2.1 it.2.2)

theorem nodup_links (k : Nat) : (links k).Nodup := by
  have hosts : Function.Injective fun it : Fin k × Fin (k / 2) × Fin (k / 2) =>
      Link.hostEdge it.1 it.2.1 it.2.2 := by
    intro first second same
    simpa [Prod.ext_iff] using same
  have aggregation : Function.Injective fun it : Fin k × Fin (k / 2) × Fin (k / 2) =>
      Link.edgeAggregation it.1 it.2.1 it.2.2 := by
    intro first second same
    simpa [Prod.ext_iff] using same
  have core : Function.Injective fun it : Fin (k / 2) × Fin (k / 2) × Fin k =>
      Link.aggregationCore it.1 it.2.1 it.2.2 := by
    intro first second same
    simpa [Prod.ext_iff] using same
  rw [links]
  apply List.Nodup.append
  · exact (nodup_iterations k (k / 2) (k / 2)).map hosts
  · apply List.Nodup.append
    · exact (nodup_iterations k (k / 2) (k / 2)).map aggregation
    · exact (nodup_iterations (k / 2) (k / 2) k).map core
    · intro link inAggregation inCore
      rcases List.mem_map.mp inAggregation with ⟨it, -, rfl⟩
      simp at inCore
  · intro link inHosts inOthers
    rcases List.mem_map.mp inHosts with ⟨it, -, rfl⟩
    simp at inOthers

theorem getElem?_links (link : Link k) : (links k)[link.number]? = some link := by
  have length : ((iterations k (k / 2) (k / 2)).map fun it =>
      Link.hostEdge it.1 it.2.1 it.2.2).length = k * (k / 2) * (k / 2) := by
    rw [List.length_map, length_iterations]
  have length' : ((iterations k (k / 2) (k / 2)).map fun it =>
      Link.edgeAggregation it.1 it.2.1 it.2.2).length = k * (k / 2) * (k / 2) := by
    rw [List.length_map, length_iterations]
  cases link with
  | hostEdge i j h =>
      have present := getElem?_iterations i j h
      have bound := (List.getElem?_eq_some_iff.mp present).1
      rw [links, Link.number, List.getElem?_append_left (by simpa using bound),
        List.getElem?_map, present]
      rfl
  | edgeAggregation i j h =>
      have present := getElem?_iterations i j h
      have bound := (List.getElem?_eq_some_iff.mp present).1
      rw [links, Link.number, List.getElem?_append_right (by omega), length,
        Nat.add_sub_cancel_left, List.getElem?_append_left (by simpa using bound),
        List.getElem?_map, present]
      rfl
  | aggregationCore i j h =>
      have present := getElem?_iterations i j h
      rw [links, Link.number, List.getElem?_append_right (by omega), length,
        Nat.add_sub_cancel_left, List.getElem?_append_right (by omega), length',
        Nat.add_sub_cancel_left, List.getElem?_map, present]
      rfl

namespace Allocation

theorem connected_eq (k : Nat) : connected k = (links k).foldl install {} := by
  rw [connected, connectCore, connectAggregation, connectHosts, forEach_nest,
    forEach_nest, forEach_nest, links, List.foldl_append, List.foldl_append,
    List.foldl_map, List.foldl_map, List.foldl_map]

@[simp] theorem id_install (allocation : Allocation k) (link : Link k) :
    (allocation.install link).id = allocation.id + 2 := by
  have both : (allocation.install link).id = allocation.id + 1 + 1 := rfl
  rw [both, UInt64.add_assoc]
  rfl

theorem address_install_own (allocation : Allocation k) (link : Link k) (place : Fin 2) :
    (allocation.install link).address (link.get place) =
      .ofNumber (allocation.id + UInt64.ofNat (place + 1)) := by
  fin_cases place
  · simp [install, installPriv, allocate, Link.get]
  · simp [install, installPriv, allocate, Link.get, UInt64.add_assoc]

theorem address_install_other (allocation : Allocation k) {link other : Link k}
    (different : other ≠ link) (place : Fin 2) :
    (allocation.install link).address (other.get place) =
      allocation.address (other.get place) := by
  simp [install, installPriv, allocate, Link.get, different]

theorem address_foldl_other {installed : List (Link k)} {link : Link k}
    (absent : link ∉ installed) (allocation : Allocation k) (place : Fin 2) :
    (installed.foldl install allocation).address (link.get place) =
      allocation.address (link.get place) := by
  induction installed generalizing allocation with
  | nil => rfl
  | cons other rest induction =>
      rw [List.mem_cons, not_or] at absent
      rw [List.foldl_cons, induction absent.2, address_install_other allocation absent.1]

/-- The devices of a link get the next two numbers when its turn comes. -/
theorem address_foldl {installed : List (Link k)} (nodup : installed.Nodup) {n : Nat}
    {link : Link k} (present : installed[n]? = some link) (allocation : Allocation k)
    (place : Fin 2) :
    (installed.foldl install allocation).address (link.get place) =
      .ofNumber (allocation.id + UInt64.ofNat (2 * n + place + 1)) := by
  induction installed generalizing allocation n with
  | nil => simp at present
  | cons first rest induction =>
      have parts := List.nodup_cons.mp nodup
      rw [List.foldl_cons]
      cases n with
      | zero =>
          cases present
          rw [address_foldl_other parts.1, address_install_own, Nat.mul_zero,
            Nat.zero_add]
      | succ n =>
          have counted : 2 * (n + 1) + place.val + 1 = 2 + (2 * n + place + 1) := by ring
          have sum := UInt64.ofNat_add 2 (2 * n + place + 1)
          rw [induction parts.2 present, id_install, counted, sum, UInt64.add_assoc]
          rfl

end Allocation

/-- Every device has its number as its hardware address. -/
theorem allocated_eq (device : Device k) :
    allocated k device = .ofNumber (UInt64.ofNat device.number) := by
  have address := Allocation.address_foldl (nodup_links k) (getElem?_links device.link) {}
    device.index
  rw [← Allocation.connected_eq, UInt64.zero_add] at address
  exact address

/-! ## Bounds -/

/-- Three of the links for each host. -/
theorem Link.number_lt (link : Link k) : link.number < 3 * (k * (k / 2) * (k / 2)) := by
  have bound := (List.getElem?_eq_some_iff.mp (getElem?_links link)).1
  have length : (links k).length = 3 * (k * (k / 2) * (k / 2)) := by
    simp only [links, List.length_append, List.length_map, length_iterations]
    ring
  rwa [length] at bound

theorem Device.number_lt (fits : k ≤ 256) (device : Device k) :
    device.number < 2 ^ 32 := by
  have link := device.link.number_lt
  have half : k / 2 ≤ 128 := by omega
  have hosts : k * (k / 2) * (k / 2) ≤ 256 * 128 * 128 :=
    Nat.mul_le_mul (Nat.mul_le_mul fits half) half
  have place := device.index.isLt
  rw [number]
  omega

/-! ## Numbers as PMACs -/

/-- An octet of a number. -/
theorem toNat_octet (id : UInt64) {shift : UInt64} (small : shift.toNat < 64) :
    ((id >>> shift) &&& 0xff).toUInt8.toNat = id.toNat / 2 ^ shift.toNat % 256 := by
  have mask : (0xff : UInt64).toNat = 2 ^ 8 - 1 := rfl
  rw [UInt64.toNat_toUInt8, UInt64.toNat_and, mask, Nat.and_two_pow_sub_one_eq_mod,
    UInt64.toNat_shiftRight, Nat.mod_eq_of_lt small, Nat.shiftRight_eq_div_pow,
    Nat.mod_mod]

theorem ofNumber_eq_iff {number : Nat} (small : number < 2 ^ 48)
    (address : Mac48Address) :
    Mac48Address.ofNumber (UInt64.ofNat number) = address ↔
      number = address.number := by
  have value : (UInt64.ofNat number).toNat = number := UInt64.toNat_ofNat_of_lt' (by
    have size : UInt64.size = 2 ^ 64 := rfl
    omega)
  rcases address with ⟨octet0, octet1, octet2, octet3, octet4, octet5⟩
  have bound0 := octet0.toNat_lt
  have bound1 := octet1.toNat_lt
  have bound2 := octet2.toNat_lt
  have bound3 := octet3.toNat_lt
  have bound4 := octet4.toNat_lt
  have bound5 := octet5.toNat_lt
  simp only [Mac48Address.ofNumber, Mac48Address.number, Mac48Address.mk.injEq,
    ← UInt8.toNat_inj]
  rw [toNat_octet _ (by decide), toNat_octet _ (by decide), toNat_octet _ (by decide),
    toNat_octet _ (by decide), toNat_octet _ (by decide), toNat_octet _ (by decide),
    value]
  simp only [UInt64.reduceToNat]
  omega

theorem number_pseudo (pod position port : UInt8) :
    (pseudo pod position port).number =
      pod.toNat * 2 ^ 32 + position.toNat * 2 ^ 24 + port.toNat * 2 ^ 16 + 1 := by
  simp [Mac48Address.number, pseudo]

theorem allocated_eq_iff (fits : k ≤ 256) (device : Device k) (address : Mac48Address) :
    allocated k device = address ↔ device.number = address.number := by
  have small := device.number_lt fits
  rw [allocated_eq, ofNumber_eq_iff (by omega)]

theorem allocated_ne_empty (fits : k ≤ 256) (device : Device k) :
    allocated k device ≠ {} := by
  rw [Ne, allocated_eq_iff fits]
  exact Nat.succ_ne_zero _

/-- The devices of second nodes have even numbers. -/
theorem allocated_ne_pseudo_of_second (fits : k ≤ 256) (link : Link k)
    (pod position port : UInt8) :
    allocated k (link.get 1) ≠ pseudo pod position port := by
  rw [Ne, allocated_eq_iff fits, number_pseudo]
  have even : (link.get 1).number = 2 * link.number + 2 := rfl
  omega

end Portland

end DataCenter
