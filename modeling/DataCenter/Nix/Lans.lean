import DataCenter.Ipv4AddressHelper
import DataCenter.Nix.Delivery

/-! # Networks of bridged segments and links

The scripts connect stations by segments of two kinds.  On a bridged segment each
station has a channel of its own to a port of the segment's bridge, and a
point-to-point link is one channel between two stations. -/

namespace DataCenter.NixVectorRouting

open BreadthFirst

namespace Lans

/-- Stations, and the bridges of segments. -/
inductive Node (Station Segment : Type) where
  | station (station : Station)
  | bridge (segment : Segment)
  deriving DecidableEq, Repr

/-- The device of a station on a segment, its port at the bridge, and the bridge
itself. -/
inductive Device (Station Segment : Type) where
  | loopback (node : Node Station Segment)
  | station (segment : Segment) (station : Station)
  | port (segment : Segment) (station : Station)
  | bridge (segment : Segment)
  deriving DecidableEq, Repr

inductive Channel (Station Segment : Type) where
  | cable (segment : Segment) (station : Station)
  | link (segment : Segment)
  | bridge (segment : Segment)
  deriving DecidableEq, Repr

end Lans

/-- Stations and their segments, and the octets behind the first one of their addresses.
All addresses differ, and none ends in 0 or 255. -/
structure Lans (Station Segment : Type) where
  nodes : List (Lans.Node Station Segment)
  bridged : Segment → Bool
  members : Segment → List Station
  segments : Station → List Segment
  octets : Segment → Station → Nat × Nat × Nat
  mem_segments_iff : ∀ station segment, segment ∈ segments station ↔
    station ∈ members segment
  listed : ∀ segment, ∀ station ∈ members segment, .station station ∈ nodes
  link : ∀ segment, bridged segment = false →
    (members segment).Nodup ∧ (members segment).length ≤ 2
  small : ∀ segment, ∀ station ∈ members segment, (octets segment station).1 < 256 ∧
    (octets segment station).2.1 < 256 ∧ 1 ≤ (octets segment station).2.2 ∧
    (octets segment station).2.2 ≤ 254
  apart : ∀ segment other, ∀ station ∈ members segment, ∀ neighbor ∈ members other,
    octets segment station = octets other neighbor → segment = other ∧ station = neighbor

namespace Lans

variable {Station Segment : Type}

/-! ## Addresses -/

/-- The address of a station on a segment. -/
def address (lans : Lans Station Segment) (segment : Segment) (station : Station) :
    Ipv4Address :=
  .ofOctets 10 (lans.octets segment station).1 (lans.octets segment station).2.1
    (lans.octets segment station).2.2

section Addresses

variable {lans : Lans Station Segment} {segment other : Segment}
  {station neighbor : Station}

theorem or_255 {octet : Nat} (small : octet < 256) : octet ||| 255 = 255 := by
  apply Nat.eq_of_testBit_eq
  intro index
  have mask : 255 = 2 ^ 8 - 1 := rfl
  rw [Nat.testBit_or, mask, Nat.testBit_two_pow_sub_one]
  by_cases low : index < 8
  · simp [low]
  · have high : octet < 2 ^ index :=
      small.trans_le (Nat.pow_le_pow_right (show 0 < 2 by decide) (not_lt.mp low))
    simp [low, Nat.testBit_lt_two_pow high]

theorem address_inj (member : station ∈ lans.members segment)
    (otherMember : neighbor ∈ lans.members other) :
    lans.address segment station = lans.address other neighbor ↔
      segment = other ∧ station = neighbor := by
  rcases lans.small segment station member with ⟨second, third, -, fourth⟩
  rcases lans.small other neighbor otherMember with
    ⟨otherSecond, otherThird, -, otherFourth⟩
  rw [address, address,
    Ipv4Address.ofOctets_inj (by decide) second third (by omega) (by decide)
    otherSecond otherThird (by omega)]
  constructor
  · intro same
    exact lans.apart segment other station member neighbor otherMember
      (Prod.ext same.2.1 (Prod.ext same.2.2.1 same.2.2.2))
  · intro same
    rcases same with ⟨rfl, rfl⟩
    exact ⟨rfl, rfl, rfl, rfl⟩

theorem address_ne (member : station ∈ lans.members segment)
    {first second third fourth : Nat}
    (firstSmall : first < 256) (secondSmall : second < 256) (thirdSmall : third < 256)
    (fourthSmall : fourth < 256) (differs : first ≠ 10 ∨ fourth = 255) :
    lans.address segment station ≠ .ofOctets first second third fourth := by
  rcases lans.small segment station member with ⟨ownSecond, ownThird, -, ownFourth⟩
  rw [address, ne_eq,
    Ipv4Address.ofOctets_inj (by decide) ownSecond ownThird (by omega) firstSmall
    secondSmall thirdSmall fourthSmall]
  omega

/-- The broadcast address of an interface of a station ends in 255. -/
theorem getBroadcast_eq (member : station ∈ lans.members segment) :
    (⟨lans.address segment station, 0xffffff00⟩ : Ipv4InterfaceAddress).getBroadcast =
      .ofOctets 10 (lans.octets segment station).1 (lans.octets segment station).2.1
        255 := by
  rcases lans.small segment station member with ⟨second, third, -, fourth⟩
  rw [Ipv4InterfaceAddress.getBroadcast, address]
  simp only [Ipv4Address.ofOctets, Ipv4Address.mk.injEq]
  rw [← UInt32.toNat_inj, UInt32.toNat_or, UInt32.toNat_ofNat_of_lt' (by
    simp only [UInt32.size]; omega),
      UInt32.toNat_ofNat_of_lt' (by simp only [UInt32.size]; omega)]
  have mask : (~~~(0xffffff00 : UInt32)).toNat = 255 := by decide
  have split (rest octet : Nat) (small : octet < 256) :
      rest * 256 + octet = rest <<< 8 ||| octet := by
    rw [← Nat.shiftLeft_add_eq_or_of_lt small, Nat.shiftLeft_eq]
  rw [mask, split _ (lans.octets segment station).2.2 (by omega), split _ 255 (by decide),
    Nat.or_assoc, or_255 (by omega)]

theorem toNat_address_lt (member : station ∈ lans.members segment) :
    (lans.address segment station).address.toNat < 11 * 2 ^ 24 := by
  rcases lans.small segment station member with ⟨second, third, -, fourth⟩
  rw [address, Ipv4Address.ofOctets,
    UInt32.toNat_ofNat_of_lt' (by simp only [UInt32.size]; omega)]
  omega

theorem isMulticast_address (member : station ∈ lans.members segment) :
    (lans.address segment station).isMulticast = false := by
  have small := toNat_address_lt member
  have below : ¬ (lans.address segment station).address ≥ 0xe0000000 := by
    rw [ge_iff_le, UInt32.le_iff_toNat_le]
    simp only [UInt32.reduceToNat]
    omega
  simp [Ipv4Address.isMulticast, below]

theorem isBroadcast_address (member : station ∈ lans.members segment) :
    (lans.address segment station).isBroadcast = false := by
  have small := toNat_address_lt member
  have differs : (lans.address segment station).address ≠ 0xffffffff := by
    intro same
    rw [same] at small
    simp at small
  simp [Ipv4Address.isBroadcast, differs]

/-- The last octet of the address of a station is not 255. -/
theorem isSubnetDirectedBroadcast_address (member : station ∈ lans.members segment) :
    (lans.address segment station).isSubnetDirectedBroadcast 0xffffff00 = false := by
  rcases lans.small segment station member with ⟨second, third, -, -⟩
  have differs : (⟨lans.address segment station, 0xffffff00⟩ :
      Ipv4InterfaceAddress).getBroadcast ≠ lans.address segment station := by
    rw [getBroadcast_eq member]
    exact (address_ne member (by decide) second third (by decide) (.inr rfl)).symm
  rw [Ipv4Address.isSubnetDirectedBroadcast, decide_eq_false_iff_not]
  intro directed
  exact differs (congrArg Ipv4Address.mk directed.2)

end Addresses

section Wiring

variable [DecidableEq Station] (lans : Lans Station Segment)

/-- The other stations on a segment. -/
def others (segment : Segment) (station : Station) : List Station :=
  (lans.members segment).filter fun other => other ≠ station

/-- The devices and channels, in the order in which they are created. -/
def wires :
    Wires (Node Station Segment) (Device Station Segment) (Channel Station Segment) where
  devices
    | .station station => .loopback (.station station) ::
        (lans.segments station).map fun segment => .station segment station
    | .bridge segment => .loopback (.bridge segment) ::
        (lans.members segment).map (.port segment) ++ [.bridge segment]
  node
    | .loopback node => node
    | .station _ station => .station station
    | .port segment _ => .bridge segment
    | .bridge segment => .bridge segment
  channel
    | .loopback _ => none
    | .station segment station =>
        if station ∈ lans.members segment then
          if lans.bridged segment then some (.cable segment station)
          else some (.link segment)
        else none
    | .port segment station =>
        if station ∈ lans.members segment then some (.cable segment station) else none
    | .bridge segment => some (.bridge segment)
  attached
    | .cable segment station => [.station segment station, .port segment station]
    | .link segment => (lans.members segment).map (.station segment)
    | .bridge segment => (lans.members segment).flatMap fun station =>
        [.station segment station, .port segment station]
  bridgePorts
    | .bridge segment => some ((lans.members segment).map (.port segment))
    | _ => none

/-- What `GetAdjacentNetDevices` comes to. -/
def adjacent : Device Station Segment → List (Device Station Segment)
  | .loopback _ => []
  | .station segment station => (lans.others segment station).map (.station segment)
  | .port segment station => [.station segment station]
  | .bridge segment => (lans.members segment).flatMap fun station =>
      .station segment station :: (lans.others segment station).map (.station segment)

theorem attached_cable (segment : Segment) (station : Station) :
    lans.wires.attached (.cable segment station) =
      [.station segment station, .port segment station] := rfl

theorem flatMap_others {α : Type} (make : Station → α) (list : List Station)
    (station : Station) :
    (list.flatMap fun other => if other = station then [] else [make other]) =
      (list.filter fun other => other ≠ station).map make := by
  induction list with
  | nil => rfl
  | cons first rest induction =>
      rw [List.flatMap_cons, induction]
      by_cases same : first = station
      · simp [same]
      · simp [same]

theorem mem_others {segment : Segment} {station other : Station} :
    other ∈ lans.others segment station ↔ other ∈ lans.members segment ∧
      other ≠ station := by
  simp [others]

theorem length_others {segment : Segment} {station : Station}
    (nodup : (lans.members segment).Nodup) (member : station ∈ lans.members segment) :
    (lans.others segment station).length + 1 = (lans.members segment).length := by
  have others : lans.others segment station = (lans.members segment).erase station := by
    rw [nodup.erase_eq_filter, Lans.others]
    apply List.filter_congr
    intro other _
    by_cases same : other = station <;> simp [same]
  rw [others, List.length_erase_add_one member]

/-- A link has one station besides each of the two. -/
theorem others_eq_of_link {segment : Segment} {station other : Station}
    (isLink : lans.bridged segment = false) (member : station ∈ lans.members segment)
    (isOther : other ∈ lans.others segment station) :
    lans.others segment station = [other] := by
  rcases lans.link segment isLink with ⟨nodup, few⟩
  have lengths :
      (lans.others segment station).length < (lans.members segment).length := by
    apply List.length_filter_lt_length_iff_exists.mpr
    exact ⟨station, member, by simp⟩
  have one : (lans.others segment station).length = 1 := by
    have some := List.length_pos_of_mem isOther
    omega
  rcases List.length_eq_one_iff.mp one with ⟨only, isOnly⟩
  rw [isOnly, List.mem_singleton] at isOther
  rw [isOnly, isOther]

/-! ## The stations -/

/-- The stations that a station can reach directly. -/
def neighbors (station : Station) : List Station :=
  (lans.segments station).flatMap fun segment => lans.others segment station

def Node.station? : Node Station Segment → Option Station
  | .station here => some here
  | .bridge _ => none

/-- The stations among the nodes. -/
def stations : Finset Station := (lans.nodes.filterMap Node.station?).toFinset

theorem mem_stations {station : Station} :
    station ∈ lans.stations ↔ .station station ∈ lans.nodes := by
  rw [stations, List.mem_toFinset, List.mem_filterMap]
  constructor
  · intro found
    rcases found with ⟨node, listed, isStation⟩
    cases node with
    | station _ =>
        cases isStation
        exact listed
    | bridge _ => cases isStation
  · intro listed
    exact ⟨_, listed, rfl⟩

theorem closed : ∀ station ∈ lans.stations, ∀ next ∈ lans.neighbors station,
    next ∈ lans.stations := by
  intro station _ next neighbour
  rcases List.mem_flatMap.mp neighbour with ⟨segment, -, isOther⟩
  exact lans.mem_stations.mpr (lans.listed segment next (lans.mem_others.mp isOther).1)

theorem length_neighbors_le {most : Nat}
    (bound : ∀ segment, (lans.members segment).length ≤ most) (station : Station) :
    (lans.neighbors station).length ≤ (lans.segments station).length * most := by
  rw [neighbors, List.length_flatMap, ← smul_eq_mul, ← List.length_map]
  apply List.sum_le_card_nsmul
  intro count isCount
  rcases List.mem_map.mp isCount with ⟨segment, -, rfl⟩
  exact (List.length_filter_le _ _).trans (bound segment)

/-! ## The walk through the bridges -/

variable [DecidableEq Segment]

theorem isBridged_station (segment : Segment) (station : Station) :
    lans.wires.netDeviceIsBridged (.station segment station) = none := by
  simp [Wires.netDeviceIsBridged, wires, List.findSome?_eq_none_iff]

theorem isBridged_port {segment : Segment} {station : Station}
    (member : station ∈ lans.members segment) :
    lans.wires.netDeviceIsBridged (.port segment station) =
      some ((lans.members segment).map (.port segment)) := by
  simp [Wires.netDeviceIsBridged, wires, List.findSome?_append, List.findSome?_map,
    member, Function.comp_def]

/-- From a port the walk goes down the cable. -/
theorem walk_port (fuel : Nat) (segment : Segment) (station : Station) :
    lans.wires.getAdjacentNetDevices (fuel + 1) (.port segment station)
      (some (.cable segment station)) = some [.station segment station] := by
  have up := Wires.visitRemote_station (lans.wires.getAdjacentNetDevices fuel)
    (show Device.station segment station ≠ .port segment station by simp)
    (lans.isBridged_station segment station)
  rw [Wires.getAdjacentNetDevices, attached_cable, collect, collect, collect, up,
    Wires.visitRemote_self]
  rfl

/-- At the port of a station the walk turns to the other stations of the segment. -/
theorem walk_ports (fuel : Nat) (segment : Segment) (station : Station) :
    collect (fun ndBridged =>
      if ndBridged = .port segment station then some []
      else lans.wires.getAdjacentNetDevices (fuel + 1) ndBridged
        (lans.wires.channel ndBridged))
      ((lans.members segment).map (.port segment)) =
    some ((lans.others segment station).map (.station segment)) := by
  have found : ∀ port ∈ (lans.members segment).map (.port segment),
      (if port = .port segment station then some []
        else lans.wires.getAdjacentNetDevices (fuel + 1) port (lans.wires.channel port)) =
      some (if port = .port segment station then [] else lans.adjacent port) := by
    intro port member
    rcases List.mem_map.mp member with ⟨other, otherIn, rfl⟩
    have channel :
        lans.wires.channel (.port segment other) = some (.cable segment other) := by
      simp [wires, otherIn]
    rw [channel, lans.walk_port]
    split <;> rfl
  rw [collect_eq found, List.flatMap_map, others, ← flatMap_others]
  simp [adjacent]

/-- On a bridged segment the walk reaches the other stations through the bridge. -/
theorem walk_cable (fuel : Nat) {segment : Segment} {station : Station}
    (member : station ∈ lans.members segment) :
    lans.wires.getAdjacentNetDevices (fuel + 2) (.station segment station)
        (some (.cable segment station)) =
      some ((lans.others segment station).map (.station segment)) := by
  have across := Wires.visitRemote_port (lans.wires.getAdjacentNetDevices (fuel + 1))
    (show Device.port segment station ≠ .station segment station by simp)
    (lans.isBridged_port member)
  rw [lans.walk_ports] at across
  rw [Wires.getAdjacentNetDevices, attached_cable, collect, collect, collect, across,
    Wires.visitRemote_self]
  simp

/-- A link has no bridge. -/
theorem walk_link (fuel : Nat) (segment : Segment) (station : Station) :
    lans.wires.getAdjacentNetDevices (fuel + 1) (.station segment station)
        (some (.link segment)) =
      some ((lans.others segment station).map (.station segment)) := by
  have found : ∀ remote ∈ lans.wires.attached (.link segment),
      lans.wires.visitRemote (lans.wires.getAdjacentNetDevices fuel)
        (.station segment station)
        remote = some (if remote = .station segment station then [] else [remote]) := by
    intro remote member
    rcases List.mem_map.mp member with ⟨other, -, rfl⟩
    split
    · next same => rw [same, Wires.visitRemote_self]
    · next away =>
        exact Wires.visitRemote_station _ away (lans.isBridged_station segment other)
  rw [Wires.getAdjacentNetDevices, collect_eq found]
  simp only [wires, List.flatMap_map, others, ← flatMap_others]
  simp

/-- The channel of a bridge has all devices on the cables. -/
theorem walk_bridge (fuel : Nat) (segment : Segment) :
    lans.wires.getAdjacentNetDevices (fuel + 2) (.bridge segment)
      (some (.bridge segment)) = some (lans.adjacent (.bridge segment)) := by
  have found : ∀ remote ∈ lans.wires.attached (.bridge segment),
      lans.wires.visitRemote (lans.wires.getAdjacentNetDevices (fuel + 1))
        (.bridge segment) remote = some (match remote with
          | .port segment station => (lans.others segment station).map (.station segment)
          | remote => [remote]) := by
    intro remote member
    rcases List.mem_flatMap.mp member with ⟨station, stationIn, isRemote⟩
    rcases List.mem_pair.mp isRemote with rfl | rfl
    · exact Wires.visitRemote_station _ (by simp) (lans.isBridged_station segment station)
    · rw [Wires.visitRemote_port _ (by simp) (lans.isBridged_port stationIn)]
      exact lans.walk_ports fuel segment station
  rw [Wires.getAdjacentNetDevices, collect_eq found]
  simp only [wires, adjacent, List.flatMap_assoc, List.flatMap_cons, List.flatMap_nil,
    List.append_nil, List.singleton_append]

/-- From every device the walk through the bridges comes to its end. -/
theorem walks (device : Device Station Segment) (start : Channel Station Segment)
    (channel : lans.wires.channel device = some start) :
    ∃ fuel, lans.wires.getAdjacentNetDevices fuel device (some start) =
      some (lans.adjacent device) := by
  cases device with
  | loopback node => cases channel
  | station segment station =>
      simp only [wires] at channel
      split at channel
      · next member =>
          split at channel
          · cases channel
            exact ⟨2, lans.walk_cable 0 member⟩
          · cases channel
            exact ⟨1, lans.walk_link 0 segment station⟩
      · cases channel
  | port segment station =>
      simp only [wires] at channel
      split at channel
      · cases channel
        exact ⟨1, lans.walk_port 0 segment station⟩
      · cases channel
  | bridge segment =>
      cases channel
      exact ⟨2, lans.walk_bridge 0 segment⟩

/-! ## The network -/

/-- The nodes have a loopback device each, and the stations an interface on each
segment. -/
def network :
    Network (Node Station Segment) (Device Station Segment)
      (Channel Station Segment) where
  toWires := lans.wires
  nodes := lans.nodes
  isLoopback
    | .loopback _ => true
    | _ => false
  needsArp
    | .loopback _ => false
    | .station segment _ => lans.bridged segment
    | _ => true
  isMulticast
    | .loopback _ => false
    | _ => true
  isLinkUp _ := true
  interface
    | .loopback _ => some { addresses := [⟨.getLoopback, 0xff000000⟩] }
    | .station segment station =>
        if station ∈ lans.members segment then
          some { addresses := [⟨lans.address segment station, 0xffffff00⟩] }
        else none
    | _ => none
  adjacent := lans.adjacent
  walks := lans.walks

theorem behind_station {segment : Segment} {station : Station}
    (member : station ∈ lans.members segment) :
    lans.network.behind (.station segment station) =
      (lans.others segment station).map (.station segment) := by
  have attached : (lans.network.channel (.station segment station)).isSome = true := by
    simp only [network, wires, member, if_true]
    split <;> rfl
  rw [Network.behind, if_pos attached]
  rfl

theorem behind_loopback (node : Node Station Segment) :
    lans.network.behind (.loopback node) = [] := rfl

/-- The graph of the search is the one of the stations. -/
theorem remotes_station (station : Station) :
    lans.network.remotes (.station station) = (lans.neighbors station).map .station := by
  have devices : lans.network.devices (.station station) = .loopback (.station station) ::
      (lans.segments station).map fun segment => .station segment station := rfl
  have each : ∀ segment ∈ lans.segments station,
      lans.network.behind (.station segment station) =
        (lans.others segment station).map (.station segment) := by
    intro segment member
    exact lans.behind_station ((lans.mem_segments_iff station segment).mp member)
  rw [Network.remotes, devices, List.flatMap_cons, behind_loopback, List.nil_append,
    List.flatMap_map, neighbors, List.flatMap_congr each, List.map_flatMap,
    List.map_flatMap]
  simp only [List.map_map]
  rfl

/-! ## Routers -/

def Node.isStation : Node Station Segment → Bool
  | .station _ => true
  | .bridge _ => false

/-- The stations among the nodes. -/
def routers : Finset (Node Station Segment) :=
  lans.nodes.toFinset.filter fun node => node.isStation

theorem mem_routers {node : Node Station Segment} :
    node ∈ lans.routers ↔ node ∈ lans.nodes ∧ ∃ station, node = .station station := by
  rw [routers, Finset.mem_filter, List.mem_toFinset]
  apply and_congr_right
  intro _
  cases node with
  | station station => simp [Node.isStation]
  | bridge segment => simp [Node.isStation]

variable {lans} {segment : Segment} {station other : Station}

theorem addresses_station (member : station ∈ lans.members segment) :
    lans.network.addresses (.station segment station) =
      [⟨lans.address segment station, 0xffffff00⟩] := by
  simp [Network.addresses, network, member]

theorem works_loopback (node : Node Station Segment) :
    lans.network.Works (.loopback node) where
  notBridge := rfl
  linkUp := rfl
  interface := ⟨_, rfl, rfl, fun _ => rfl⟩
  sends attached := by cases attached
  gateway remote behind := by cases behind

theorem works_station (member : station ∈ lans.members segment) :
    lans.network.Works (.station segment station) where
  notBridge := rfl
  linkUp := rfl
  interface := by
    refine ⟨{ addresses := [⟨lans.address segment station, 0xffffff00⟩] }, ?_, rfl,
      fun _ => rfl⟩
    simp [network, member]
  sends _ := by
    refine ⟨rfl, ?_⟩
    simp [Network.getLocal, addresses_station member]
  gateway remote behind := by
    rw [lans.behind_station member] at behind ⊢
    rcases List.mem_map.mp behind with ⟨other, isOther, rfl⟩
    rcases lans.mem_others.mp isOther with ⟨otherMember, away⟩
    refine ⟨lans.address segment other, ?_, ?_, ?_, ?_, ?_⟩
    · simp [Network.getLocal, addresses_station otherMember]
    · exact address_ne otherMember (show 102 < 256 by decide) (show 102 < 256 by decide)
        (show 102 < 256 by decide) (show 102 < 256 by decide) (by decide)
    · exact address_ne otherMember (show 0 < 256 by decide) (show 0 < 256 by decide)
        (show 0 < 256 by decide) (show 0 < 256 by decide) (by decide)
    · intro own isOwn
      rw [addresses_station member, List.mem_singleton] at isOwn
      rw [isOwn]
      intro same
      exact away ((address_inj member otherMember).mp same).2.symm
    · cases kind : lans.bridged segment with
      | true =>
          have arp : lans.network.needsArp (.station segment station) = true := kind
          rw [if_pos arp]
          intro another anotherBehind owns
          rcases List.mem_map.mp anotherBehind with ⟨third, isThird, rfl⟩
          have thirdMember := (lans.mem_others.mp isThird).1
          rcases owns with ⟨own, isOwn, same⟩
          rw [addresses_station thirdMember, List.mem_singleton] at isOwn
          rw [isOwn] at same
          rw [((address_inj thirdMember otherMember).mp same).2]
      | false =>
          have arp : ¬ lans.network.needsArp (.station segment station) = true := by
            intro needs
            exact absurd (kind.symm.trans needs) (by decide)
          rw [if_neg arp, lans.others_eq_of_link kind member isOther]
          rfl

/-- Nix-vector routing is at work at the stations. -/
theorem routable (few : lans.nodes.length < 2 ^ 27)
    (counts : ∀ station, (lans.neighbors station).length < 2 ^ 32) :
    Routable lans.network lans.routers where
  listed node member := (lans.mem_routers.mp member).1
  works node member device deviceIn := by
    rcases lans.mem_routers.mp member with ⟨-, station, rfl⟩
    rcases List.mem_cons.mp deviceIn with rfl | isStation
    · exact works_loopback _
    · rcases List.mem_map.mp isStation with ⟨segment, segmentIn, rfl⟩
      exact works_station ((lans.mem_segments_iff station segment).mp segmentIn)
  leads node member device deviceIn remote behind := by
    rcases lans.mem_routers.mp member with ⟨-, station, rfl⟩
    rcases List.mem_cons.mp deviceIn with rfl | isStation
    · cases behind
    · rcases List.mem_map.mp isStation with ⟨segment, segmentIn, rfl⟩
      rw [lans.behind_station ((lans.mem_segments_iff station segment).mp segmentIn)]
        at behind
      rcases List.mem_map.mp behind with ⟨other, isOther, rfl⟩
      have otherMember := (lans.mem_others.mp isOther).1
      refine ⟨lans.mem_routers.mpr ⟨lans.listed segment other otherMember, other, rfl⟩,
        ?_, ?_⟩
      · exact List.mem_cons_of_mem _ (List.mem_map.mpr
          ⟨segment, (lans.mem_segments_iff other segment).mpr otherMember, rfl⟩)
      · simp only [network, wires, otherMember, if_true]
        split <;> rfl
  neighbors node member := by
    rcases lans.mem_routers.mp member with ⟨-, station, rfl⟩
    rw [lans.remotes_station, List.length_map]
    exact counts station
  few := by
    have stations := Finset.card_filter_le lans.nodes.toFinset fun node => node.isStation
    have all := List.toFinset_card_le lans.nodes
    exact (stations.trans all).trans_lt few

/-- Stations forward to each other by the addresses of stations. -/
theorem forwardable (few : lans.nodes.length < 2 ^ 27)
    (counts : ∀ station, (lans.neighbors station).length < 2 ^ 32) :
    Forwardable lans.network lans.routers where
  toRoutable := routable few counts
  unicast node member device deviceIn _ remote behind address isLocal := by
    rcases lans.mem_routers.mp member with ⟨-, station, rfl⟩
    rcases List.mem_cons.mp deviceIn with rfl | isStation
    · cases behind
    · rcases List.mem_map.mp isStation with ⟨segment, segmentIn, rfl⟩
      have here := (lans.mem_segments_iff station segment).mp segmentIn
      rw [lans.behind_station here] at behind
      rcases List.mem_map.mp behind with ⟨other, isOther, rfl⟩
      have there := (lans.mem_others.mp isOther).1
      rw [Network.getLocal, addresses_station there] at isLocal
      cases isLocal
      refine ⟨isBroadcast_address there, isMulticast_address there, ?_⟩
      intro own isOwn
      rw [addresses_station here, List.mem_singleton] at isOwn
      rw [isOwn]
      exact isSubnetDirectedBroadcast_address there

/-- Every address of a node is the one of its loopback device or the one of a station on a
segment. -/
theorem own_cases {node : Node Station Segment} {device : Device Station Segment}
    (deviceIn : device ∈ lans.network.devices node) {own : Ipv4InterfaceAddress}
    (isOwn : own ∈ lans.network.addresses device) :
    own = ⟨.getLoopback, 0xff000000⟩ ∨ ∃ segment station, node = .station station ∧
      station ∈ lans.members segment ∧
      own = ⟨lans.address segment station, 0xffffff00⟩ := by
  cases node with
  | station station =>
      rcases List.mem_cons.mp deviceIn with rfl | isStation
      · exact .inl (List.mem_singleton.mp isOwn)
      · rcases List.mem_map.mp isStation with ⟨segment, segmentIn, rfl⟩
        have member := (lans.mem_segments_iff station segment).mp segmentIn
        rw [addresses_station member, List.mem_singleton] at isOwn
        exact .inr ⟨segment, station, rfl, member, isOwn⟩
  | bridge segment =>
      rcases List.mem_append.mp deviceIn with first | last
      · rcases List.mem_cons.mp first with rfl | isPort
        · exact .inl (List.mem_singleton.mp isOwn)
        · rcases List.mem_map.mp isPort with ⟨station, -, rfl⟩
          cases isOwn
      · cases List.mem_singleton.mp last
        cases isOwn

/-- Only the station itself has its address. -/
theorem owns_iff (member : station ∈ lans.members segment) (node : Node Station Segment) :
    (∃ device ∈ lans.network.devices node, ∃ own ∈ lans.network.addresses device,
      own.getLocal = lans.address segment station) ↔ node = .station station := by
  constructor
  · intro owned
    rcases owned with ⟨device, deviceIn, own, isOwn, same⟩
    rcases own_cases deviceIn isOwn with rfl | ⟨other, neighbor, rfl, otherMember, rfl⟩
    · exact absurd same.symm
        (address_ne member (show 127 < 256 by decide) (show 0 < 256 by decide)
        (show 0 < 256 by decide) (show 1 < 256 by decide) (by decide))
    · rw [((address_inj otherMember member).mp same).2]
  · intro same
    subst same
    refine ⟨.station segment station, ?_, ⟨lans.address segment station, 0xffffff00⟩,
      ?_, rfl⟩
    · exact List.mem_cons_of_mem _ (List.mem_map.mpr
        ⟨segment, (lans.mem_segments_iff station segment).mpr member, rfl⟩)
    · rw [addresses_station member]
      exact List.mem_singleton.mpr rfl

/-- The address of a station is no broadcast address of an interface. -/
theorem getBroadcast_ne (member : station ∈ lans.members segment)
    {node : Node Station Segment}
    {device : Device Station Segment} (deviceIn : device ∈ lans.network.devices node)
    {own : Ipv4InterfaceAddress} (isOwn : own ∈ lans.network.addresses device) :
    own.getBroadcast ≠ lans.address segment station := by
  rcases own_cases deviceIn isOwn with rfl | ⟨other, neighbor, rfl, otherMember, rfl⟩
  · exact (address_ne member (show 127 < 256 by decide) (show 255 < 256 by decide)
      (show 255 < 256 by decide) (show 255 < 256 by decide) (by decide)).symm
  · rcases lans.small other neighbor otherMember with ⟨second, third, -, -⟩
    rw [getBroadcast_eq otherMember]
    exact (address_ne member (by decide) second third (by decide) (.inr rfl)).symm

/-- An address of a station leads to it. -/
theorem addressed (member : station ∈ lans.members segment) :
    Addressed lans.network (lans.address segment station) (.station station) where
  found := by
    have unique (node : Node Station Segment) :
        ((lans.network.devices node).any fun device => (lans.network.addresses device).any
          fun own => own.getLocal = lans.address segment station) = true ↔
          node = .station station := by
      rw [← owns_iff member node]
      simp
    have listed : .station station ∈ lans.network.nodes :=
      lans.listed segment station member
    rw [Network.getNodeByIp]
    cases found : lans.network.nodes.find? _ with
    | none => exact absurd ((unique _).mpr rfl) (List.find?_eq_none.mp found _ listed)
    | some node =>
        have owns := List.find?_some found
        rw [(unique node).mp owns]
  accepted node := by
    have broadcast : ¬ ∃ device ∈ lans.network.devices node,
        ∃ own ∈ lans.network.addresses device,
          own.getBroadcast = lans.address segment station := by
      intro owned
      rcases owned with ⟨device, deviceIn, own, isOwn, same⟩
      exact getBroadcast_ne member deviceIn isOwn same
    rw [← owns_iff member node]
    simp only [Network.isDestinationAddress, isMulticast_address member,
      isBroadcast_address member, Bool.false_eq_true, or_false, decide_eq_true_eq,
      List.any_eq_true]
    constructor
    · intro taken
      rcases taken with ⟨device, deviceIn, own, isOwn, same | same⟩
      · exact ⟨device, deviceIn, own, isOwn, same.symm⟩
      · exact absurd ⟨device, deviceIn, own, isOwn, same.symm⟩ broadcast
    · intro owned
      rcases owned with ⟨device, deviceIn, own, isOwn, same⟩
      exact ⟨device, deviceIn, own, isOwn, .inl same.symm⟩

/-! ## Ways between stations -/

theorem least_station_iff {way : List Nat} {target : Station} :
    Least lans.network.remotes (.station station) (.station target) way ↔
      Least lans.neighbors station target way := by
  apply least_copy_iff lans.remotes_station
  intro first second same
  cases same
  rfl

/-- The nodes on a route between stations are stations. -/
theorem exists_of_onRoute {source target : Station} {node : Node Station Segment}
    {way : List Nat}
    (onRoute : OnRoute lans.network (.station source) (.station target) node way) :
    ∃ before station, node = .station station ∧
      Least lans.neighbors source target (before ++ way) ∧
      follow lans.neighbors source before = some station := by
  rcases onRoute with ⟨before, least, leads⟩
  rw [follow_copy lans.remotes_station, Option.map_eq_some_iff] at leads
  rcases leads with ⟨station, reached, rfl⟩
  exact ⟨before, station, rfl, least_station_iff.mp least, reached⟩

/-- A packet for an address of another station. -/
theorem sends {source target : Station} (listed : .station source ∈ lans.nodes)
    (member : target ∈ lans.members segment) (away : source ≠ target) {way : List Nat}
    (least : Least lans.neighbors source target way) {header : Header}
    (destination : header.destination = lans.address segment target)
    (ttl : way.length ≤ header.ttl.toNat) :
    Sends lans.network lans.routers (.station source) header (.station target) way where
  member := lans.mem_routers.mpr ⟨listed, source, rfl⟩
  addressed := destination ▸ addressed member
  away same := away (by cases same; rfl)
  least := least_station_iff.mpr least
  ttl := ttl

/-- The way out of a station is a segment that the next station is on too. -/
theorem exists_of_firstHop {source : Station} {dest : Ipv4Address} {index : Nat}
    {route : Ipv4Route (Device Station Segment)} {remote : Device Station Segment}
    (hop : FirstHop lans.network (.station source) dest index route remote) :
    ∃ segment next, source ∈ lans.members segment ∧ next ∈ lans.others segment source ∧
      remote = .station segment next ∧ route.source = lans.address segment source := by
  have leads := hop.leads
  rcases List.mem_cons.mp leads.device with isLoopback | isStation
  · have behind := leads.behind
    rw [isLoopback] at behind
    cases behind
  · rcases List.mem_map.mp isStation with ⟨segment, segmentIn, isDevice⟩
    have member := (lans.mem_segments_iff source segment).mp segmentIn
    have behind := leads.behind
    rw [← isDevice, lans.behind_station member] at behind
    rcases List.mem_map.mp behind with ⟨other, isOther, rfl⟩
    have isLocal := leads.source
    rw [← isDevice, Network.getLocal, addresses_station member] at isLocal
    exact ⟨segment, other, member, isOther, rfl, (Option.some.inj isLocal).symm⟩

/-- A packet gets the address of its source on a segment that the next station is on
too. -/
theorem exists_departs {source next : Station} {target : Node Station Segment}
    {header : Header}
    {index : Nat} {way : List Nat} {routers : Finset (Node Station Segment)}
    (sends : Sends lans.network routers (.station source) header target (index :: way))
    (routable : Routable lans.network routers)
    (present : (lans.neighbors source)[index]? = some next) :
    ∃ segment, source ∈ lans.members segment ∧ next ∈ lans.others segment source ∧
      Departs lans.network (.station source) header.destination
        (lans.address segment source) := by
  rcases sends.exists_firstHop routable with ⟨route, remote, hop⟩
  rcases exists_of_firstHop hop with ⟨segment, other, member, isOther, rfl, isSource⟩
  have sameNext := hop.next
  rw [remotes_station, List.getElem?_map, present] at sameNext
  cases sameNext
  exact ⟨segment, member, isOther, isSource ▸ hop.departs sends⟩

/-- An address that a station gives its packets is one of its own. -/
theorem exists_of_departs {source : Station} {routers : Finset (Node Station Segment)}
    (routable : Routable lans.network routers) (listed : .station source ∈ routers)
    {dest address : Ipv4Address}
    (departs : Departs lans.network (.station source) dest address) :
    ∃ segment, source ∈ lans.members segment ∧ address = lans.address segment source := by
  rcases departs with ⟨next, route, onward, built, rfl⟩
  rcases onward.exists_route with ⟨target, index, way, addressed, least, present⟩
  rcases routable.exists_buildRoute listed onward.mem_remotes dest with
    ⟨same, remote, builtToo, leads, rfl⟩
  cases built.symm.trans builtToo
  rcases exists_of_firstHop ⟨present, built, leads⟩ with
    ⟨segment, -, member, -, -, isSource⟩
  exact ⟨segment, member, isSource⟩

/-! ## Runs -/

/-- The routers of the stations, the packets in flight and what was delivered. -/
abbrev State (Station Segment : Type) : Type :=
  Courier.State (Node Station Segment → Router (Device Station Segment))
    (Message (Node Station Segment) (Device Station Segment)) Unit
      (Node Station Segment × Header)

variable (lans) in
/-- The states that are reached while stations send packets between some pairs of
nodes. -/
def Reached (wide : UInt32 → UInt32)
    (between : Node Station Segment → Node Station Segment → Prop)
    (state : State Station Segment) : Prop :=
  (Courier.step (lans.network.handle wide)).Reachable
    (Courier.Event.Permitted (lans.network.Permits lans.routers between))
    { system := fun _ => {} } state

variable (lans) in
theorem reached_start (wide : UInt32 → UInt32)
    (between : Node Station Segment → Node Station Segment → Prop) :
    lans.Reached wide between { system := fun _ => {} } :=
  ⟨[], by simp, rfl⟩

end Wiring

end Lans

end DataCenter.NixVectorRouting
