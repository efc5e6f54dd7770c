import DataCenter.FatTree
import DataCenter.Nix.Lans

/-! # Nix-vector routing in the fat tree

The network that `main` in Fat-tree-AlFares.cc sets up.  Of all the core switches, the
routes between hosts use one. -/

namespace DataCenter.FatTree

open NixVectorRouting BreadthFirst

/-! ## The network -/

/-- The nodes with addresses.  An aggregation switch has the number of its core group. -/
inductive Station where
  | host (i j h : Nat)
  | edge (i j : Nat)
  | agg (i j : Nat)
  | core (i j : Nat)
  deriving DecidableEq, Repr

/-- The bridge of an edge switch and its hosts, and the links. -/
inductive Segment where
  | bridge (i j : Nat)
  | ae (i j h : Nat)
  | ca (i j h : Nat)
  deriving DecidableEq, Repr

/-- The stations on a segment, in the order in which they are connected to it. -/
def stationsOf (k : Nat) : Segment → List Station
  | .bridge i j =>
      if i < k ∧ j < k / 2 then .edge i j :: (List.range (k / 2)).map (.host i j) else []
  | .ae i j h => if i < k ∧ j < k / 2 ∧ h < k / 2 then [.agg i j, .edge i h] else []
  | .ca i j h => if i < k / 2 ∧ j < k / 2 ∧ h < k then [.core i j, .agg h i] else []

/-- The segments of a station, in the order in which it is connected to them. -/
def segmentsOf (k : Nat) : Station → List Segment
  | .host i j h => if i < k ∧ j < k / 2 ∧ h < k / 2 then [.bridge i j] else []
  | .edge i j =>
      if i < k ∧ j < k / 2 then
        .bridge i j :: (List.range (k / 2)).map fun agg => .ae i agg j
      else []
  | .agg i j =>
      if i < k ∧ j < k / 2 then
        (List.range (k / 2)).map (fun h => .ae i j h) ++
          (List.range (k / 2)).map fun core => .ca j core i
      else []
  | .core i j => if i < k / 2 ∧ j < k / 2 then (List.range k).map (.ca i j) else []

/-- The device that a station has on a segment. -/
def deviceOf : Segment → Station → Device
  | .bridge i j, .host _ _ h => .host i j h
  | .bridge i j, _ => .edge i j
  | .ae i j h, .agg _ _ => .ae i j h .upper
  | .ae i j h, _ => .ae i j h .lower
  | .ca i j h, .core _ _ => .ca i j h .upper
  | .ca i j h, _ => .ca i j h .lower

/-- The segment of a device and the station that it belongs to. -/
def placeOf : Device → Segment × Station
  | .edge i j => (.bridge i j, .edge i j)
  | .host i j h => (.bridge i j, .host i j h)
  | .ae i j h .upper => (.ae i j h, .agg i j)
  | .ae i j h .lower => (.ae i j h, .edge i h)
  | .ca i j h .upper => (.ca i j h, .core i j)
  | .ca i j h .lower => (.ca i j h, .agg h i)

/-- The nodes in the order of their creation. -/
def nodes (k : Nat) : List (Lans.Node Station Segment) :=
  ((List.range (k / 2)).flatMap fun i => (List.range (k / 2)).map fun j =>
    .station (.core i j)) ++
    ((List.range k).flatMap fun i => (List.range (k / 2)).map fun j =>
      .station (.agg i j)) ++
    ((List.range k).flatMap fun i => (List.range (k / 2)).map fun j =>
      .station (.edge i j)) ++
    ((List.range k).flatMap fun i => (List.range (k / 2)).map fun j =>
      .bridge (.bridge i j)) ++
    (List.range k).flatMap fun i => (List.range (k / 2)).flatMap fun j =>
      (List.range (k / 2)).map fun h => .station (.host i j h)

/-- The stations of the tree. -/
def Station.Exists (k : Nat) : Station → Prop
  | .host i j h => i < k ∧ j < k / 2 ∧ h < k / 2
  | .edge i j => i < k ∧ j < k / 2
  | .agg i j => i < k ∧ j < k / 2
  | .core i j => i < k / 2 ∧ j < k / 2

section Members

variable {k : Nat} {segment other : Segment} {station neighbor : Station}

theorem mem_segmentsOf_iff (k : Nat) (station : Station) (segment : Segment) :
    segment ∈ segmentsOf k station ↔ station ∈ stationsOf k segment := by
  cases station
  all_goals cases segment
  all_goals
    simp only [segmentsOf, stationsOf]
    split <;> split
    all_goals
      simp
      try omega

theorem exists_of_mem (member : station ∈ stationsOf k segment) : station.Exists k := by
  cases station
  all_goals cases segment
  all_goals
    simp only [stationsOf] at member
    split at member
    all_goals
      simp at member
      try simp only [Station.Exists]
      try omega

theorem deviceOf_exists (member : station ∈ stationsOf k segment) :
    (deviceOf segment station).Exists k := by
  cases station
  all_goals cases segment
  all_goals
    simp only [stationsOf] at member
    split at member
    all_goals
      simp at member
      try simp only [deviceOf, Device.Exists]
      try omega

theorem placeOf_deviceOf (member : station ∈ stationsOf k segment) :
    placeOf (deviceOf segment station) = (segment, station) := by
  cases station
  all_goals cases segment
  all_goals
    simp only [stationsOf] at member
    split at member
    all_goals
      simp at member
      try simp [deviceOf, placeOf, member]

/-- A device belongs to one station on one segment. -/
theorem deviceOf_inj (member : station ∈ stationsOf k segment)
    (otherMember : neighbor ∈ stationsOf k other)
    (same : deviceOf segment station = deviceOf other neighbor) :
    segment = other ∧ station = neighbor := by
  have here := placeOf_deviceOf member
  rw [same, placeOf_deviceOf otherMember] at here
  exact ⟨(Prod.mk.inj here).1.symm, (Prod.mk.inj here).2.symm⟩

theorem station_mem_nodes_iff : .station station ∈ nodes k ↔ station.Exists k := by
  cases station <;> simp [nodes, Station.Exists]

end Members

/-- The network of the fat tree. -/
def lans (k : Nat) (high : k ≤ 126) : Lans Station Segment where
  nodes := nodes k
  bridged
    | .bridge _ _ => true
    | _ => false
  members := stationsOf k
  segments := segmentsOf k
  octets segment station := (deviceOf segment station).octets k
  mem_segments_iff := mem_segmentsOf_iff k
  listed segment station member := station_mem_nodes_iff.mpr (exists_of_mem member)
  link segment isLink := by
    cases segment with
    | bridge i j => cases isLink
    | ae i j h =>
        rw [stationsOf]
        split <;> simp
    | ca i j h =>
        rw [stationsOf]
        split <;> simp
  small segment station member := by
    have bounds := Device.octets_bounds high (deviceOf_exists member)
    omega
  apart segment other station member neighbor otherMember same :=
    deviceOf_inj member otherMember
      (Device.octets_injOn (deviceOf_exists member) (deviceOf_exists otherMember) same)

/-! ## The neighbors of a station -/

section Neighbors

variable {k : Nat} (high : k ≤ 126)

/-- A station with one other station on each of a row of links. -/
theorem flatMap_others_of_links {station : Station} {count : Nat} {link : Nat → Segment}
    {far : Nat → Station}
    (single : ∀ index < count, (lans k high).others (link index) station = [far index]) :
    ((List.range count).map link).flatMap
      (fun segment => (lans k high).others segment station) =
      (List.range count).map far := by
  rw [List.flatMap_map, List.map_eq_flatMap]
  apply List.flatMap_congr
  intro index member
  exact single index (List.mem_range.mp member)

theorem neighbors_edge {i j : Nat} (present : i < k ∧ j < k / 2) :
    (lans k high).neighbors (.edge i j) =
      (List.range (k / 2)).map (.host i j) ++ (List.range (k / 2)).map (.agg i) := by
  have segments : (lans k high).segments (.edge i j) =
      .bridge i j :: (List.range (k / 2)).map fun agg => .ae i agg j := if_pos present
  have hosts : (lans k high).others (.bridge i j) (.edge i j) =
      (List.range (k / 2)).map (.host i j) := by
    simp [Lans.others, lans, stationsOf, present]
  rw [Lans.neighbors, segments, List.flatMap_cons, hosts]
  congr 1
  apply flatMap_others_of_links
  intro agg small
  simp [Lans.others, lans, stationsOf, present, small]

theorem neighbors_agg {i j : Nat} (present : i < k ∧ j < k / 2) :
    (lans k high).neighbors (.agg i j) =
      (List.range (k / 2)).map (.edge i) ++ (List.range (k / 2)).map (.core j) := by
  have segments : (lans k high).segments (.agg i j) =
      (List.range (k / 2)).map (fun h => .ae i j h) ++
        (List.range (k / 2)).map fun core => .ca j core i := if_pos present
  rw [Lans.neighbors, segments, List.flatMap_append]
  congr 1
  · apply flatMap_others_of_links
    intro h small
    simp [Lans.others, lans, stationsOf, present, small]
  · apply flatMap_others_of_links
    intro core small
    simp [Lans.others, lans, stationsOf, present, small]

theorem neighbors_core {i j : Nat} (present : i < k / 2 ∧ j < k / 2) :
    (lans k high).neighbors (.core i j) = (List.range k).map fun h => .agg h i := by
  have segments : (lans k high).segments (.core i j) = (List.range k).map (.ca i j) :=
    if_pos present
  rw [Lans.neighbors, segments]
  apply flatMap_others_of_links
  intro h small
  simp [Lans.others, lans, stationsOf, present, small]

theorem neighbors_host {i j h : Nat} (present : i < k ∧ j < k / 2 ∧ h < k / 2) :
    (lans k high).neighbors (.host i j h) =
      .edge i j :: ((List.range (k / 2)).filter fun other => other ≠ h).map
        (.host i j) := by
  have segments : (lans k high).segments (.host i j h) = [.bridge i j] := if_pos present
  have members : (lans k high).members (.bridge i j) =
      .edge i j :: (List.range (k / 2)).map (.host i j) := if_pos ⟨present.1, present.2.1⟩
  rw [Lans.neighbors, segments, List.flatMap_singleton, Lans.others, members,
    List.filter_cons, List.filter_map]
  simp [Function.comp_def]

theorem neighbors_of_absent {station : Station} (absent : ¬ station.Exists k) :
    (lans k high).neighbors station = [] := by
  have none : (lans k high).segments station = [] := by
    cases station with
    | host i j h => exact if_neg absent
    | edge i j => exact if_neg absent
    | agg i j => exact if_neg absent
    | core i j => exact if_neg absent
  rw [Lans.neighbors, none, List.flatMap_nil]

end Neighbors

/-! ## Shortest routes -/

/-- The number of hops that lie between a station and the host `(p, q, r)`. -/
def height (p q r : Nat) : Station → Nat
  | .host i j h => if i = p then if j = q then if h = r then 0 else 1 else 4 else 6
  | .edge i j => if i = p then if j = q then 1 else 3 else 5
  | .agg i _ => if i = p then 2 else 4
  | .core _ _ => 3

section Routes

variable {k : Nat} (high : k ≤ 126) {p q r : Nat}

/-- A station has the neighbors of one layer below, of its own layer or of the one
above. -/
theorem height_le_of_neighbor (p q r : Nat) {station next : Station}
    (neighbor : next ∈ (lans k high).neighbors station) :
    height p q r station ≤ height p q r next + 1 := by
  by_cases present : station.Exists k
  · cases station with
    | host i j h =>
        rw [neighbors_host high present] at neighbor
        rcases List.mem_cons.mp neighbor with rfl | isHost
        · simp only [height]
          split_ifs <;> omega
        · rcases List.mem_map.mp isHost with ⟨other, -, rfl⟩
          simp only [height]
          split_ifs <;> omega
    | edge i j =>
        rw [neighbors_edge high present] at neighbor
        rcases List.mem_append.mp neighbor with isHost | isAgg
        · rcases List.mem_map.mp isHost with ⟨h, -, rfl⟩
          simp only [height]
          split_ifs <;> omega
        · rcases List.mem_map.mp isAgg with ⟨agg, -, rfl⟩
          simp only [height]
          split_ifs <;> omega
    | agg i j =>
        rw [neighbors_agg high present] at neighbor
        rcases List.mem_append.mp neighbor with isEdge | isCore
        · rcases List.mem_map.mp isEdge with ⟨h, -, rfl⟩
          simp only [height]
          split_ifs <;> omega
        · rcases List.mem_map.mp isCore with ⟨core, -, rfl⟩
          simp only [height]
          split_ifs <;> omega
    | core i j =>
        rw [neighbors_core high present] at neighbor
        rcases List.mem_map.mp neighbor with ⟨h, -, rfl⟩
        simp only [height]
        split_ifs <;> omega
  · rw [neighbors_of_absent high present] at neighbor
    cases neighbor

theorem exists_of_neighbor {station next : Station}
    (neighbor : next ∈ (lans k high).neighbors station) : next.Exists k := by
  rcases List.mem_flatMap.mp neighbor with ⟨segment, -, isOther⟩
  exact exists_of_mem ((lans k high).mem_others.mp isOther).1

/-- Every station has a neighbor that is closer to the host. -/
theorem exists_lower (pSmall : p < k) (qSmall : q < k / 2) (rSmall : r < k / 2)
    {station : Station} (present : station.Exists k) (away : height p q r station ≠ 0) :
    ∃ next ∈ (lans k high).neighbors station, next.Exists k ∧
      height p q r next + 1 = height p q r station := by
  cases station with
  | host i j h =>
      rw [neighbors_host high present]
      by_cases sameEdge : i = p ∧ j = q
      · rcases sameEdge with ⟨rfl, rfl⟩
        have differs : r ≠ h := by
          intro same
          simp [height, same] at away
        refine ⟨.host i j r, ?_, ⟨pSmall, qSmall, rSmall⟩, by simp [height, differs.symm]⟩
        apply List.mem_cons_of_mem
        exact List.mem_map.mpr ⟨r, by simp [rSmall, differs], rfl⟩
      · refine ⟨.edge i j, List.mem_cons_self, ⟨present.1, present.2.1⟩, ?_⟩
        simp only [height]
        split_ifs <;> simp_all
  | edge i j =>
      rw [neighbors_edge high present]
      by_cases sameEdge : i = p ∧ j = q
      · rcases sameEdge with ⟨rfl, rfl⟩
        refine ⟨.host i j r, ?_, ⟨pSmall, qSmall, rSmall⟩, by simp [height]⟩
        exact List.mem_append_left _
          (List.mem_map.mpr ⟨r, List.mem_range.mpr rSmall, rfl⟩)
      · have first : 0 < k / 2 := by omega
        refine ⟨.agg i 0, ?_, ⟨present.1, first⟩, ?_⟩
        · exact List.mem_append_right _
            (List.mem_map.mpr ⟨0, List.mem_range.mpr first, rfl⟩)
        · simp only [height]
          split_ifs <;> simp_all
  | agg i j =>
      rw [neighbors_agg high present]
      by_cases samePod : i = p
      · subst samePod
        refine ⟨.edge i q, ?_, ⟨pSmall, qSmall⟩, by simp [height]⟩
        exact List.mem_append_left _
          (List.mem_map.mpr ⟨q, List.mem_range.mpr qSmall, rfl⟩)
      · have first : 0 < k / 2 := by omega
        refine ⟨.core j 0, ?_, ⟨present.2, first⟩, by simp [height, samePod]⟩
        exact List.mem_append_right _
          (List.mem_map.mpr ⟨0, List.mem_range.mpr first, rfl⟩)
  | core i j =>
      rw [neighbors_core high present]
      refine ⟨.agg p i, ?_, ⟨pSmall, present.1⟩, by simp [height]⟩
      exact List.mem_map.mpr ⟨p, List.mem_range.mpr pSmall, rfl⟩

theorem slope (pSmall : p < k) (qSmall : q < k / 2) (rSmall : r < k / 2) :
    Slope (lans k high).neighbors (.host p q r) (height p q r) (Station.Exists k) where
  slow station next neighbor := height_le_of_neighbor high p q r neighbor
  inside := ⟨pSmall, qSmall, rSmall⟩
  bottom station _ := by
    cases station with
    | host i j h =>
        simp only [height, Station.host.injEq]
        split_ifs <;> simp_all
    | edge i j =>
        simp only [height]
        split_ifs <;> simp
    | agg i j =>
        simp only [height]
        split_ifs <;> simp
    | core i j => simp [height]
  down station present away := exists_lower high pSmall qSmall rSmall present away

/-- Of the stations above the edge, the first in each pod and the first of all core
switches. -/
def Straight : Station → Prop
  | .agg _ j => j = 0
  | .core i j => i = 0 ∧ j = 0
  | _ => True

/-- Among stations that are equally close, the first one is taken. -/
theorem eq_first_of_split {first before after : List Station} {count : Nat}
    {row : Nat → Station} {next : Station}
    (split : first ++ (List.range count).map row = before ++ next :: after)
    (later : next ∉ first) (notFirst : row 0 ∉ before) : next = row 0 := by
  rcases List.append_eq_append_iff.mp split with
    ⟨middle, isBefore, rest⟩ | ⟨middle, isFirst, rest⟩
  · cases count with
    | zero => simp at rest
    | succ count =>
        rw [List.range_succ_eq_map, List.map_cons] at rest
        cases middle with
        | nil => exact (List.cons.inj rest).1.symm
        | cons head middle =>
            rw [(List.cons.inj rest).1] at notFirst
            exact absurd (by simp [isBefore]) notFirst
  · cases middle with
    | nil =>
        cases count with
        | zero => simp at rest
        | succ count =>
            rw [List.range_succ_eq_map, List.map_cons, List.nil_append] at rest
            exact (List.cons.inj rest).1
    | cons head middle =>
        rw [(List.cons.inj rest).1] at later
        exact absurd (by simp [isFirst]) later

/-- The first route goes up through the first switch of each layer. -/
theorem straight_next {node next : Station} {before after : List Station}
    (present : node.Exists k) (straight : Straight node)
    (split : (lans k high).neighbors node = before ++ next :: after)
    (lower : height p q r next + 1 = height p q r node)
    (notBefore : ∀ other ∈ before, height p q r node ≤ height p q r other) :
    Straight next := by
  have neighbor : next ∈ (lans k high).neighbors node := by simp [split]
  cases node with
  | host i j h =>
      rw [neighbors_host high present] at neighbor
      rcases List.mem_cons.mp neighbor with rfl | isHost
      · trivial
      · rcases List.mem_map.mp isHost with ⟨other, -, rfl⟩
        trivial
  | edge i j =>
      rw [neighbors_edge high present] at neighbor split
      rcases List.mem_append.mp neighbor with isHost | isAgg
      · rcases List.mem_map.mp isHost with ⟨h, -, rfl⟩
        trivial
      · rcases List.mem_map.mp isAgg with ⟨agg, -, rfl⟩
        have later : Station.agg i agg ∉ (List.range (k / 2)).map (.host i j) := by simp
        have notFirst : Station.agg i 0 ∉ before := by
          intro isBefore
          have high := notBefore _ isBefore
          simp only [height] at lower high
          omega
        exact (Station.agg.inj (eq_first_of_split split later notFirst)).2
  | agg i j =>
      rw [neighbors_agg high present] at neighbor split
      rcases List.mem_append.mp neighbor with isEdge | isCore
      · rcases List.mem_map.mp isEdge with ⟨h, -, rfl⟩
        trivial
      · rcases List.mem_map.mp isCore with ⟨core, -, rfl⟩
        have later : Station.core j core ∉ (List.range (k / 2)).map (.edge i) := by simp
        have notFirst : Station.core j 0 ∉ before := by
          intro isBefore
          have high := notBefore _ isBefore
          simp only [height] at lower high
          omega
        exact ⟨straight, (Station.core.inj (eq_first_of_split split later notFirst)).2⟩
  | core i j =>
      rw [neighbors_core high present] at neighbor
      rcases List.mem_map.mp neighbor with ⟨h, -, rfl⟩
      exact straight.1

end Routes

/-! ## Traffic between the hosts -/

theorem length_stationsOf_le (k : Nat) (segment : Segment) :
    (stationsOf k segment).length ≤ k + 2 := by
  cases segment
  all_goals
    rw [stationsOf]
    split
    all_goals
      simp
      try omega

theorem length_segmentsOf_le (k : Nat) (station : Station) :
    (segmentsOf k station).length ≤ k + 1 := by
  cases station
  all_goals
    rw [segmentsOf]
    split
    all_goals
      simp
      try omega

theorem length_nodes (k : Nat) : (nodes k).length =
    k / 2 * (k / 2) + 3 * (k * (k / 2)) + k * (k / 2 * (k / 2)) := by
  simp [nodes, List.length_flatMap]
  ring

theorem forwardable {k : Nat} (high : k ≤ 126) :
    Forwardable (lans k high).network (lans k high).routers := by
  apply Lans.forwardable
  · have half : k / 2 ≤ 63 := by omega
    have core := Nat.mul_le_mul half half
    have pods := Nat.mul_le_mul high half
    have hosts := Nat.mul_le_mul high core
    have all : (lans k high).nodes.length = _ := length_nodes k
    omega
  · intro station
    have few := (lans k high).length_neighbors_le (length_stationsOf_le k) station
    have segments : ((lans k high).segments station).length ≤ k + 1 :=
      length_segmentsOf_le k station
    have product := Nat.mul_le_mul (segments.trans (Nat.succ_le_succ high))
      (show k + 2 ≤ 128 by omega)
    omega

/-- Packets that hosts send to each other. -/
def betweenHosts (k : Nat) : Lans.Node Station Segment → Lans.Node Station Segment → Prop
  | .station (.host i j h), .station (.host p q r) =>
      (Station.host i j h).Exists k ∧ (Station.host p q r).Exists k
  | _, _ => False

section Traffic

variable {k : Nat} {high : k ≤ 126} {i j h p q r : Nat} {wide : UInt32 → UInt32}
  {header : Header} {state : Lans.State Station Segment}

theorem host_mem_members (present : (Station.host i j h).Exists k) :
    .host i j h ∈ (lans k high).members (.bridge i j) := by
  have members : (lans k high).members (.bridge i j) =
      .edge i j :: (List.range (k / 2)).map (.host i j) := if_pos ⟨present.1, present.2.1⟩
  rw [members]
  exact List.mem_cons_of_mem _ (List.mem_map.mpr ⟨h, List.mem_range.mpr present.2.2, rfl⟩)

/-- A packet of a host gets the one address of the host. -/
theorem departs_host {target : Lans.Node Station Segment} {way : List Nat}
    (sends : Sends (lans k high).network (lans k high).routers (.station (.host i j h))
      header target way) :
    Departs (lans k high).network (.station (.host i j h)) header.destination
      ((Device.host i j h).address k) := by
  rcases sends.exists_cons with ⟨index, later, next, rfl, present, -⟩
  rw [Lans.remotes_station, List.getElem?_map, Option.map_eq_some_iff] at present
  rcases present with ⟨station, present, -⟩
  rcases Lans.exists_departs sends (forwardable high).toRoutable present with
    ⟨segment, member, -, departs⟩
  have segments := (mem_segmentsOf_iff k _ _).mpr member
  rw [segmentsOf] at segments
  split at segments
  · cases List.mem_singleton.mp segments
    exact departs
  · cases segments

/-- A packet for another host has as many hops ahead as its source lies high above the
host. -/
theorem exists_sends (high : k ≤ 126) (present : (Station.host i j h).Exists k)
    (targetPresent : (Station.host p q r).Exists k)
    (away : Station.host i j h ≠ .host p q r)
    (destination : header.destination = (Device.host p q r).address k)
    (ttl : height p q r (.host i j h) ≤ header.ttl.toNat) :
    ∃ way, way.length = height p q r (.host i j h) ∧
      Sends (lans k high).network (lans k high).routers (.station (.host i j h)) header
        (.station (.host p q r)) way := by
  have listed : Lans.Node.station (.host i j h) ∈ (lans k high).nodes :=
    station_mem_nodes_iff.mpr present
  rcases (slope high targetPresent.1 targetPresent.2.1 targetPresent.2.2).exists_least
    ((lans k high).mem_stations.mpr listed) (lans k high).closed present with
      ⟨way, least, length⟩
  exact ⟨way, length,
    Lans.sends listed (host_mem_members targetPresent) away least destination
    (length ▸ ttl)⟩

/-- Whatever else is on its way, a packet to the address of another host is delivered to
it exactly once: after one hop below the same edge switch, after four in the same pod
and after six between pods. -/
theorem host_traffic_delivered_exactly_once (keeps : ∀ word, wide word = word)
    {between : Lans.Node Station Segment → Lans.Node Station Segment → Prop}
    (reached : (lans k high).Reached wide between state)
    (present : (Station.host i j h).Exists k)
    (targetPresent : (Station.host p q r).Exists k)
    (away : Station.host i j h ≠ .host p q r)
    (pair : between (.station (.host i j h)) (.station (.host p q r)))
    (destination : header.destination = (Device.host p q r).address k)
    (ttl : height p q r (.host i j h) ≤ header.ttl.toNat) :
    Courier.ExactlyOnce ((lans k high).network.handle wide)
      ((lans k high).network.Permits (lans k high).routers between)
      (state.post (.output (.station (.host i j h)) header)) state.sent
      { tag := state.sent
        hops := height p q r (.host i j h)
        content :=
          (.station (.host p q r), forwardedHeader header ((Device.host i j h).address k)
          (height p q r (.host i j h) - 1)) } := by
  rcases exists_sends high present targetPresent away destination ttl with
    ⟨way, hops, sends⟩
  rw [← hops]
  exact sends.exactlyOnce (forwardable high) keeps reached pair (departs_host sends)

/-- A packet to a host in another pod. -/
def crossHeader : Header :=
  { source := .getAny, destination := (Device.host 1 1 1).address 4, protocol := 17 }

/-- Hosts in two pods, when the network starts. -/
theorem host_traffic_delivered_exactly_once_cross :
    Courier.ExactlyOnce ((lans 4 (by decide)).network.handle id)
      ((lans 4 (by decide)).network.Permits (lans 4 (by decide)).routers fun _ _ => True)
      (({ system := fun _ => {} } : Lans.State Station Segment).post
        (.output (.station (.host 0 0 0)) crossHeader)) 0
      { tag := 0
        hops := 6
        content := (.station (.host 1 1 1),
          forwardedHeader crossHeader ((Device.host 0 0 0).address 4) 5) } :=
  @host_traffic_delivered_exactly_once 4 (by decide) 0 0 0 1 1 1 id _ _ (fun _ => rfl) _
    ((lans 4 (by decide)).reached_start id _) ⟨by decide, by decide, by decide⟩
    ⟨by decide, by decide, by decide⟩ (by decide) trivial rfl (by decide)

theorem exists_of_betweenHosts {source target : Lans.Node Station Segment}
    (pair : betweenHosts k source target) :
    ∃ i j h p q r, source = .station (.host i j h) ∧ target = .station (.host p q r) ∧
      (Station.host i j h).Exists k ∧ (Station.host p q r).Exists k := by
  rw [betweenHosts.eq_def] at pair
  split at pair
  · next i j h p q r => exact ⟨i, j, h, p, q, r, rfl, rfl, pair⟩
  · exact pair.elim

/-- Of the core switches only the first one ever handles a packet that hosts send to
each other, and of the aggregation switches only the first one of each pod. -/
theorem visited_straight (keeps : ∀ word, wide word = word)
    (reached : (lans k high).Reached wide (betweenHosts k) state)
    {visit : Courier.Visit
      (Message (Lans.Node Station Segment) (Lans.Device Station Segment)) Unit
      (Lans.Node Station Segment × Header)} (member : visit ∈ state.visits) :
    ∃ station, (lans k high).network.handler visit.parcel.content = .station station ∧
      Straight station := by
  rcases Fits.exists_onRoute
    ((forwardable high).fits_of_visited keeps reached member) with
    ⟨source, target, way, pair, -, -, onRoute⟩
  rcases exists_of_betweenHosts pair with
    ⟨i, j, h, p, q, r, rfl, rfl, present, targetPresent⟩
  rcases Lans.exists_of_onRoute onRoute with ⟨before, station, isNode, least, leads⟩
  have listed : Lans.Node.station (.host i j h) ∈ (lans k high).nodes :=
    station_mem_nodes_iff.mpr present
  refine ⟨station, isNode, ?_⟩
  apply (slope high targetPresent.1 targetPresent.2.1 targetPresent.2.2).follow_stays
    ((lans k high).mem_stations.mpr listed) (lans k high).closed
    (fun node _ next neighbor _ => exists_of_neighbor high neighbor)
    (fun node inside straight before next after => straight_next high inside straight)
    present trivial least leads

/-- The packet passes the first core switch. -/
theorem visited_straight_cross :
    ∃ (state : Lans.State Station Segment)
      (visit : Courier.Visit
        (Message (Lans.Node Station Segment) (Lans.Device Station Segment)) Unit
        (Lans.Node Station Segment × Header)),
      (lans 4 (by decide)).Reached id (betweenHosts 4) state ∧ visit ∈ state.visits ∧
      (lans 4 (by decide)).network.handler visit.parcel.content = .station (.core 0 0) ∧
      ∃ station, (lans 4 (by decide)).network.handler visit.parcel.content =
        .station station ∧
        Straight station := by
  have ran : (((Courier.step ((lans 4 (by decide)).network.handle id)).run
      ({ system := fun _ => {} } : Lans.State Station Segment)
      [.send (.output (.station (.host 0 0 0)) crossHeader), .arrive 0 (), .arrive 0 (),
        .arrive 0 (), .arrive 0 ()]).map fun state => state.visits.map fun visit =>
          (lans 4 (by decide)).network.handler visit.parcel.content) =
      some [.station (.host 0 0 0), .station (.edge 0 0), .station (.agg 0 0),
        .station (.core 0 0)] := by
    decide +kernel
  rcases Option.map_eq_some_iff.mp ran with ⟨state, isState, visits⟩
  have last : .station (.core 0 0) ∈ state.visits.map fun visit =>
      (lans 4 (by decide)).network.handler visit.parcel.content := by
    rw [visits]
    simp
  rcases List.mem_map.mp last with ⟨visit, member, isLast⟩
  have reached : (lans 4 (by decide)).Reached id (betweenHosts 4) state := by
    refine ⟨_, ?_, isState⟩
    simp only [List.forall_mem_cons, List.not_mem_nil, IsEmpty.forall_iff, implies_true,
      and_true, Courier.Event.Permitted]
    rcases @exists_sends 4 0 0 0 1 1 1 crossHeader (by decide)
      ⟨by decide, by decide, by decide⟩
      ⟨by decide, by decide, by decide⟩ (by decide) rfl (by decide) with ⟨way, -, sends⟩
    exact ⟨.station (.host 1 1 1), way,
      ⟨⟨by decide, by decide, by decide⟩, by decide, by decide, by decide⟩, sends⟩
  exact ⟨state, visit, reached, member, isLast,
    visited_straight (fun _ => rfl) reached member⟩

end Traffic

end DataCenter.FatTree
