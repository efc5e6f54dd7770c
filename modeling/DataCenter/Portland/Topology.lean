import DataCenter.Portland.Network

/-! # The links that the ports lead to

What the loops of `main` make of the ports of every switch, seen from the
outside: which device is on which port and which node is at the other end of its
link. -/

namespace DataCenter.Portland

variable {k : Nat}

/-! ## Following ports -/

namespace Fabric

/-- The device on a port of a switch. -/
def onPort? (fabric : Fabric (SwitchId k) (Device k)) (id : SwitchId k) (isUpper : Bool)
    (index : Nat) : Option (Device k) :=
  ((if isUpper then (fabric.switches id).upperPorts
    else (fabric.switches id).lowerPorts)[index]?).map Port.netdev

/-- The node at the other end of the link on a port. -/
def follow (fabric : Fabric (SwitchId k) (Device k)) : Node k → Bool × Nat →
    Option (Node k)
  | .host _, _ => none
  | .switch id, (isUpper, index) =>
      (fabric.onPort? id isUpper index).map fun device => device.peer.node

/-- The node at the end of a path of ports. -/
def walk (fabric : Fabric (SwitchId k) (Device k)) (node : Node k)
    (path : List (Bool × Nat)) :
    Option (Node k) :=
  path.foldlM fabric.follow node

end Fabric

/-- The fabric and the arrays of `main` are wired as the addresses say. -/
structure WiredAsAddressed (devices : Containers k)
    (fabric : Fabric (SwitchId k) (Device k)) : Prop where
  ports :
    ∀ id, (fabric.switches id).lowerPorts.length +
      (fabric.switches id).upperPorts.length = k
  /-- No two ports share a device, and no two ports of one switch share a link. -/
  apart : ∀ id other isUpper side index place device,
    fabric.onPort? id isUpper index = some device →
      fabric.onPort? other side place = some device →
      id = other ∧ isUpper = side ∧ index = place
  ownLink : ∀ id isUpper side index place device another,
    fabric.onPort? id isUpper index = some device →
      fabric.onPort? id side place = some another →
      device.link = another.link → isUpper = side ∧ index = place
  /-- Either end of a link is the only device of a host or on a port of a switch. -/
  atHost : ∀ (link : Link k) (place : Fin 2) (host : Host k),
    link.nodes place = .host host →
    devices.hostdev (host.pod, host.position, host.port) = [link.get place]
  atSwitch : ∀ (link : Link k) (place : Fin 2) (id : SwitchId k),
    link.nodes place = .switch id →
    ∃ isUpper index, fabric.onPort? id isUpper index = some (link.get place)
  twoEnds : ∀ link : Link k, link.nodes 0 ≠ link.nodes 1
  hostEdge : ∀ (i : Fin k) (j h : Fin (k / 2)), ∃ link : Link k,
    devices.hostdev (i, j, h) = [link.get 0] ∧ link.nodes 0 = .host ⟨i, j, h⟩ ∧
      fabric.onPort? (.edge i j) false h = some (link.get 1)
  edgeAggregation : ∀ (i : Fin k) (j h : Fin (k / 2)), ∃ link : Link k,
    fabric.onPort? (.edge i h) true j = some (link.get 0) ∧
      fabric.onPort? (.aggregation i j) false h = some (link.get 1)
  aggregationCore : ∀ (i j : Fin (k / 2)) (h : Fin k), ∃ link : Link k,
    fabric.onPort? (.aggregation h i) true j = some (link.get 0) ∧
      fabric.onPort? (.core i j) false h = some (link.get 1)
  down : ∀ (group position : Fin (k / 2)) (host : Host k),
    fabric.walk (.switch (.core group position))
      [(false, host.pod), (false, host.position), (false, host.port)] = some (.host host)
  up : ∀ (pod : Fin k) (position first second : Fin (k / 2)), ∃ group member,
    fabric.walk (.switch (.edge pod position)) [(true, first), (true, second)] =
      some (.switch (.core group member))

/-! ## The ports of Portland-Setup -/

namespace Wired

variable {getAddress : Device k → Mac48Address} {fabric : Fabric (SwitchId k) (Device k)}

theorem onPort?_eq (wired : Wired getAddress fabric) (id : SwitchId k) (isUpper : Bool)
    (index : Nat) : fabric.onPort? id isUpper index = (id.side isUpper)[index]? := by
  have upper : (fabric.switches id).upperPorts.map Port.netdev = id.upper :=
    wired.upper id
  have lower : (fabric.switches id).lowerPorts.map Port.netdev = id.lower :=
    wired.lower id
  rw [Fabric.onPort?, SwitchId.side]
  cases isUpper with
  | true => simp [← upper]
  | false => simp [← lower]

/-- A device is on the port that its link and its end say. -/
theorem onPort?_eq_some_iff (wired : Wired getAddress fabric) (id : SwitchId k)
    (isUpper : Bool) (index : Nat) (device : Device k) :
    fabric.onPort? id isUpper index = some device ↔
      device.port = some (id, isUpper, index) := by
  rw [wired.onPort?_eq]
  exact ⟨Device.port_of_side, Device.side_of_port⟩

theorem follow_eq (wired : Wired getAddress fabric) {id : SwitchId k} {isUpper : Bool}
    {index : Nat} {device : Device k} (port : device.port = some (id, isUpper, index)) :
    fabric.follow (.switch id) (isUpper, index) = some device.peer.node := by
  rw [Fabric.follow, (wired.onPort?_eq_some_iff id isUpper index device).mpr port]
  rfl

theorem walk_down (wired : Wired getAddress fabric) (group position : Fin (k / 2))
    (host : Host k) :
    fabric.walk (.switch (.core group position))
      [(false, host.pod), (false, host.position), (false, host.port)] =
        some (.host host) := by
  have toAggregation : fabric.follow (.switch (.core group position)) (false, host.pod) =
      some (.switch (.aggregation host.pod group)) :=
    wired.follow_eq
      (show ((Link.aggregationCore group position host.pod).get 1).port = _ from rfl)
  have toEdge : fabric.follow (.switch (.aggregation host.pod group))
      (false, host.position) = some (.switch (.edge host.pod host.position)) :=
    wired.follow_eq
      (show ((Link.edgeAggregation host.pod group host.position).get 1).port = _ from rfl)
  have toHost : fabric.follow (.switch (.edge host.pod host.position))
      (false, host.port) = some (.host host) :=
    wired.follow_eq
      (show ((Link.hostEdge host.pod host.position host.port).get 1).port = _ from rfl)
  simp [Fabric.walk, toAggregation, toEdge, toHost]

/-- Two upper ports lead from an edge switch to the core switch that they number. -/
theorem walk_up (wired : Wired getAddress fabric) (pod : Fin k)
    (position first second : Fin (k / 2)) :
    fabric.walk (.switch (.edge pod position)) [(true, first), (true, second)] =
      some (.switch (.core first second)) := by
  have toAggregation : fabric.follow (.switch (.edge pod position)) (true, first) =
      some (.switch (.aggregation pod first)) :=
    wired.follow_eq
      (show ((Link.edgeAggregation pod first position).get 0).port = _ from rfl)
  have toCore : fabric.follow (.switch (.aggregation pod first)) (true, second) =
      some (.switch (.core first second)) :=
    wired.follow_eq
      (show ((Link.aggregationCore first second pod).get 0).port = _ from rfl)
  simp [Fabric.walk, toAggregation, toCore]

end Wired

/-- The arrays of `main` hold one device for each host. -/
theorem Containers.hostdev_eq (i : Fin k) (j h : Fin (k / 2)) :
    (connected k).hostdev (i, j, h) = [(Link.hostEdge i j h).get 0] := by
  have aggregation (devices : Containers k) :
      devices.connectAggregation.hostdev = devices.hostdev := by
    rw [connectAggregation]
    apply field_of_untouched hostdev ?_ devices
    intros
    rfl
  have core (devices : Containers k) : devices.connectCore.hostdev = devices.hostdev := by
    rw [connectCore]
    apply field_of_untouched hostdev ?_ devices
    intros
    rfl
  rw [connected, core, aggregation]
  rw [connectHosts]
  apply cell_of_unique hostdev (fun it => (it.1, it.2.1, it.2.2))
    (fun it => (Link.hostEdge it.1 it.2.1 it.2.2).get 0) ?_ {} (i, j, h) ?_
  · intros
    rfl
  · intro index same
    rcases index with ⟨i', j', h'⟩
    simpa [Fin.val_inj] using same

/-- A link has one end at a switch at most. -/
theorem Device.eq_of_link {device another : Device k} {id : SwitchId k}
    {isUpper side : Bool}
    {index place : Nat} (port : device.port = some (id, isUpper, index))
    (anotherPort : another.port = some (id, side, place))
    (same : device.link = another.link) :
    device = another := by
  rcases device with ⟨link, first⟩
  rcases another with ⟨other, second⟩
  cases same
  fin_cases first <;> fin_cases second <;> cases link <;>
    simp only [Device.port, reduceCtorEq, Option.some.injEq, Prod.mk.injEq]
      at port anotherPort <;>
    first
    | rfl
    | exact absurd (port.1.trans anotherPort.1.symm) (by simp)

/-- A device of a switch is on a port of it. -/
theorem Device.port_of_node {device : Device k} {id : SwitchId k}
    (node : device.node = .switch id) :
    ∃ isUpper index, device.port = some (id, isUpper, index) := by
  cases port : device.port with
  | none =>
      rcases Device.exists_host_of_port port with ⟨host, rfl⟩
      cases node
  | some place =>
      rcases place with ⟨other, isUpper, index⟩
      have same := (Device.node_of_port port).symm.trans node
      cases same
      exact ⟨isUpper, index, rfl⟩

/-- For every even `k`, the loops of `main` wire the network as `GetOutputPort` expects
it. -/
theorem wiredAsAddressed_portlandSetup (even : Even k)
    (getAddress : Device k → Mac48Address) :
    WiredAsAddressed (Containers.connected k) (portlandSetup getAddress) := by
  have wired := wired_portlandSetup getAddress
  refine ⟨?_, ?_, ?_, ?_, ?_, ?_, ?_, ?_, ?_, ?_, ?_⟩
  · intro id
    have half : k / 2 + k / 2 = k := by
      rcases even with ⟨half, rfl⟩
      omega
    rw [wired.length_lowerPorts, wired.length_upperPorts]
    cases id <;> simp [SwitchId.lower, SwitchId.upper, half]
  · intro id other isUpper side index place device first second
    have firstPort := (wired.onPort?_eq_some_iff _ _ _ _).mp first
    have secondPort := (wired.onPort?_eq_some_iff _ _ _ _).mp second
    rw [firstPort] at secondPort
    simpa using secondPort
  · intro id isUpper side index place device another first second same
    have firstPort := (wired.onPort?_eq_some_iff _ _ _ _).mp first
    have secondPort := (wired.onPort?_eq_some_iff _ _ _ _).mp second
    rw [Device.eq_of_link firstPort secondPort same, secondPort] at firstPort
    simpa [eq_comm] using firstPort
  · intro link place host node
    have noPort : (link.get place).port = none := by
      cases port : (link.get place).port with
      | none => rfl
      | some switchPort => cases node.symm.trans (Device.node_of_port port)
    rcases Device.exists_host_of_port noPort with ⟨owner, device⟩
    rw [device]
    have same : owner = host := by
      have nodes : owner.device.node = .host host := device ▸ node
      cases nodes
      rfl
    rw [same]
    exact Containers.hostdev_eq host.pod host.position host.port
  · intro link place id node
    have atSwitch : (link.get place).node = .switch id := node
    rcases Device.port_of_node atSwitch with ⟨isUpper, index, port⟩
    exact ⟨isUpper, index, (wired.onPort?_eq_some_iff _ _ _ _).mpr port⟩
  · intro link
    cases link <;> simp [Link.nodes]
  · intro i j h
    exact ⟨.hostEdge i j h, Containers.hostdev_eq i j h, rfl,
      (wired.onPort?_eq_some_iff _ _ _ _).mpr rfl⟩
  · intro i j h
    exact ⟨.edgeAggregation i j h, (wired.onPort?_eq_some_iff _ _ _ _).mpr rfl,
      (wired.onPort?_eq_some_iff _ _ _ _).mpr rfl⟩
  · intro i j h
    exact ⟨.aggregationCore i j h, (wired.onPort?_eq_some_iff _ _ _ _).mpr rfl,
      (wired.onPort?_eq_some_iff _ _ _ _).mpr rfl⟩
  · exact wired.walk_down
  · intro pod position first second
    exact ⟨first, second, wired.walk_up pod position first second⟩

/-- Portland-Setup with four pods. -/
theorem wiredAsAddressed_portlandSetup_four :
    WiredAsAddressed (Containers.connected 4)
      (portlandSetup fun _ => ⟨0, 0, 0, 0, 0, 1⟩) :=
  wiredAsAddressed_portlandSetup ⟨2, rfl⟩ fun _ => ⟨0, 0, 0, 0, 0, 1⟩

end DataCenter.Portland
