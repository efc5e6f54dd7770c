import DataCenter.Foundation.Courier
import DataCenter.Portland.Replication
import DataCenter.Portland.Wiring

/-! # Frames in the network

The fabric of Portland-Setup with the frames on its links.  A frame that a
device sends arrives at the peer of the device, and there goes to the switch
that the device is a port of or to a host. -/

namespace DataCenter.Portland

open PortlandSwitchNetDevice

variable {k : Nat}

/-- How `CsmaNetDevice::Receive` classifies a frame by its destination. -/
def classify (own dst : Mac48Address) : PacketType :=
  if dst.isBroadcast then .broadcast
  else if dst.isGroup then .multicast
  else if dst = own then .host
  else .otherhost

/-- What `MetadataFromPacket` makes of a frame. -/
abbrev Frame.metadata (frame : Frame) (unset : Bool) : SwitchPacketMetadata :=
  metadataFromPacket unset frame.packet frame.src frame.dst frame.protocol

/-- A frame and the device at which it is about to arrive. -/
abbrev Message (k : Nat) := Device k × Frame

/-- A frame and the host that got it. -/
abbrev Delivery (k : Nat) := Host k × Frame

/-- What one reception draws: the value of `rand ()` and that of a `bool` which
`MetadataFromPacket` leaves unset. -/
structure Draw where
  rand : Nat := 0
  unset : Bool := false
  deriving DecidableEq, Repr, Inhabited

/-- Links lose nothing, and what a switch hands to its own node goes no
further. -/
def transmission : Action (Device k) → Option (Message k)
  | .sendFrom _ _ netdev frame true => some (netdev.peer, frame)
  | _ => none

/-- The reception of a frame by a device of a switch. -/
def arrivalAt (getAddress : Device k → Mac48Address) (id : SwitchId k)
    (message : Message k) (draw : Draw) : Arrival (SwitchId k) (Device k) where
  switch := id
  netdev := message.1
  frame := message.2
  packetType := classify (getAddress message.1) message.2.dst
  rand := draw.rand
  unset := draw.unset

/-- A frame arrives. -/
def handle (getAddress : Device k → Mac48Address) :
    Handler (Fabric (SwitchId k) (Device k)) (Message k) Draw (Delivery k) :=
  fun fabric message draw =>
    match message.1.node with
    | .host host => some { system := fabric, deliveries := [(host, message.2)] }
    | .switch id =>
        match fabric.receive (arrivalAt getAddress id message draw) with
        | .ok (next, actions) =>
            some
              { system := next
                outputs := actions.filterMap fun action => transmission action.2 }
        | .error _ => none

/-- The network before the first frame. -/
def start (getAddress : Device k → Mac48Address) :
    Courier.State (Fabric (SwitchId k) (Device k)) (Message k) Draw (Delivery k) where
  system := portlandSetup getAddress

namespace Host

/-- `hostdev[pod][position][port]` -/
def device (host : Host k) : Device k :=
  (Link.hostEdge host.pod host.position host.port).get 0

/-- The lower port of the edge switch that leads to the host. -/
def accessPort (host : Host k) : Device k :=
  (Link.hostEdge host.pod host.position host.port).get 1

def edge (host : Host k) : SwitchId k := .edge host.pod host.position

end Host

/-! ## Ports -/

/-- The switch that a device is a port of, with the side and the index of the
port. -/
def Device.port : Device k → Option (SwitchId k × Bool × Nat)
  | ⟨.hostEdge _ _ _, 0⟩ => none
  | ⟨.hostEdge i j h, 1⟩ => some (.edge i j, false, h)
  | ⟨.edgeAggregation i j h, 0⟩ => some (.edge i h, true, j)
  | ⟨.edgeAggregation i j h, 1⟩ => some (.aggregation i j, false, h)
  | ⟨.aggregationCore i j h, 0⟩ => some (.aggregation h i, true, j)
  | ⟨.aggregationCore i j h, 1⟩ => some (.core i j, false, h)

/-- The devices on one side of a switch. -/
def SwitchId.side (id : SwitchId k) (isUpper : Bool) : List (Device k) :=
  if isUpper then id.upper else id.lower

theorem exists_of_getElem?_map_finRange {α : Type} {count : Nat} {item : Fin count → α}
    {index : Nat} {stored : α}
    (present : ((List.finRange count).map item)[index]? = some stored) :
    ∃ bound : index < count, stored = item ⟨index, bound⟩ := by
  rcases List.getElem?_eq_some_iff.mp present with ⟨bound, rfl⟩
  have within : index < count := by simpa using bound
  exact ⟨within, by simp⟩

theorem Device.side_of_port {device : Device k} {id : SwitchId k} {isUpper : Bool}
    {index : Nat} (port : device.port = some (id, isUpper, index)) :
    (id.side isUpper)[index]? = some device := by
  rcases device with ⟨link, place⟩
  fin_cases place <;> cases link <;> simp only [Device.port, reduceCtorEq] at port <;>
    cases port <;> simp [SwitchId.side, SwitchId.lower, SwitchId.upper, Link.get]

theorem Device.port_of_side {device : Device k} {id : SwitchId k} {isUpper : Bool}
    {index : Nat} (stored : (id.side isUpper)[index]? = some device) :
    device.port = some (id, isUpper, index) := by
  cases isUpper with
  | false =>
      cases id <;> rcases exists_of_getElem?_map_finRange stored with ⟨bound, rfl⟩ <;> rfl
  | true =>
      cases id with
      | edge i j => rcases exists_of_getElem?_map_finRange stored with ⟨bound, rfl⟩; rfl
      | aggregation i j =>
          rcases exists_of_getElem?_map_finRange stored with ⟨bound, rfl⟩; rfl
      | core i j => simp [SwitchId.side, SwitchId.upper] at stored

theorem SwitchId.nodup_side (id : SwitchId k) (isUpper : Bool) :
    (id.side isUpper).Nodup := by
  rw [List.nodup_iff_injective_getElem]
  intro first second same
  rcases first with ⟨first, firstBound⟩
  rcases second with ⟨second, secondBound⟩
  have firstPort := Device.port_of_side (List.getElem?_eq_getElem firstBound)
  have secondPort := Device.port_of_side (List.getElem?_eq_getElem secondBound)
  simp only at same
  rw [same, secondPort] at firstPort
  simpa using firstPort.symm

/-- The node of a port device is its switch. -/
theorem Device.node_of_port {device : Device k} {id : SwitchId k} {isUpper : Bool}
    {index : Nat}
    (port : device.port = some (id, isUpper, index)) : device.node = .switch id := by
  rcases device with ⟨link, place⟩
  fin_cases place <;> cases link <;> simp only [Device.port, reduceCtorEq] at port <;>
    cases port <;> rfl

/-- A device that is no port is the device of a host. -/
theorem Device.exists_host_of_port {device : Device k} (noPort : device.port = none) :
    ∃ host : Host k, device = host.device := by
  rcases device with ⟨link, place⟩
  fin_cases place <;> cases link with
  | hostEdge i j h => cases noPort <;> exact ⟨⟨i, j, h⟩, rfl⟩
  | edgeAggregation i j h => cases noPort
  | aggregationCore i j h => cases noPort

namespace Wired

variable {getAddress : Device k → Mac48Address} {fabric : Fabric (SwitchId k) (Device k)}

theorem port_eq (wired : Wired getAddress fabric) (id : SwitchId k) (isUpper : Bool)
    (outPort : UInt8) :
    (fabric.switches id).config.port isUpper outPort =
      (id.side isUpper)[outPort.toNat]? := by
  rw [SwitchConfig.port, SwitchId.side]
  rw [wired.lower, wired.upper]

theorem findInPort_eq (wired : Wired getAddress fabric) {device : Device k}
    {id : SwitchId k}
    {isUpper : Bool} {index : Nat} (port : device.port = some (id, isUpper, index)) :
    (fabric.switches id).findInPort device = some (isUpper, UInt8.ofNat index) := by
  have upper : (fabric.switches id).upperPorts.map Port.netdev = id.side true :=
    wired.upper id
  have lower : (fabric.switches id).lowerPorts.map Port.netdev = id.side false :=
    wired.lower id
  have stored := Device.side_of_port port
  rw [findInPort]
  cases isUpper with
  | true =>
      rw [lastIndexOf_eq_some (upper ▸ id.nodup_side true) (upper ▸ stored)]
  | false =>
      have absent : device ∉ (fabric.switches id).upperPorts.map Port.netdev := by
        rw [upper]
        intro member
        rcases List.mem_iff_getElem?.mp member with ⟨other, otherStored⟩
        have otherPort := Device.port_of_side otherStored
        rw [port] at otherPort
        cases otherPort
      rw [lastIndexOf_eq_none_iff.mpr absent,
        lastIndexOf_eq_some (lower ▸ id.nodup_side false) (lower ▸ stored)]
      rfl

theorem length_lowerPorts (wired : Wired getAddress fabric) (id : SwitchId k) :
    (fabric.switches id).lowerPorts.length = id.lower.length := by
  have lower : (fabric.switches id).lowerPorts.map Port.netdev = id.lower :=
    wired.lower id
  rw [← lower, List.length_map]

theorem length_upperPorts (wired : Wired getAddress fabric) (id : SwitchId k) :
    (fabric.switches id).upperPorts.length = id.upper.length := by
  have upper : (fabric.switches id).upperPorts.map Port.netdev = id.upper :=
    wired.upper id
  rw [← upper, List.length_map]

theorem congr {next : Fabric (SwitchId k) (Device k)} (wired : Wired getAddress fabric)
    (same : next.SameConfig fabric)
    (sameSwitches : next.manager.switches = fabric.manager.switches) :
    Wired getAddress next where
  deviceType id := (same.deviceType id).trans (wired.deviceType id)
  pod id := (congrArg SwitchConfig.pod (same id)).trans (wired.pod id)
  position id := (congrArg SwitchConfig.position (same id)).trans (wired.position id)
  lower id := (congrArg SwitchConfig.lower (same id)).trans (wired.lower id)
  upper id := (congrArg SwitchConfig.upper (same id)).trans (wired.upper id)
  connected id :=
    (congrArg SwitchConfig.hasFabricManager (same id)).trans (wired.connected id)
  address id := by
    rw [show (next.switches id).address = _ from congrArg SwitchConfig.address (same id)]
    exact wired.address id
  nodup := sameSwitches ▸ wired.nodup
  member := sameSwitches ▸ wired.member

end Wired

theorem switches_learn {ι : Type} (manager : FabricManager ι) (entry : Option PMACEntry) :
    (manager.learn entry).switches = manager.switches := by
  cases entry <;> rfl

/-- A handling leaves alone what construction fixes. -/
theorem sameConfig_of_handle {getAddress : Device k → Mac48Address}
    {fabric : Fabric (SwitchId k) (Device k)} {message : Message k} {draw : Draw}
    {handling : Handling (Fabric (SwitchId k) (Device k)) (Message k) (Delivery k)}
    (handled : handle getAddress fabric message draw = some handling) :
    handling.system.SameConfig fabric ∧
      handling.system.manager.switches = fabric.manager.switches := by
  rw [Portland.handle] at handled
  split at handled
  · cases handled
    exact ⟨fun _ => rfl, rfl⟩
  · split at handled
    · next received =>
        cases handled
        have effect := Fabric.receive_effect received
        exact ⟨effect.1, by rw [effect.2.1, switches_learn]⟩
    · cases handled

/-- A handling leaves the wiring alone. -/
theorem Wired.handle {getAddress : Device k → Mac48Address}
    {fabric : Fabric (SwitchId k) (Device k)} (wired : Wired getAddress fabric)
    {message : Message k} {draw : Draw}
    {handling : Handling (Fabric (SwitchId k) (Device k)) (Message k) (Delivery k)}
    (handled : handle getAddress fabric message draw = some handling) :
    Wired getAddress handling.system :=
  wired.congr (sameConfig_of_handle handled).1 (sameConfig_of_handle handled).2

end DataCenter.Portland
