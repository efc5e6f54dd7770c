import DataCenter.Foundation.BreadthFirst
import DataCenter.Address

/-! # Nodes, devices and channels

What nix-vector routing asks of a network: the devices of a node, the channels
between devices, the bridges and the interfaces with their addresses. -/

namespace DataCenter

/-- A local address and its mask. -/
structure Ipv4InterfaceAddress where
  getLocal : Ipv4Address
  mask : UInt32
  deriving DecidableEq, Repr

/-- `m_broadcast`. -/
def Ipv4InterfaceAddress.getBroadcast (address : Ipv4InterfaceAddress) : Ipv4Address :=
  ⟨address.getLocal.address ||| ~~~address.mask⟩

structure Ipv4Interface where
  isUp : Bool := true
  isForwarding : Bool := true
  addresses : List Ipv4InterfaceAddress
  deriving DecidableEq, Repr

namespace NixVectorRouting

/-! ## Adjacent devices -/

/-- Devices and the channels between them.  A bridge is a device that has ports. -/
structure Wires (Node Device Channel : Type) where
  devices : Node → List Device
  node : Device → Node
  channel : Device → Option Channel
  attached : Channel → List Device
  bridgePorts : Device → Option (List Device)

/-- What a loop collects that may fail. -/
def collect {α β : Type} (visit : α → Option (List β)) : List α → Option (List β)
  | [] => some []
  | element :: rest => do
      let found ← visit element
      let others ← collect visit rest
      return found ++ others

theorem collect_eq {α β : Type} {visit : α → Option (List β)} {found : α → List β}
    {list : List α} (all : ∀ element ∈ list, visit element = some (found element)) :
    collect visit list = some (list.flatMap found) := by
  induction list with
  | nil => rfl
  | cons element rest induction =>
      have others :=
        induction fun other member => all other (List.mem_cons_of_mem _ member)
      rw [collect, all element List.mem_cons_self, others]
      rfl

namespace Wires

variable {Node Device Channel : Type} [DecidableEq Device]

def isBridge (wires : Wires Node Device Channel) (device : Device) : Bool :=
  (wires.bridgePorts device).isSome

/-- `NetDeviceIsBridged`, with the ports of the bridge. -/
def netDeviceIsBridged (wires : Wires Node Device Channel) (nd : Device) :
    Option (List Device) :=
  (wires.devices (wires.node nd)).findSome? fun ndTest =>
    (wires.bridgePorts ndTest).filter fun ports => nd ∈ ports

/-- The body of the loop of `GetAdjacentNetDevices`, where `again` is the recursion. -/
def visitRemote (wires : Wires Node Device Channel)
    (again : Device → Option Channel → Option (List Device))
    (netDevice remoteDevice : Device) :
    Option (List Device) :=
  if remoteDevice = netDevice then some []
  else
    match wires.netDeviceIsBridged remoteDevice with
    | some ports =>
        collect (fun ndBridged =>
          if ndBridged = remoteDevice then some []
          else again ndBridged (wires.channel ndBridged)) ports
    | none => some [remoteDevice]

/-- `GetAdjacentNetDevices`; `none` if it has not ended within the fuel or follows a null
pointer.  It checks the channel it came from where it means the one behind the bridge. -/
def getAdjacentNetDevices (wires : Wires Node Device Channel) :
    Nat → Device → Option Channel → Option (List Device)
  | 0, _, _ => none
  | _ + 1, _, none => none
  | fuel + 1, netDevice, some channel =>
      collect (wires.visitRemote (wires.getAdjacentNetDevices fuel) netDevice)
        (wires.attached channel)

section Visits

variable {wires : Wires Node Device Channel}
  (again : Device → Option Channel → Option (List Device))
  {netDevice remoteDevice : Device}

theorem visitRemote_self (netDevice : Device) :
    wires.visitRemote again netDevice netDevice = some [] :=
  if_pos rfl

theorem visitRemote_station (away : remoteDevice ≠ netDevice)
    (free : wires.netDeviceIsBridged remoteDevice = none) :
    wires.visitRemote again netDevice remoteDevice = some [remoteDevice] := by
  rw [visitRemote, if_neg away, free]

theorem visitRemote_port (away : remoteDevice ≠ netDevice) {ports : List Device}
    (bridged : wires.netDeviceIsBridged remoteDevice = some ports) :
    wires.visitRemote again netDevice remoteDevice = collect (fun ndBridged =>
      if ndBridged = remoteDevice then some []
      else again ndBridged (wires.channel ndBridged)) ports := by
  rw [visitRemote, if_neg away, bridged]

end Visits

end Wires

/-! ## Networks -/

/-- The nodes of a simulation.  From each device that has a channel the walk through the
bridges comes to its end. -/
structure Network (Node Device Channel : Type) [DecidableEq Device] extends
    Wires Node Device Channel where
  nodes : List Node
  isLoopback : Device → Bool
  needsArp : Device → Bool
  isMulticast : Device → Bool
  isLinkUp : Device → Bool
  interface : Device → Option Ipv4Interface
  adjacent : Device → List Device
  walks : ∀ device start, channel device = some start →
    ∃ fuel, toWires.getAdjacentNetDevices fuel device (some start) =
      some (adjacent device)

namespace Network

variable {Node Device Channel : Type} [DecidableEq Node] [DecidableEq Device]
  (network : Network Node Device Channel)

/-- The devices adjacent to a device, if it has a channel. -/
def behind (device : Device) : List Device :=
  if (network.channel device).isSome then network.adjacent device else []

/-- The addresses of a device's interface. -/
def addresses (device : Device) : List Ipv4InterfaceAddress :=
  ((network.interface device).map Ipv4Interface.addresses).getD []

/-- `GetAddress (GetInterfaceForDevice (device), 0).GetLocal ()`; `none` if an assertion
fails. -/
def getLocal (device : Device) : Option Ipv4Address :=
  (network.addresses device).head?.map Ipv4InterfaceAddress.getLocal

/-- `GetNodeByIp`. -/
def getNodeByIp (dest : Ipv4Address) : Option Node :=
  network.nodes.find? fun node =>
    (network.devices node).any fun device =>
      (network.addresses device).any fun address => address.getLocal = dest

end Network

end NixVectorRouting

end DataCenter
