import DataCenter.Foundation.Courier
import DataCenter.Header
import DataCenter.Nix.Routing

/-! # Packets under nix-vector routing

How `Ipv4L3Protocol` sends and receives unicast packets whose routes come from
nix-vector routing.  A packet for a gateway reaches the adjacent device that has the
gateway's address. -/

namespace DataCenter.NixVectorRouting

/-- The fields of `Ipv4Header` that routing and forwarding use. -/
structure Header extends Ipv4Header where
  protocol : UInt8
  ttl : UInt8 := 64
  deriving DecidableEq, Repr

/-- `Icmpv4L4Protocol::PROT_NUMBER`. -/
def icmpProtocol : UInt8 := 1

/-- A packet that a socket sends at a node, or that a device receives. -/
inductive Message (Node Device : Type) where
  | output (node : Node) (header : Header)
  | input (device : Device) (header : Header) (nixVector : NixVector)
  deriving DecidableEq

def Message.header {Node Device : Type} : Message Node Device → Header
  | .output _ header => header
  | .input _ header _ => header

/-- The node that handles a packet. -/
def Network.handler {Node Device Channel : Type} [DecidableEq Device]
    (network : Network Node Device Channel) : Message Node Device → Node
  | .output node _ => node
  | .input device _ _ => network.node device

namespace Network

variable {Node Device Channel : Type} [DecidableEq Node] [DecidableEq Device]
  (network : Network Node Device Channel) (wide : UInt32 → UInt32)

/-- `IsDestinationAddress`, for a node that takes packets for any of its interfaces. -/
def isDestinationAddress (node : Node) (address : Ipv4Address) : Bool :=
  ((network.devices node).any fun device =>
    (network.addresses device).any fun own =>
      address = own.getLocal ∨ address = own.getBroadcast) ∨
    address.isMulticast ∨ address.isBroadcast

/-- `Ipv4Interface::Send`; `none` if a multicast is sent by a device that has none.  A
broadcast or multicast and whatever a device without ARP sends arrives at all that is
behind the device, and what ARP does not resolve is lost. -/
def send (device : Device) (interface : Ipv4Interface) (dest : Ipv4Address)
    (header : Header) (nixVector : NixVector) : Option (List (Message Node Device)) :=
  let received (remotes : List Device) : List (Message Node Device) :=
    remotes.map fun remote => .input remote header nixVector
  if ¬ interface.isUp then some []
  else if network.isLoopback device then some (received [device])
  else if interface.addresses.any fun own => dest = own.getLocal then
    some (received [device])
  else if network.needsArp device then
    if dest.isBroadcast then some (received (network.behind device))
    else if dest.isMulticast then
      if network.isMulticast device then some (received (network.behind device)) else none
    else if interface.addresses.any fun own =>
      dest.isSubnetDirectedBroadcast own.mask then
      some (received (network.behind device))
    else
      some (received ((network.behind device).find? fun remote =>
        (network.addresses remote).any fun address => dest = address.getLocal).toList)
  else some (received (network.behind device))

/-- `SendRealOut`, for packets that need not be fragmented. -/
def sendRealOut (route : Ipv4Route Device) (header : Header) (nixVector : NixVector) :
    Option (List (Message Node Device)) :=
  (network.interface route.outputDevice).bind fun outInterface =>
    network.send route.outputDevice outInterface
      (if route.gateway ≠ .getAny then route.gateway else header.destination) header
        nixVector

/-- `IpForward`.  A packet whose time to live is over is dropped, and its sender is told
unless the packet is of ICMP or was not for one host. -/
def ipForward (node : Node) (rtentry : Ipv4Route Device) (header : Header)
    (nixVector : NixVector) : Option (List (Message Node Device)) :=
  if header.ttl - 1 = 0 then
    if header.protocol ≠ icmpProtocol ∧ ¬ header.destination.isBroadcast ∧
        ¬ header.destination.isMulticast then
      some [.output node
        { source := .getAny, destination := header.source, protocol := icmpProtocol }]
    else some []
  else network.sendRealOut rtentry { header with ttl := header.ttl - 1 } nixVector

/-- What becomes of a packet.  The socket takes the source of the route for the packet. -/
def handle : Handler (Node → Router Device) (Message Node Device) Unit (Node × Header)
  | routers, .output node header, _ => do
      let (router, found) ←
        network.routeOutput wide node (routers node) header.destination none
      let system := Function.update routers node router
      match found with
      | none => return { system }
      | some (route, nixVector) =>
          if route.gateway = {} then none
          else
            let outputs ← network.sendRealOut route { header with source := route.source }
              nixVector
            return { system, outputs }
  | routers, .input device header nixVector, _ => do
      let ipv4Interface ← network.interface device
      let node := network.node device
      if ¬ ipv4Interface.isUp then return { system := routers }
      else if network.isDestinationAddress node header.destination then
        return { system := routers, deliveries := [(node, header)] }
      else if ¬ ipv4Interface.isForwarding then return { system := routers }
      else
        let (router, rtentry, nixVector) ←
          network.routeInput wide node (routers node) header.destination nixVector
        let outputs ← network.ipForward node rtentry header nixVector
        return { system := Function.update routers node router, outputs }

end Network

end DataCenter.NixVectorRouting
