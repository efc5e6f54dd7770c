import DataCenter.Nix.Network
import DataCenter.Nix.NixVector

/-! # Nix-vector routing

`Ipv4NixVectorRouting`: a breadth-first search from the sender, the nix-vector that
is read off its tree, and the route that each node takes from the vector.  Both
are cached. -/

namespace DataCenter

open Std BreadthFirst

namespace Ipv4Address

/-- 127.0.0.1. -/
def getLoopback : Ipv4Address := ⟨0x7f000001⟩

/-- 0.0.0.0. -/
def getAny : Ipv4Address := ⟨0⟩

def isMulticast (address : Ipv4Address) : Bool :=
  address.address ≥ 0xe0000000 ∧ address.address ≤ 0xefffffff

def isBroadcast (address : Ipv4Address) : Bool := address.address = 0xffffffff

/-- With a mask of 32 bits there is no such address. -/
def isSubnetDirectedBroadcast (address : Ipv4Address) (mask : UInt32) : Bool :=
  mask ≠ 0xffffffff ∧ address.address ||| ~~~mask = address.address

end Ipv4Address

namespace NixVectorRouting

structure Ipv4Route (Device : Type) where
  destination : Ipv4Address
  source : Ipv4Address
  gateway : Ipv4Address
  outputDevice : Device

/-- The state of the protocol at one node.  A vector that could not be built is cached
as a null pointer. -/
structure Router (Device : Type) where
  nixCache : ExtTreeMap Ipv4Address (Option NixVector) compare := ∅
  ipv4RouteCache : ExtTreeMap Ipv4Address (Ipv4Route Device) compare := ∅
  totalNeighbors : UInt32 := 0

/-- `GetNixVectorInCache`, where a null pointer counts as nothing. -/
def Router.getNixVectorInCache {Device : Type} (router : Router Device)
    (address : Ipv4Address) :
    Option NixVector :=
  router.nixCache[address]?.join

/-- `GetIpv4RouteInCache`. -/
def Router.getIpv4RouteInCache {Device : Type} (router : Router Device)
    (address : Ipv4Address) :
    Option (Ipv4Route Device) :=
  router.ipv4RouteCache[address]?

section Caches

variable {Device : Type} {router : Router Device}

theorem getNixVectorInCache_insertIfNew {key dest : Ipv4Address}
    {vector stored : NixVector}
    (present : ({ router with
        nixCache := router.nixCache.insertIfNew dest (some vector) } :
      Router Device).getNixVectorInCache key = some stored) :
    key = dest ∧ stored = vector ∨ router.getNixVectorInCache key = some stored := by
  simp only [Router.getNixVectorInCache, ExtTreeMap.getElem?_insertIfNew,
    LawfulEqCmp.compare_eq_iff_eq] at present
  split at present
  · next new =>
      simp only [Option.join_some, Option.some.injEq] at present
      exact .inl ⟨new.1.symm, present.symm⟩
  · exact .inr present

theorem getIpv4RouteInCache_insert
    {routes : ExtTreeMap Ipv4Address (Ipv4Route Device) compare}
    {key dest : Ipv4Address} {route stored : Ipv4Route Device}
    (present : ({ router with ipv4RouteCache := routes.insert dest route } :
      Router Device).getIpv4RouteInCache key = some stored) :
    key = dest ∧ stored = route ∨ routes[key]? = some stored := by
  simp only [Router.getIpv4RouteInCache, ExtTreeMap.getElem?_insert,
    LawfulEqCmp.compare_eq_iff_eq] at present
  split at present
  · next same => exact .inl ⟨same.symm, (Option.some.inj present).symm⟩
  · exact .inr present

end Caches

namespace Network

variable {Node Device Channel : Type} [DecidableEq Node] [DecidableEq Device]
  (network : Network Node Device Channel) (wide : UInt32 → UInt32)

/-! ## The search -/

/-- The nodes behind a device, if the search can go that way. -/
def passage (device : Device) (interface : Ipv4Interface) : Option (List Node) :=
  if interface.isUp ∧ network.isLinkUp device ∧ (network.channel device).isSome then
    some ((network.adjacent device).map network.node)
  else none

/-- The nodes behind all devices of a node. -/
def passages (node : Node) : Option (List Node) :=
  collect (fun device => (network.interface device).map fun interface =>
    (network.passage device interface).getD []) (network.devices node)

/-- One turn of the loop of `BFS`.  A given output device is the only way out of the
source. -/
def bfsTurn (source dest : Node) (oif : Option Device) (search : Search Node) :
    Turn (Search Node) (Option (Bool × (Node → Option Node))) :=
  match search.queue with
  | [] => .leave (some (false, search.parent))
  | currNode :: _ =>
      if currNode = dest then .leave (some (true, search.parent))
      else
        let visit (found : List Node) :
            Turn (Search Node) (Option (Bool × (Node → Option Node))) :=
          let visited := found.foldl (discover currNode) search
          .again { visited with queue := visited.queue.tail }
        match if currNode = source then oif else none with
        | some device =>
            match network.interface device with
            | some interface =>
                match network.passage device interface with
                | some found => visit found
                | none => .leave (some (false, search.parent))
            | none => .leave none
        | none =>
            match network.passages currNode with
            | some found => visit found
            | none => .leave none

/-- `BFS` with its parent vector.  It comes to each node at most once, so the fuel is
enough. -/
def bfs (source dest : Node) (oif : Option Device) :
    Option (Bool × (Node → Option Node)) :=
  (loop (network.bfsTurn source dest oif) (network.nodes.length + 1) (start source)).join

/-! ## The vector -/

/-- The nodes that `BuildNixVector` counts as the neighbors of a node. -/
def neighbors (node : Node) : List Node :=
  ((network.devices node).filter fun device => ¬ network.isBridge device).flatMap
    fun device =>
    (network.behind device).map network.node

/-- `destId`: the last of the neighbors that is the node, or 0. -/
def destId (neighbors : List Node) (dest : Node) : Nat :=
  neighbors.zipIdx.foldl
    (fun destId remote => if remote.1 = dest then remote.2 else destId) 0

/-- `BuildNixVector`; `none` if it has not ended within the fuel or an index is too
long. -/
def buildNixVector (parentVector : Node → Option Node) (source : Node) :
    Nat → Node → NixVector → Option (Bool × NixVector)
  | 0, _, _ => none
  | fuel + 1, dest, nixVector =>
      if source = dest then some (true, nixVector)
      else
        match parentVector dest with
        | none => some (false, nixVector)
        | some parentNode => do
            let remotes := network.neighbors parentNode
            let nixVector ← nixVector.addNeighborIndex wide (.ofNat (destId remotes dest))
              (NixVector.bitCount (.ofNat remotes.length))
            -- what the recursion returns is not looked at
            let (_, nixVector) ← buildNixVector parentVector source fuel parentNode
              nixVector
            return (true, nixVector)

/-- The loop of `BuildNixVectorLocal`, from device `i` on. -/
def buildNixVectorLocalFrom (numberOfDevices : UInt32) (nixVector : NixVector) :
    List Device → Nat → Option NixVector
  | [], _ => some nixVector
  | device :: rest, i => do
      let address ← network.getLocal device
      if address = .getLoopback then
        nixVector.addNeighborIndex wide (.ofNat i) (NixVector.bitCount numberOfDevices)
      else buildNixVectorLocalFrom numberOfDevices nixVector rest (i + 1)

def buildNixVectorLocal (node : Node) (nixVector : NixVector) : Option NixVector :=
  network.buildNixVectorLocalFrom wide (.ofNat (network.devices node).length) nixVector
    (network.devices node) 0

/-- `GetNixVector`, whose result may be a null pointer. -/
def getNixVector (source : Node) (dest : Ipv4Address) (oif : Option Device) :
    Option (Option NixVector) :=
  match network.getNodeByIp dest with
  | none => some none
  | some destNode =>
      if source = destNode then (network.buildNixVectorLocal wide source {}).map some
      else do
        let (_, parentVector) ← network.bfs source destNode oif
        let (built, nixVector) ←
          network.buildNixVector wide parentVector source (network.nodes.length + 1)
            destNode {}
        return if built then some nixVector else none

/-! ## The route -/

def findTotalNeighbors (node : Node) : UInt32 :=
  .ofNat ((network.devices node).flatMap network.behind).length

/-- The loop of `FindNetDeviceForNixIndex`, from device `i` on. -/
def findNetDeviceFrom (nodeIndex : UInt32) :
    List Device → Nat → UInt32 → Option (Nat × Ipv4Address)
  | [], _, _ => some (0, {})
  | device :: rest, i, totalNeighbors =>
      if (network.channel device).isSome then
        let total := totalNeighbors + .ofNat (network.adjacent device).length
        if nodeIndex < total then do
          let gatewayDevice ←
            (network.adjacent device)[(nodeIndex - totalNeighbors).toNat]?
          let gatewayIp ← network.getLocal gatewayDevice
          return (i, gatewayIp)
        else findNetDeviceFrom nodeIndex rest (i + 1) total
      else findNetDeviceFrom nodeIndex rest (i + 1) totalNeighbors

/-- `FindNetDeviceForNixIndex`, with the gateway. -/
def findNetDeviceForNixIndex (node : Node) (nodeIndex : UInt32) :
    Option (Nat × Ipv4Address) :=
  network.findNetDeviceFrom nodeIndex (network.devices node) 0 0

/-- The entry that `RouteOutput` and `RouteInput` fill in. -/
def buildRoute (node : Node) (nodeIndex : UInt32) (dest : Ipv4Address)
    (oif : Option Device) :
    Option (Ipv4Route Device) := do
  let (index, gateway) ← network.findNetDeviceForNixIndex node nodeIndex
  let outputDevice ← oif.or (network.devices node)[index]?
  let source ← network.getLocal outputDevice
  return { destination := dest, source, gateway, outputDevice }

/-- `m_totalNeighbors` is found when it is first needed. -/
def counted (node : Node) (router : Router Device) : Router Device :=
  if router.totalNeighbors = 0 then
    { router with totalNeighbors := network.findTotalNeighbors node }
  else router

/-- The vector from the cache, or a new one, which the cache takes unless it holds
something. -/
def cachedNixVector (node : Node) (router : Router Device) (dest : Ipv4Address)
    (oif : Option Device) : Option (Option NixVector × Router Device) :=
  match router.getNixVectorInCache dest with
  | some nixVector => some (some nixVector, router)
  | none =>
      (network.getNixVector wide node dest oif).map fun nixVector =>
        (nixVector,
          { router with nixCache := router.nixCache.insertIfNew dest nixVector })

/-- `RouteOutput`, with the vector that it gives the packet. -/
def routeOutput (node : Node) (router : Router Device) (dest : Ipv4Address)
    (oif : Option Device) :
    Option (Router Device × Option (Ipv4Route Device × NixVector)) := do
  let (found, router) ← network.cachedNixVector wide node router dest oif
  match found with
  | none => return (router, none)
  | some nixVector =>
      let router := network.counted node router
      let (nodeIndex, nixVector) ←
        nixVector.extractNeighborIndex wide (NixVector.bitCount router.totalNeighbors)
      match (router.getIpv4RouteInCache dest).filter fun rtentry =>
          some rtentry.outputDevice = oif with
      | some rtentry => return (router, some (rtentry, nixVector))
      | none =>
          let rtentry ← network.buildRoute node nodeIndex dest oif
          return ({ router with
            ipv4RouteCache := (router.ipv4RouteCache.erase dest).insert dest rtentry },
            some (rtentry, nixVector))

/-- `RouteInput` up to the call of the forwarding callback. -/
def routeInput (node : Node) (router : Router Device) (dest : Ipv4Address)
    (nixVector : NixVector) : Option (Router Device × Ipv4Route Device × NixVector) := do
  let router := network.counted node router
  let (nodeIndex, nixVector) ←
    nixVector.extractNeighborIndex wide (NixVector.bitCount router.totalNeighbors)
  match router.getIpv4RouteInCache dest with
  | some rtentry => return (router, rtentry, nixVector)
  | none =>
      let rtentry ← network.buildRoute node nodeIndex dest none
      return ({ router with ipv4RouteCache := router.ipv4RouteCache.insert dest rtentry },
        rtentry, nixVector)

end Network

end NixVectorRouting

end DataCenter
