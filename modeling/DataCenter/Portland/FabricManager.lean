import DataCenter.Address

/-! # The fabric manager

The messages between the switches and the fabric manager, and the manager's
table of IP addresses. -/

namespace DataCenter.Portland

open Std

/-- The layer of the topology a switch is in. -/
inductive PortlandSwitchType where
  | edge
  | aggregation
  | core
  deriving DecidableEq, Repr

structure PMACRegister where
  hostIP : Ipv4Address
  pmacAddress : Mac48Address
  deriving DecidableEq, Repr

structure ARPRequest where
  destIPAddress : Ipv4Address
  srcIPAddress : Ipv4Address
  srcPMACAddress : Mac48Address
  deriving DecidableEq, Repr

structure ARPResponse where
  destIPAddress : Ipv4Address
  destPMACAddress : Mac48Address
  srcIPAddress : Ipv4Address
  srcPMACAddress : Mac48Address
  deriving DecidableEq, Repr

structure ARPFloodRequest where
  destIPAddress : Ipv4Address
  srcIPAddress : Ipv4Address
  srcPMACAddress : Mac48Address
  deriving DecidableEq, Repr

/-- `BufferData`: a packet type together with the message that its `void*` is
cast to.  A response whose message is `none` was allocated but never filled
in. -/
inductive BufferData where
  | macRegister (message : PMACRegister)
  | arpRequest (message : ARPRequest)
  | arpResponse (message : Option ARPResponse)
  | arpFlood (message : ARPFloodRequest)
  deriving DecidableEq, Repr

/-- The manager's table and, in the order in which it visits them, the switches
registered with it.  `ι` identifies a switch, as `Ptr` does. -/
structure FabricManager (ι : Type) where
  ipPMACTable : ExtTreeMap Ipv4Address Mac48Address compare := ∅
  switches : List ι := []

/-- What a message to the manager brings about: the manager afterwards, the
buffers it hands to switches on the way, and the buffer it returns, `none`
where that is left indeterminate. -/
structure Reply (ι : Type) where
  fabricManager : FabricManager ι
  toSwitches : List (ι × BufferData)
  response : Option BufferData

namespace FabricManager

variable {ι : Type}

def addSwitch [DecidableEq ι] (manager : FabricManager ι) (swtch : ι) : FabricManager ι :=
  if swtch ∈ manager.switches then manager
  else { manager with switches := manager.switches ++ [swtch] }

/-- `IpPMACTable[ip] = pmac`: the last writer wins. -/
def addPMACToTable (manager : FabricManager ι) (ip : Ipv4Address) (pmac : Mac48Address) :
    FabricManager ι :=
  { manager with ipPMACTable := manager.ipPMACTable.insert ip pmac }

def isIPRegistered (manager : FabricManager ι) (ip : Ipv4Address) : Bool :=
  manager.ipPMACTable.contains ip

def getPMACforIP (manager : FabricManager ι) (ip : Ipv4Address) : Mac48Address :=
  match manager.ipPMACTable[ip]? with
  | some pmac => pmac
  | none => .getBroadcast

def pmacRegisterHandler (manager : FabricManager ι) (message : PMACRegister) :
    Reply ι where
  fabricManager := manager.addPMACToTable message.hostIP message.pmacAddress
  toSwitches := []
  response := some (.arpResponse none)

theorem isIPRegistered_iff (manager : FabricManager ι) (ip : Ipv4Address) :
    manager.isIPRegistered ip = true ↔ ∃ pmac, manager.ipPMACTable[ip]? = some pmac := by
  rw [isIPRegistered, ExtTreeMap.contains_eq_isSome_getElem?, Option.isSome_iff_exists]

theorem isIPRegistered_of_getElem? {manager : FabricManager ι} {ip : Ipv4Address}
    {pmac : Mac48Address} (stored : manager.ipPMACTable[ip]? = some pmac) :
    manager.isIPRegistered ip = true :=
  (manager.isIPRegistered_iff ip).mpr ⟨pmac, stored⟩

theorem getPMACforIP_of_getElem? {manager : FabricManager ι} {ip : Ipv4Address}
    {pmac : Mac48Address} (stored : manager.ipPMACTable[ip]? = some pmac) :
    manager.getPMACforIP ip = pmac := by
  simp [getPMACforIP, stored]

theorem getElem?_addPMACToTable (manager : FabricManager ι) (ip key : Ipv4Address)
    (pmac : Mac48Address) :
    (manager.addPMACToTable ip pmac).ipPMACTable[key]? =
      if ip = key then some pmac else manager.ipPMACTable[key]? := by
  simp [addPMACToTable, ExtTreeMap.getElem?_insert]

@[simp] theorem switches_addPMACToTable (manager : FabricManager ι) (ip : Ipv4Address)
    (pmac : Mac48Address) :
    (manager.addPMACToTable ip pmac).switches = manager.switches := rfl

variable [DecidableEq ι]

/-- The buffers that `FloodARPRequest` hands out: one to every core switch other
than the one that asked. -/
def floodARPRequest (manager : FabricManager ι) (deviceType : ι → PortlandSwitchType)
    (message : ARPFloodRequest) (swtch : ι) : List (ι × BufferData) :=
  (manager.switches.filter fun it => deviceType it = .core ∧ it ≠ swtch).map fun it =>
    (it, .arpFlood message)

/-- On a miss the request itself is flooded, cast to `ARPFloodRequest`.
`FloodARPRequest` frees it before its three fields are copied into the response;
no caller reads those copies. -/
def arpRequestHandler (manager : FabricManager ι) (deviceType : ι → PortlandSwitchType)
    (message : ARPRequest) (swtch : ι) : Reply ι :=
  let response (destPMACAddress : Mac48Address) : BufferData := .arpResponse <| some
    { destIPAddress := message.destIPAddress, destPMACAddress,
      srcIPAddress := message.srcIPAddress, srcPMACAddress := message.srcPMACAddress }
  if manager.isIPRegistered message.destIPAddress then
    { fabricManager := manager
      toSwitches := []
      response := some (response (manager.getPMACforIP message.destIPAddress)) }
  else
    { fabricManager := manager
      toSwitches := manager.floodARPRequest deviceType
        { destIPAddress := message.destIPAddress, srcIPAddress := message.srcIPAddress,
          srcPMACAddress := message.srcPMACAddress } swtch
      response := some (response .getBroadcast) }

def receiveFromSwitch (manager : FabricManager ι) (deviceType : ι → PortlandSwitchType)
    (swtch : ι) (buffer : BufferData) : Reply ι :=
  match buffer with
  | .macRegister message => manager.pmacRegisterHandler message
  | .arpRequest message => manager.arpRequestHandler deviceType message swtch
  | _ => { fabricManager := manager, toSwitches := [], response := none }

end FabricManager

end DataCenter.Portland
