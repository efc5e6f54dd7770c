import DataCenter.Portland.FabricManager
import DataCenter.Portland.PmacTable

/-! # The PortLand switch

`PortlandSwitchNetDevice`: what a switch does with a frame that one of its port
devices hands it, and with a flood that the fabric manager orders.  `δ`
identifies a port device and `ι` a switch, as `Ptr` does. -/

namespace DataCenter.Portland

open Std

/-- `pld::Port`: a port device and its counters. -/
structure Port (δ : Type) where
  netdev : δ
  rxPackets : UInt64 := 0
  txPackets : UInt64 := 0
  rxBytes : UInt64 := 0
  txBytes : UInt64 := 0
  txDropped : UInt64 := 0
  deriving DecidableEq, Repr

/-- How a port device classifies a frame it receives. -/
inductive PacketType where
  | host
  | broadcast
  | multicast
  | otherhost
  deriving DecidableEq, Repr

/-- A frame as `SendFrom` takes it and as a receive callback gets it. -/
structure Frame where
  packet : Packet
  src : Mac48Address
  dst : Mac48Address
  protocol : UInt16
  deriving DecidableEq, Repr

def arpProtocol : UInt16 := 0x0806
def ipv4Protocol : UInt16 := 0x0800

structure SwitchPacketMetadata where
  packet : Packet
  protocolNumber : UInt16
  srcAmac : Mac48Address
  srcPmac : Mac48Address := {}
  dstPmac : Mac48Address
  srcIp : Ipv4Address := {}
  dstIp : Ipv4Address := {}
  isArpRequest : Bool
  deriving DecidableEq, Repr

/-- What a switch does that others can see: hand a packet to its own node, or
send a frame from the port device of a port.  `sent` is the result of
`SendFrom`. -/
inductive Action (δ : Type) where
  | rxCallback (packet : Packet) (protocol : UInt16) (src : Mac48Address)
  | sendFrom (isUpper : Bool) (outPort : UInt8) (netdev : δ) (frame : Frame) (sent : Bool)
  deriving DecidableEq, Repr

/-- Where the C++ has no defined behaviour: `rand ()` modulo zero, the use of a
response that no fabric manager produced, and an ingress port that no port of
the switch set. -/
inductive Fault where
  | moduloByZero
  | noResponse
  | noInPort
  deriving DecidableEq, Repr

/-- What one call of a switch method finds outside the switch: `this`, the types
of the other switches, the value that `rand ()` returns, the result of the
`n`-th `SendFrom` and the value of a `bool` that is read without being set. -/
structure Surroundings (ι : Type) where
  self : ι
  deviceType : ι → PortlandSwitchType
  rand : Nat
  isSent : Nat → Bool
  unset : Bool

structure PortlandSwitchNetDevice (δ : Type) where
  deviceType : PortlandSwitchType := .edge
  pod : UInt8 := 0
  position : UInt8 := 0
  address : Mac48Address := {}
  upperPorts : List (Port δ) := []
  lowerPorts : List (Port δ) := []
  /-- `m_fabricManager != 0` -/
  hasFabricManager : Bool := false
  table : PMACTable := {}

/-- The effect of a receive call: the switch and the manager afterwards, the
switch's actions in order and the buffers the manager handed to other
switches. -/
structure Outcome (δ ι : Type) where
  switch : PortlandSwitchNetDevice δ
  fabricManager : FabricManager ι
  actions : List (Action δ) := []
  toSwitches : List (ι × BufferData) := []

/-- Conversion of an `int` to `uint8_t`. -/
def toUInt8 (value : Int) : UInt8 := UInt8.ofNat (value % 256).toNat

/-- `MetadataFromPacket`.  Every protocol other than IPv4 is parsed as ARP, and
a parse that fails leaves the two IP addresses at their default and
`is_arp_request` unset. -/
def metadataFromPacket (unset : Bool) (packet : Packet) (src dst : Mac48Address)
    (protocol : UInt16) : SwitchPacketMetadata :=
  let metadata : SwitchPacketMetadata :=
    { packet, protocolNumber := protocol, srcAmac := src, dstPmac := dst,
      isArpRequest := unset }
  if protocol = ipv4Protocol then
    let ipHd := packet.peekIpv4Header
    { metadata with
      srcIp := ipHd.source, dstIp := ipHd.destination, isArpRequest := false }
  else
    match packet.peekArpHeader with
    | some arpHd =>
        { metadata with
          srcIp := arpHd.ipv4Source, dstIp := arpHd.ipv4Dest
          isArpRequest := arpHd.isRequest }
    | none => metadata

namespace PortlandSwitchNetDevice

variable {δ ι : Type}

/-! ## Construction -/

def setFabricManager (switch : PortlandSwitchNetDevice δ) : PortlandSwitchNetDevice δ :=
  { switch with hasFabricManager := true }

/-- The first port gives the switch its own address. -/
def addSwitchPort (getAddress : δ → Mac48Address) (switch : PortlandSwitchNetDevice δ)
    (switchPort : δ) (isUpper : Bool) : PortlandSwitchNetDevice δ :=
  let switch :=
    if switch.address = {} then { switch with address := getAddress switchPort }
    else switch
  if isUpper then
    { switch with upperPorts := switch.upperPorts ++ [{ netdev := switchPort }] }
  else { switch with lowerPorts := switch.lowerPorts ++ [{ netdev := switchPort }] }

/-! ## Output -/

/-- `OutputPacket`.  `Ports_t ports = ...` copies the vector of ports, so the
transmit counters are updated in that copy, here the first component, and the
switch itself does not change. -/
def outputPacket (switch : PortlandSwitchNetDevice δ) (sent : Bool)
    (metadata : SwitchPacketMetadata) (outPort : UInt8) (isUpper : Bool) :
    List (Port δ) × List (Action δ) :=
  let ports := if isUpper then switch.upperPorts else switch.lowerPorts
  match ports[outPort.toNat]? with
  | some p =>
      let p' := if sent then
          { p with
            txPackets := p.txPackets + 1
            txBytes := p.txBytes + metadata.packet.getSize.toUInt64 }
        else { p with txDropped := p.txDropped + 1 }
      (ports.set outPort.toNat p', [.sendFrom isUpper outPort p.netdev
        { packet := metadata.packet, src := metadata.srcPmac, dst := metadata.dstPmac,
          protocol := metadata.protocolNumber } sent])
  | none => (ports, [])

/-- `GetOutputPort` -/
def getOutputPort (switch : PortlandSwitchNetDevice δ) (rand : Nat)
    (dstPmac : Mac48Address) :
    Except Fault Int :=
  let dstPod : UInt16 := dstPmac.octet0.toUInt16 <<< 8 ||| dstPmac.octet1.toUInt16
  let randomUpperPort : Except Fault Int :=
    if switch.upperPorts.length = 0 then .error .moduloByZero
    else .ok (rand % switch.upperPorts.length : Nat)
  match switch.deviceType with
  | .core => .ok dstPod.toNat
  | .aggregation =>
      if switch.pod.toUInt16 = dstPod then .ok dstPmac.octet2.toNat else randomUpperPort
  | .edge =>
      if switch.pod.toUInt16 = dstPod ∧ switch.position = dstPmac.octet2 then
        .ok dstPmac.octet3.toNat
      else randomUpperPort

/-! ## The fabric manager's side -/

/-- `ARPFloodFromFabricManager` -/
def arpFloodFromFabricManager (switch : PortlandSwitchNetDevice δ) (isSent : Nat → Bool)
    (dstIp srcIp : Ipv4Address) (srcPmac : Mac48Address) : List (Action δ) :=
  if switch.deviceType = .core then
    let arp := ArpHeader.setRequest srcPmac.convertTo srcIp
      Mac48Address.getBroadcast.convertTo dstIp
    let packet := Packet.ofArpHeader arp
    let metadata :=
      { metadataFromPacket false packet .getBroadcast .getBroadcast arpProtocol with
        srcPmac }
    (List.range switch.lowerPorts.length).flatMap fun i =>
      (switch.outputPacket (isSent i) { metadata with packet } i.toUInt8 false).2
  else []

/-- `ReceiveBufferFromFabricManager` -/
def receiveBufferFromFabricManager (switch : PortlandSwitchNetDevice δ)
    (isSent : Nat → Bool) (buffer : BufferData) : List (Action δ) :=
  match switch.deviceType, buffer with
  | .core, .arpFlood message =>
      switch.arpFloodFromFabricManager isSent message.destIPAddress
      message.srcIPAddress message.srcPMACAddress
  | _, _ => []

variable [DecidableEq ι]

/-- `SendBufferToFabricManager`, whose response is indeterminate without a
manager. -/
def sendBufferToFabricManager (switch : PortlandSwitchNetDevice δ)
    (manager : FabricManager ι)
    (surroundings : Surroundings ι) (buffer : BufferData) : Reply ι :=
  if switch.hasFabricManager then
    manager.receiveFromSwitch surroundings.deviceType surroundings.self buffer
  else { fabricManager := manager, toSwitches := [], response := none }

/-- `UpdateFabricManager`, which frees the message of the response. -/
def updateFabricManager (switch : PortlandSwitchNetDevice δ) (manager : FabricManager ι)
    (surroundings : Surroundings ι) (srcIp : Ipv4Address) (srcPmac : Mac48Address) :
    Except Fault (FabricManager ι) :=
  let reply := switch.sendBufferToFabricManager manager surroundings
    (.macRegister { hostIP := srcIp, pmacAddress := srcPmac })
  match reply.response with
  | some _ => .ok reply.fabricManager
  | none => .error .noResponse

/-- `QueryFabricManager`, which reads the response as an `ARPResponse`. -/
def queryFabricManager (switch : PortlandSwitchNetDevice δ) (manager : FabricManager ι)
    (surroundings : Surroundings ι) (dstIp srcIp : Ipv4Address) (srcPmac : Mac48Address) :
    Except Fault (Mac48Address × FabricManager ι × List (ι × BufferData)) :=
  let reply := switch.sendBufferToFabricManager manager surroundings (.arpRequest
    { destIPAddress := dstIp, srcIPAddress := srcIp, srcPMACAddress := srcPmac })
  match reply.response with
  | some (.arpResponse (some response)) =>
      .ok (response.destPMACAddress, reply.fabricManager, reply.toSwitches)
  | _ => .error .noResponse

/-! ## Source and destination PMAC -/

/-- The PMAC that `GetSourcePMAC` assembles for an ingress port. -/
def assignedPmac (switch : PortlandSwitchNetDevice δ) (inPort : UInt8) : Mac48Address :=
  ⟨0, switch.pod, switch.position, inPort, 0, 1⟩

/-- `GetSourcePMAC` -/
def getSourcePMAC (switch : PortlandSwitchNetDevice δ) (manager : FabricManager ι)
    (surroundings : Surroundings ι) (metadata : SwitchPacketMetadata) (inPort : UInt8)
    (fromUpper : Bool) :
    Except Fault (Mac48Address × PortlandSwitchNetDevice δ × FabricManager ι) :=
  if (fromUpper ∧ ¬ inPort.toNat < switch.upperPorts.length) ∨
      (¬ fromUpper ∧ ¬ inPort.toNat < switch.lowerPorts.length) then
    .ok (.getBroadcast, switch, manager)
  else if switch.table.findPortOfIp metadata.srcIp ≠ -1 then
    .ok (switch.table.findPMACOfAmac metadata.srcAmac, switch, manager)
  else do
    let srcPmac := switch.assignedPmac inPort
    let switch := { switch with
      table := switch.table.add srcPmac metadata.srcAmac metadata.srcIp inPort.toUInt32 }
    let manager ← switch.updateFabricManager manager surroundings metadata.srcIp srcPmac
    return (srcPmac, switch, manager)

/-- `GetDestinationPMAC` -/
def getDestinationPMAC (switch : PortlandSwitchNetDevice δ) (manager : FabricManager ι)
    (surroundings : Surroundings ι) (dstIp srcIp : Ipv4Address) (srcPmac : Mac48Address) :
    Except Fault (Mac48Address × FabricManager ι × List (ι × BufferData)) :=
  if switch.table.findPortOfIp dstIp ≠ -1 then
    .ok (switch.table.findPMACOfIp dstIp, manager, [])
  else
    switch.queryFabricManager manager surroundings dstIp srcIp srcPmac

/-! ## Reception -/

/-- The payload that leaves an edge switch: an ARP frame that is not a request
is replaced by a reply between the addresses in the metadata, any other payload
is copied. -/
def rewrittenPacket (metadata : SwitchPacketMetadata) (packet : Packet) : Packet :=
  if metadata.protocolNumber = arpProtocol ∧ ¬ metadata.isArpRequest then
    .ofArpHeader <| .setReply metadata.srcPmac.convertTo metadata.srcIp
      metadata.dstPmac.convertTo metadata.dstIp
  else packet

/-- An edge switch, from a lower port. -/
def receiveAtEdgeFromLower (switch : PortlandSwitchNetDevice δ)
    (manager : FabricManager ι)
    (surroundings : Surroundings ι) (metadata : SwitchPacketMetadata) (packet : Packet)
    (inPort : UInt8) : Except Fault (Outcome δ ι) := do
  let (srcPmac, switch, manager) ←
    switch.getSourcePMAC manager surroundings metadata inPort false
  if srcPmac = .getBroadcast then
    return { switch, fabricManager := manager }
  let metadata := { metadata with srcPmac }
  let (dstPmac, manager, toSwitches) ←
    switch.getDestinationPMAC manager surroundings metadata.dstIp metadata.srcIp
      metadata.srcPmac
  -- a broadcast answer stands for a miss, for which the manager floods a request of its
  -- own
  if dstPmac = .getBroadcast then
    return { switch, fabricManager := manager, toSwitches }
  let metadata := { metadata with dstPmac }
  let outPort ← switch.getOutputPort surroundings.rand metadata.dstPmac
  if outPort < 0 then
    return { switch, fabricManager := manager, toSwitches }
  let metadata := { metadata with packet := rewrittenPacket metadata packet }
  return {
    switch
    fabricManager := manager
    actions :=
      (switch.outputPacket (surroundings.isSent 0) metadata (toUInt8 outPort) true).2
    toSwitches }

/-- The broadcast loop of an edge switch.  The metadata is carried from one
iteration to the next. -/
def broadcastToLower (switch : PortlandSwitchNetDevice δ) (isSent : Nat → Bool)
    (packet : Packet) : SwitchPacketMetadata → List Nat → List (Action δ)
  | _, [] => []
  | metadata, i :: rest =>
      let metadata := { metadata with packet, srcPmac := metadata.srcAmac, srcAmac := {} }
      (switch.outputPacket (isSent i) metadata i.toUInt8 false).2 ++
        switch.broadcastToLower isSent packet metadata rest

/-- An edge switch, from an upper port. -/
def receiveAtEdgeFromUpper (switch : PortlandSwitchNetDevice δ)
    (manager : FabricManager ι)
    (surroundings : Surroundings ι) (metadata : SwitchPacketMetadata) (packet : Packet) :
    Except Fault (Outcome δ ι) :=
  if metadata.dstPmac = .getBroadcast then
    .ok {
      switch
      fabricManager := manager
      actions := switch.broadcastToLower surroundings.isSent packet metadata
        (List.range switch.lowerPorts.length) }
  else
    let dstAmac := switch.table.findAMACOfPmac metadata.dstPmac
    if dstAmac = .getBroadcast then
      .ok { switch, fabricManager := manager }
    else do
      let outPort := toUInt8 (← switch.getOutputPort surroundings.rand metadata.dstPmac)
      -- `out_port` is unsigned here, so this test never succeeds
      if outPort < 0 then
        return { switch, fabricManager := manager }
      let metadata := { metadata with
        dstPmac := dstAmac, srcPmac := metadata.srcAmac, srcAmac := {} }
      let metadata := { metadata with packet := rewrittenPacket metadata packet }
      return {
        switch
        fabricManager := manager
        actions :=
          (switch.outputPacket (surroundings.isSent 0) metadata outPort false).2 }

/-- The basic forwarding of aggregation and core switches. -/
def forward (switch : PortlandSwitchNetDevice δ) (manager : FabricManager ι)
    (surroundings : Surroundings ι) (metadata : SwitchPacketMetadata) (packet : Packet)
    (isUpper : Bool) : Except Fault (Outcome δ ι) := do
  let outPort := toUInt8 (← switch.getOutputPort surroundings.rand metadata.dstPmac)
  if outPort < 0 then
    return { switch, fabricManager := manager }
  let metadata := { metadata with packet, srcPmac := metadata.srcAmac, srcAmac := {} }
  return {
    switch
    fabricManager := manager
    actions := (switch.outputPacket (surroundings.isSent 0) metadata outPort isUpper).2 }

/-- The pipeline for a parsed frame, by ingress side and type of switch. -/
def receiveParsed (switch : PortlandSwitchNetDevice δ) (manager : FabricManager ι)
    (surroundings : Surroundings ι) (metadata : SwitchPacketMetadata) (packet : Packet)
    (inPort : UInt8) (fromUpper : Bool) : Except Fault (Outcome δ ι) :=
  match fromUpper, switch.deviceType with
  | false, .edge =>
      switch.receiveAtEdgeFromLower manager surroundings metadata packet inPort
  | false, .aggregation => switch.forward manager surroundings metadata packet true
  | false, .core => switch.forward manager surroundings metadata packet false
  | true, .edge => switch.receiveAtEdgeFromUpper manager surroundings metadata packet
  | true, .aggregation => switch.forward manager surroundings metadata packet false
  | true, .core => .ok { switch, fabricManager := manager }

variable [DecidableEq δ]

/-- The index that a search loop leaves in `in_port`: every match overwrites
it. -/
def lastIndexOf (netdev : δ) (ports : List (Port δ)) : Option Nat :=
  ports.zipIdx.foldl
    (fun found port => if port.1.netdev = netdev then some port.2 else found) none

/-- `from_upper` and `in_port` after the two search loops. -/
def findInPort (switch : PortlandSwitchNetDevice δ) (netdev : δ) :
    Option (Bool × UInt8) :=
  match lastIndexOf netdev switch.upperPorts with
  | some i => some (true, i.toUInt8)
  | none => (lastIndexOf netdev switch.lowerPorts).map fun i => (false, i.toUInt8)

/-- The receive counters of one port. -/
def countReceived (netdev : δ) (packet : Packet) (port : Port δ) : Port δ :=
  if port.netdev = netdev then
    { port with
      rxPackets := port.rxPackets + 1
      rxBytes := port.rxBytes + packet.getSize.toUInt64 }
  else port

/-- The two search loops of `ReceiveFromDevice`, as far as they count. -/
def withReceived (switch : PortlandSwitchNetDevice δ) (netdev : δ) (packet : Packet) :
    PortlandSwitchNetDevice δ :=
  { switch with
    lowerPorts := switch.lowerPorts.map (countReceived netdev packet)
    upperPorts := switch.upperPorts.map (countReceived netdev packet) }

/-- `ReceiveFromDevice` -/
def receiveFromDevice (switch : PortlandSwitchNetDevice δ) (manager : FabricManager ι)
    (surroundings : Surroundings ι) (netdev : δ) (frame : Frame)
    (packetType : PacketType) : Except Fault (Outcome δ ι) :=
  match switch.findInPort netdev with
  | none => .error .noInPort
  | some (fromUpper, inPort) =>
      let switch := switch.withReceived netdev frame.packet
      let toNode : Action δ := .rxCallback frame.packet frame.protocol frame.src
      if packetType = .host ∧ frame.dst = switch.address then
        .ok { switch, fabricManager := manager, actions := [toNode] }
      else if packetType = .broadcast ∨ packetType = .multicast ∨
          packetType = .otherhost then
        if packetType = .otherhost ∧ frame.dst = switch.address then
          .ok { switch, fabricManager := manager, actions := [toNode] }
        else do
          let metadata := metadataFromPacket surroundings.unset frame.packet frame.src
            frame.dst frame.protocol
          let outcome ← switch.receiveParsed manager surroundings metadata frame.packet
            inPort fromUpper
          return { outcome with
            actions :=
              (if packetType = .otherhost then [toNode] else []) ++ outcome.actions }
      else .ok { switch, fabricManager := manager }

end PortlandSwitchNetDevice

end DataCenter.Portland
