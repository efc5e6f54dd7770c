import DataCenter.Portland.SwitchNetDevice

/-! # What one reception can do

The specification of `ReceiveFromDevice` that all later proofs use: which part
of a switch it leaves alone, what it writes into the two tables, and what it
sends in each branch. -/

namespace DataCenter.Portland

open Std

/-- The part of a switch that construction fixes. -/
structure SwitchConfig (δ : Type) where
  deviceType : PortlandSwitchType
  pod : UInt8
  position : UInt8
  address : Mac48Address
  upper : List δ
  lower : List δ
  hasFabricManager : Bool
  deriving DecidableEq, Repr

/-- The port device of an output port. -/
def SwitchConfig.port {δ : Type} (config : SwitchConfig δ) (isUpper : Bool)
    (outPort : UInt8) :
    Option δ :=
  (if isUpper then config.upper else config.lower)[outPort.toNat]?

/-- The transmission of a frame on a port, if the switch has that port. -/
def SwitchConfig.transmit {δ : Type} (config : SwitchConfig δ) (isUpper : Bool)
    (outPort : UInt8) (frame : Frame) (sent : Bool) : List (Action δ) :=
  match config.port isUpper outPort with
  | some netdev => [.sendFrom isUpper outPort netdev frame sent]
  | none => []

/-- The manager after an entry was or was not registered with it. -/
def FabricManager.learn {ι : Type} (manager : FabricManager ι)
    (entry : Option PMACEntry) :
    FabricManager ι :=
  entry.elim manager fun entry => manager.addPMACToTable entry.ipAddress entry.pmac

theorem bind_eq_ok {α β : Type} {computation : Except Fault α}
    {continuation : α → Except Fault β} {result : β} :
    (computation >>= continuation) = .ok result ↔
      ∃ value, computation = .ok value ∧ continuation value = .ok result := by
  cases computation <;> simp [bind, Except.bind]

namespace PortlandSwitchNetDevice

variable {δ ι : Type}

def config (switch : PortlandSwitchNetDevice δ) : SwitchConfig δ where
  deviceType := switch.deviceType
  pod := switch.pod
  position := switch.position
  address := switch.address
  upper := switch.upperPorts.map Port.netdev
  lower := switch.lowerPorts.map Port.netdev
  hasFabricManager := switch.hasFabricManager

/-! ## Metadata -/

@[simp] theorem metadataFromPacket_srcAmac (unset : Bool) (packet : Packet)
    (src dst : Mac48Address) (protocol : UInt16) :
    (metadataFromPacket unset packet src dst protocol).srcAmac = src := by
  rw [metadataFromPacket]
  dsimp only
  split
  · rfl
  · split <;> rfl

@[simp] theorem metadataFromPacket_dstPmac (unset : Bool) (packet : Packet)
    (src dst : Mac48Address) (protocol : UInt16) :
    (metadataFromPacket unset packet src dst protocol).dstPmac = dst := by
  rw [metadataFromPacket]
  dsimp only
  split
  · rfl
  · split <;> rfl

@[simp] theorem metadataFromPacket_protocolNumber (unset : Bool) (packet : Packet)
    (src dst : Mac48Address) (protocol : UInt16) :
    (metadataFromPacket unset packet src dst protocol).protocolNumber = protocol := by
  rw [metadataFromPacket]
  dsimp only
  split
  · rfl
  · split <;> rfl

/-! ## Output -/

theorem outputPacket_actions (switch : PortlandSwitchNetDevice δ) (sent : Bool)
    (metadata : SwitchPacketMetadata) (outPort : UInt8) (isUpper : Bool) :
    (switch.outputPacket sent metadata outPort isUpper).2 =
      switch.config.transmit isUpper outPort
        { packet := metadata.packet, src := metadata.srcPmac, dst := metadata.dstPmac,
          protocol := metadata.protocolNumber } sent := by
  rw [outputPacket, SwitchConfig.transmit, SwitchConfig.port, config]
  cases isUpper with
  | true => cases port : switch.upperPorts[outPort.toNat]? <;> simp [port]
  | false => cases port : switch.lowerPorts[outPort.toNat]? <;> simp [port]

/-! ## Output port -/

/-- The PMAC of a pod, a position in it and a port of the edge switch there. -/
def pseudo (pod position port : UInt8) : Mac48Address := ⟨0, pod, position, port, 0, 1⟩

theorem assignedPmac_eq (switch : PortlandSwitchNetDevice δ) (inPort : UInt8) :
    switch.assignedPmac inPort = pseudo switch.pod switch.position inPort := rfl

theorem pseudo_ne_broadcast (pod position port : UInt8) :
    pseudo pod position port ≠ .getBroadcast := by
  simp [pseudo, Mac48Address.getBroadcast]

@[simp] theorem pseudo_inj {pod position port pod' position' port' : UInt8} :
    pseudo pod position port = pseudo pod' position' port' ↔
      pod = pod' ∧ position = position' ∧ port = port' := by
  simp [pseudo]

theorem toUInt8_natCast (value : Nat) : toUInt8 (value : Int) = UInt8.ofNat value := by
  apply UInt8.toNat_inj.mp
  simp [toUInt8]
  omega

@[simp] theorem toUInt8_toNat (value : UInt8) : toUInt8 (value.toNat : Int) = value := by
  simp [toUInt8_natCast]

private theorem shiftedZero_or (pod : UInt8) :
    (0 : UInt8).toUInt16 <<< 8 ||| pod.toUInt16 = pod.toUInt16 := by
  simp

/-- The port of a switch's choice for a frame that has to go up. -/
def randomUpperPort (switch : PortlandSwitchNetDevice δ) (rand : Nat) :
    Except Fault Int :=
  if switch.upperPorts.length = 0 then .error .moduloByZero
  else .ok (rand % switch.upperPorts.length : Nat)

theorem getOutputPort_pseudo (switch : PortlandSwitchNetDevice δ) (rand : Nat)
    (pod position port : UInt8) :
    switch.getOutputPort rand (pseudo pod position port) =
      match switch.deviceType with
      | .core => .ok pod.toNat
      | .aggregation =>
          if switch.pod = pod then .ok position.toNat else switch.randomUpperPort rand
      | .edge =>
          if switch.pod = pod ∧ switch.position = position then .ok port.toNat
          else switch.randomUpperPort rand := by
  have sameOctet : switch.pod.toUInt16 = pod.toUInt16 ↔ switch.pod = pod := by
    constructor
    · intro equal
      have values := congrArg UInt16.toNat equal
      exact UInt8.toNat_inj.mp (by simpa using values)
    · intro equal
      rw [equal]
  rw [getOutputPort]
  simp only [pseudo, shiftedZero_or, sameOctet, randomUpperPort]
  cases switch.deviceType <;> simp

/-- No pod number has two octets, so a broadcast is always for elsewhere. -/
theorem getOutputPort_broadcast {switch : PortlandSwitchNetDevice δ}
    (isAggregation : switch.deviceType = .aggregation) (rand : Nat) :
    switch.getOutputPort rand .getBroadcast = switch.randomUpperPort rand := by
  have notLocal : switch.pod.toUInt16 ≠ 0xffff := by
    intro same
    have value := congrArg UInt16.toNat same
    have bound := switch.pod.toNat_lt
    simp at value
    omega
  have allPods : Mac48Address.getBroadcast.octet0.toUInt16 <<< 8 |||
      Mac48Address.getBroadcast.octet1.toUInt16 = 0xffff := by decide
  simp [getOutputPort, isAggregation, allPods, notLocal, randomUpperPort]

theorem exists_nat_of_randomUpperPort {switch : PortlandSwitchNetDevice δ} {rand : Nat}
    {outPort : Int} (output : switch.randomUpperPort rand = .ok outPort) :
    ∃ number : Nat, outPort = number := by
  rw [randomUpperPort] at output
  split at output
  · cases output
  · cases output
    exact ⟨_, rfl⟩

/-- The -1 of `GetOutputPort` is for a type that no switch has. -/
theorem exists_nat_of_getOutputPort {switch : PortlandSwitchNetDevice δ} {rand : Nat}
    {dstPmac : Mac48Address} {outPort : Int}
    (output : switch.getOutputPort rand dstPmac = .ok outPort) :
    ∃ number : Nat, outPort = number := by
  cases layer : switch.deviceType with
  | core =>
      simp only [getOutputPort, layer] at output
      cases output
      exact ⟨_, rfl⟩
  | aggregation =>
      simp only [getOutputPort, layer] at output
      split at output
      · cases output
        exact ⟨_, rfl⟩
      · exact exists_nat_of_randomUpperPort output
  | edge =>
      simp only [getOutputPort, layer] at output
      split at output
      · cases output
        exact ⟨_, rfl⟩
      · exact exists_nat_of_randomUpperPort output

/-! ## Ingress port -/

section IngressPort

variable [DecidableEq δ]

@[simp] theorem lastIndexOf_nil (netdev : δ) : lastIndexOf netdev [] = none := rfl

theorem lastIndexOf_concat (netdev : δ) (ports : List (Port δ)) (port : Port δ) :
    lastIndexOf netdev (ports ++ [port]) =
      if port.netdev = netdev then some ports.length else lastIndexOf netdev ports := by
  simp [lastIndexOf, List.zipIdx_append]

theorem getElem?_of_lastIndexOf {netdev : δ} {ports : List (Port δ)} {index : Nat}
    (found : lastIndexOf netdev ports = some index) :
    (ports.map Port.netdev)[index]? = some netdev := by
  induction ports using List.reverseRecOn with
  | nil => simp at found
  | append_singleton ports port induction =>
      rw [lastIndexOf_concat] at found
      split at found
      · next same =>
          cases found
          simp [same]
      · have earlier := induction found
        have bound : index < (ports.map Port.netdev).length :=
          (List.getElem?_eq_some_iff.mp earlier).1
        rw [List.map_append, List.getElem?_append_left bound]
        exact earlier

theorem lastIndexOf_eq_none_iff {netdev : δ} {ports : List (Port δ)} :
    lastIndexOf netdev ports = none ↔ netdev ∉ ports.map Port.netdev := by
  induction ports using List.reverseRecOn with
  | nil => simp
  | append_singleton ports port induction =>
      rw [lastIndexOf_concat]
      split
      · next same => simp [same]
      · next different =>
          have other : ¬ netdev = port.netdev := fun equal => different equal.symm
          simp [induction, other]

/-- In a vector without repetitions the search finds the one index. -/
theorem lastIndexOf_eq_some {netdev : δ} {ports : List (Port δ)} {index : Nat}
    (nodup : (ports.map Port.netdev).Nodup)
    (stored : (ports.map Port.netdev)[index]? = some netdev) :
    lastIndexOf netdev ports = some index := by
  cases found : lastIndexOf netdev ports with
  | none =>
      have absent := lastIndexOf_eq_none_iff.mp found
      exact absurd (List.mem_of_getElem? stored) absent
  | some other =>
      have otherStored := getElem?_of_lastIndexOf found
      have bound : other < (ports.map Port.netdev).length :=
        (List.getElem?_eq_some_iff.mp otherStored).1
      have same := (List.getElem?_inj bound nodup).mp (otherStored.trans stored.symm)
      rw [same]

theorem lastIndexOf_congr {netdev : δ} {left right : List (Port δ)}
    (sameDevices : left.map Port.netdev = right.map Port.netdev) :
    lastIndexOf netdev left = lastIndexOf netdev right := by
  induction left using List.reverseRecOn generalizing right with
  | nil =>
      have empty : right = [] := by simpa using sameDevices.symm
      rw [empty]
  | append_singleton left port induction =>
      rcases List.eq_nil_or_concat right with rfl | ⟨right, other, rfl⟩
      · simp at sameDevices
      · simp only [List.concat_eq_append, List.map_append, List.map_cons, List.map_nil]
          at sameDevices ⊢
        have parts := List.append_inj' sameDevices rfl
        have sameLength : left.length = right.length := by
          simpa using congrArg List.length parts.1
        have sameDevice : port.netdev = other.netdev := by simpa using parts.2
        rw [lastIndexOf_concat, lastIndexOf_concat, induction parts.1, sameLength,
          sameDevice]

theorem findInPort_congr {left right : PortlandSwitchNetDevice δ} {netdev : δ}
    (sameConfig : left.config = right.config) :
    left.findInPort netdev = right.findInPort netdev := by
  have sameUpper : left.upperPorts.map Port.netdev = right.upperPorts.map Port.netdev :=
    congrArg SwitchConfig.upper sameConfig
  have sameLower : left.lowerPorts.map Port.netdev = right.lowerPorts.map Port.netdev :=
    congrArg SwitchConfig.lower sameConfig
  unfold findInPort
  rw [lastIndexOf_congr sameUpper, lastIndexOf_congr sameLower]

end IngressPort

/-! ## Learning -/

/-- The entry that `GetSourcePMAC` registers: none if the ingress port is out of
range or the table already holds the source IP. -/
def newEntry (switch : PortlandSwitchNetDevice δ) (metadata : SwitchPacketMetadata)
    (inPort : UInt8) : Option PMACEntry :=
  if inPort.toNat < switch.lowerPorts.length ∧
      switch.table.findPortOfIp metadata.srcIp = -1 then
    some { pmac := switch.assignedPmac inPort, amac := metadata.srcAmac,
           ipAddress := metadata.srcIp, port := inPort }
  else none

/-- The switch after an entry was or was not added. -/
def learn (switch : PortlandSwitchNetDevice δ) (entry : Option PMACEntry) :
    PortlandSwitchNetDevice δ :=
  entry.elim switch fun entry => { switch with table := switch.table.record entry }

@[simp] theorem config_learn (switch : PortlandSwitchNetDevice δ)
    (entry : Option PMACEntry) :
    (switch.learn entry).config = switch.config := by
  cases entry <;> rfl

@[simp] theorem getOutputPort_learn (switch : PortlandSwitchNetDevice δ)
    (entry : Option PMACEntry) (rand : Nat) (dstPmac : Mac48Address) :
    (switch.learn entry).getOutputPort rand dstPmac =
      switch.getOutputPort rand dstPmac := by
  cases entry <;> rfl

/-! ## Forwarding without learning -/

private theorem not_lt_zero (outPort : UInt8) : ¬ outPort < 0 := UInt8.not_lt_zero

/-- The basic forwarding sends the frame on the port it computed, with the
addresses it came with. -/
theorem forward_eq (switch : PortlandSwitchNetDevice δ) (manager : FabricManager ι)
    (surroundings : Surroundings ι) (metadata : SwitchPacketMetadata) (packet : Packet)
    (isUpper : Bool) :
    switch.forward manager surroundings metadata packet isUpper = do
      let outPort ← switch.getOutputPort surroundings.rand metadata.dstPmac
      return {
        switch
        fabricManager := manager
        actions := (switch.outputPacket (surroundings.isSent 0)
          { metadata with packet, srcPmac := metadata.srcAmac, srcAmac := {} }
          (toUInt8 outPort) isUpper).2 } := by
  simp only [forward, not_lt_zero, if_false]

/-- The egress edge translates the destination PMAC. -/
theorem receiveAtEdgeFromUpper_eq {switch : PortlandSwitchNetDevice δ}
    {metadata : SwitchPacketMetadata} (unicast : metadata.dstPmac ≠ .getBroadcast)
    (manager : FabricManager ι) (surroundings : Surroundings ι) (packet : Packet) :
    switch.receiveAtEdgeFromUpper manager surroundings metadata packet =
      let dstAmac := switch.table.findAMACOfPmac metadata.dstPmac
      if dstAmac = .getBroadcast then .ok { switch, fabricManager := manager }
      else do
        let outPort ← switch.getOutputPort surroundings.rand metadata.dstPmac
        let translated := { metadata with
          dstPmac := dstAmac, srcPmac := metadata.srcAmac, srcAmac := {} }
        return {
          switch
          fabricManager := manager
          actions := (switch.outputPacket (surroundings.isSent 0)
            { translated with packet := rewrittenPacket translated packet }
            (toUInt8 outPort) false).2 } := by
  simp only [receiveAtEdgeFromUpper, unicast, not_lt_zero, if_false]

/-- The frame that the egress edge makes of one whose destination has an AMAC
on record. -/
def egressFrame (metadata : SwitchPacketMetadata) (dstAmac : Mac48Address)
    (packet : Packet) :
    Frame where
  packet := rewrittenPacket
    { metadata with dstPmac := dstAmac, srcPmac := metadata.srcAmac, srcAmac := {} }
      packet
  src := metadata.srcAmac
  dst := dstAmac
  protocol := metadata.protocolNumber

theorem receiveAtEdgeFromUpper_of_known {switch : PortlandSwitchNetDevice δ}
    {metadata : SwitchPacketMetadata} {surroundings : Surroundings ι} {outPort : Int}
    (unicast : metadata.dstPmac ≠ .getBroadcast)
    (known : switch.table.findAMACOfPmac metadata.dstPmac ≠ .getBroadcast)
    (output : switch.getOutputPort surroundings.rand metadata.dstPmac = .ok outPort)
    (manager : FabricManager ι) (packet : Packet) :
    switch.receiveAtEdgeFromUpper manager surroundings metadata packet = .ok
      { switch
        fabricManager := manager
        actions := switch.config.transmit false (toUInt8 outPort)
          (egressFrame metadata (switch.table.findAMACOfPmac metadata.dstPmac) packet)
          (surroundings.isSent 0) } := by
  rw [receiveAtEdgeFromUpper_eq unicast]
  simp [known, output, outputPacket_actions, egressFrame, bind, Except.bind, pure,
    Except.pure]

theorem receiveAtEdgeFromUpper_broadcast {switch : PortlandSwitchNetDevice δ}
    {metadata : SwitchPacketMetadata} (broadcast : metadata.dstPmac = .getBroadcast)
    (manager : FabricManager ι) (surroundings : Surroundings ι) (packet : Packet) :
    switch.receiveAtEdgeFromUpper manager surroundings metadata packet = .ok
      { switch
        fabricManager := manager
        actions := switch.broadcastToLower surroundings.isSent packet metadata
          (List.range switch.lowerPorts.length) } := by
  simp only [receiveAtEdgeFromUpper, broadcast, if_true]

/-! ## Exchanges with the fabric manager -/

variable [DecidableEq ι]

@[simp] theorem updateFabricManager_eq (switch : PortlandSwitchNetDevice δ)
    (manager : FabricManager ι) (surroundings : Surroundings ι) (srcIp : Ipv4Address)
    (srcPmac : Mac48Address) :
    switch.updateFabricManager manager surroundings srcIp srcPmac =
      if switch.hasFabricManager then .ok (manager.addPMACToTable srcIp srcPmac)
      else .error .noResponse := by
  rw [updateFabricManager, sendBufferToFabricManager]
  cases switch.hasFabricManager <;> rfl

/-- The answer of the manager to a query, with the flood it starts on a miss. -/
theorem queryFabricManager_eq (switch : PortlandSwitchNetDevice δ)
    (manager : FabricManager ι) (surroundings : Surroundings ι)
    (dstIp srcIp : Ipv4Address) (srcPmac : Mac48Address) :
    switch.queryFabricManager manager surroundings dstIp srcIp srcPmac =
      if switch.hasFabricManager then
        if manager.isIPRegistered dstIp then .ok (manager.getPMACforIP dstIp, manager, [])
        else .ok (.getBroadcast, manager, manager.floodARPRequest surroundings.deviceType
          { destIPAddress := dstIp, srcIPAddress := srcIp, srcPMACAddress := srcPmac }
          surroundings.self)
      else .error .noResponse := by
  rw [queryFabricManager, sendBufferToFabricManager]
  cases switch.hasFabricManager with
  | false => rfl
  | true =>
      cases registered : manager.isIPRegistered dstIp <;>
        simp [FabricManager.receiveFromSwitch, FabricManager.arpRequestHandler,
          registered]

/-! ## Source and destination PMAC -/

/-- The PMAC that `GetSourcePMAC` answers with. -/
def sourcePmac (switch : PortlandSwitchNetDevice δ) (metadata : SwitchPacketMetadata)
    (inPort : UInt8) : Mac48Address :=
  match switch.newEntry metadata inPort with
  | some entry => entry.pmac
  | none =>
      if inPort.toNat < switch.lowerPorts.length then
        switch.table.findPMACOfAmac metadata.srcAmac
      else .getBroadcast

/-- The PMAC that the local table or else the manager knows for an IP. -/
def resolve (switch : PortlandSwitchNetDevice δ) (manager : FabricManager ι)
    (ip : Ipv4Address) : Option Mac48Address :=
  if switch.table.findPortOfIp ip ≠ -1 then some (switch.table.findPMACOfIp ip)
  else if manager.isIPRegistered ip then some (manager.getPMACforIP ip)
  else none

section FirstFrame

variable {switch : PortlandSwitchNetDevice δ} {manager : FabricManager ι}
  {metadata : SwitchPacketMetadata} {inPort : UInt8}

/-- The first frame of a host is registered. -/
theorem newEntry_of_empty (empty : switch.table.mapping = ∅)
    (inRange : inPort.toNat < switch.lowerPorts.length) :
    switch.newEntry metadata inPort = some
      { pmac := switch.assignedPmac inPort, amac := metadata.srcAmac,
        ipAddress := metadata.srcIp, port := inPort } := by
  apply if_pos
  constructor
  · exact inRange
  · rw [PMACTable.findPortOfIp_eq_neg_one_iff]
    intro held
    rcases held with ⟨pmac, entry, stored, -⟩
    simp [empty] at stored

theorem sourcePmac_of_empty (empty : switch.table.mapping = ∅)
    (inRange : inPort.toNat < switch.lowerPorts.length) :
    switch.sourcePmac metadata inPort = switch.assignedPmac inPort := by
  rw [sourcePmac, newEntry_of_empty empty inRange]

omit [DecidableEq ι] in
/-- Its destination is looked up with the manager. -/
theorem resolve_of_registered (empty : switch.table.mapping = ∅)
    (inRange : inPort.toNat < switch.lowerPorts.length)
    (apart : metadata.srcIp ≠ metadata.dstIp) {pmac : Mac48Address}
    (registered : manager.ipPMACTable[metadata.dstIp]? = some pmac) :
    (switch.learn (switch.newEntry metadata inPort)).resolve
      (manager.learn (switch.newEntry metadata inPort)) metadata.dstIp = some pmac := by
  have registers : switch.newEntry metadata inPort = some _ :=
    newEntry_of_empty empty inRange
  have notLocal : (switch.learn (switch.newEntry metadata inPort)).table.findPortOfIp
      metadata.dstIp = -1 := by
    rw [PMACTable.findPortOfIp_eq_neg_one_iff, registers]
    intro held
    rcases held with ⟨key, entry, stored, ip⟩
    simp only [learn, Option.elim_some, PMACTable.getElem?_record] at stored
    split at stored
    · cases stored
      exact apart ip
    · simp [empty] at stored
  have kept :
      (manager.learn (switch.newEntry metadata inPort)).ipPMACTable[metadata.dstIp]? =
      some pmac := by
    rw [registers]
    apply (manager.getElem?_addPMACToTable _ _ _).trans
    rw [if_neg apart]
    exact registered
  rw [resolve]
  rw [if_neg (not_not_intro notLocal), FabricManager.isIPRegistered_of_getElem? kept,
    if_pos rfl, FabricManager.getPMACforIP_of_getElem? kept]

end FirstFrame

/-- The switches that the manager tells to flood, with what it tells them. -/
def floodFor (manager : FabricManager ι) (surroundings : Surroundings ι)
    (metadata : SwitchPacketMetadata) (srcPmac : Mac48Address) : List (ι × BufferData) :=
  manager.floodARPRequest surroundings.deviceType
    { destIPAddress := metadata.dstIp, srcIPAddress := metadata.srcIp,
      srcPMACAddress := srcPmac } surroundings.self

theorem getSourcePMAC_eq (switch : PortlandSwitchNetDevice δ) (manager : FabricManager ι)
    (surroundings : Surroundings ι) (metadata : SwitchPacketMetadata) (inPort : UInt8) :
    switch.getSourcePMAC manager surroundings metadata inPort false =
      if (switch.newEntry metadata inPort).isSome ∧ switch.hasFabricManager = false then
        .error .noResponse
      else .ok (switch.sourcePmac metadata inPort,
        switch.learn (switch.newEntry metadata inPort),
        manager.learn (switch.newEntry metadata inPort)) := by
  rw [getSourcePMAC, sourcePmac, newEntry]
  by_cases inRange : inPort.toNat < switch.lowerPorts.length
  · by_cases unknown : switch.table.findPortOfIp metadata.srcIp = -1
    · cases connected : switch.hasFabricManager <;>
        simp [inRange, unknown, connected, bind, Except.bind, learn, FabricManager.learn,
          PMACTable.record, pure, Except.pure]
    · simp [inRange, unknown, learn, FabricManager.learn]
  · simp [inRange, learn, FabricManager.learn]

theorem getDestinationPMAC_eq (switch : PortlandSwitchNetDevice δ)
    (manager : FabricManager ι) (surroundings : Surroundings ι)
    (metadata : SwitchPacketMetadata) (srcPmac : Mac48Address) :
    switch.getDestinationPMAC manager surroundings metadata.dstIp metadata.srcIp srcPmac =
      if switch.table.findPortOfIp metadata.dstIp = -1 ∧
        switch.hasFabricManager = false then
        .error .noResponse
      else
        match switch.resolve manager metadata.dstIp with
        | some dstPmac => .ok (dstPmac, manager, [])
        | none => .ok (.getBroadcast, manager,
            floodFor manager surroundings metadata srcPmac) := by
  rw [getDestinationPMAC, resolve]
  rw [queryFabricManager_eq]
  by_cases known : switch.table.findPortOfIp metadata.dstIp = -1
  · cases connected : switch.hasFabricManager <;>
      cases registered : manager.isIPRegistered metadata.dstIp <;>
        simp [known, floodFor]
  · simp [known]

/-! ## The three ways of an ingress frame -/

/-- The frame that the ingress edge makes of one from a host. -/
def ingressFrame (metadata : SwitchPacketMetadata) (srcPmac dstPmac : Mac48Address)
    (packet : Packet) : Frame where
  packet := rewrittenPacket { metadata with srcPmac, dstPmac } packet
  src := srcPmac
  dst := dstPmac
  protocol := metadata.protocolNumber

/-- What an edge switch does with a frame from a host: it learns at most one
entry, and then drops the frame, or drops it and has it flooded for, or sends it
on an upper port. -/
theorem receiveAtEdgeFromLower_cases {switch : PortlandSwitchNetDevice δ}
    {manager : FabricManager ι} {surroundings : Surroundings ι}
    {metadata : SwitchPacketMetadata} {packet : Packet} {inPort : UInt8}
    {outcome : Outcome δ ι}
    (received : switch.receiveAtEdgeFromLower manager surroundings metadata packet
      inPort = .ok outcome) :
    let learned := switch.learn (switch.newEntry metadata inPort)
    let informed := manager.learn (switch.newEntry metadata inPort)
    let srcPmac := switch.sourcePmac metadata inPort
    outcome.switch = learned ∧ outcome.fabricManager = informed ∧
      ((outcome.actions = [] ∧ outcome.toSwitches = [] ∧
          (srcPmac = .getBroadcast ∨
            learned.resolve informed metadata.dstIp = some .getBroadcast)) ∨
        (srcPmac ≠ .getBroadcast ∧ learned.resolve informed metadata.dstIp = none ∧
          outcome.actions = [] ∧
          outcome.toSwitches = floodFor informed surroundings metadata srcPmac) ∨
        ∃ dstPmac outPort,
          srcPmac ≠ .getBroadcast ∧ dstPmac ≠ .getBroadcast ∧
          learned.resolve informed metadata.dstIp = some dstPmac ∧
          learned.getOutputPort surroundings.rand dstPmac = .ok outPort ∧
          outcome.toSwitches = [] ∧
          outcome.actions = switch.config.transmit true (toUInt8 outPort)
            (ingressFrame metadata srcPmac dstPmac packet) (surroundings.isSent 0)) := by
  intro learned informed srcPmac
  rcases bind_eq_ok.mp received with ⟨⟨answer, afterSource, managerAfter⟩, source, rest⟩
  rw [getSourcePMAC_eq] at source
  split at source
  · cases source
  cases source
  by_cases noSource : srcPmac = .getBroadcast
  · simp only [srcPmac, noSource, if_true] at rest
    cases rest
    exact ⟨rfl, rfl, .inl ⟨rfl, rfl, .inl noSource⟩⟩
  simp only [srcPmac] at noSource
  simp only [noSource, if_false] at rest
  rcases bind_eq_ok.mp rest with ⟨⟨dstPmac, managerThen, toSwitches⟩, destination, rest⟩
  rw [getDestinationPMAC_eq] at destination
  split at destination
  · cases destination
  cases resolved : learned.resolve informed metadata.dstIp with
  | none =>
      simp only [learned, informed] at resolved
      rw [resolved] at destination
      cases destination
      simp only [if_true] at rest
      cases rest
      exact ⟨rfl, rfl, .inr (.inl ⟨noSource, rfl, rfl, rfl⟩)⟩
  | some known =>
      simp only [learned, informed] at resolved
      rw [resolved] at destination
      cases destination
      by_cases noDestination : dstPmac = .getBroadcast
      · simp only [noDestination, if_true] at rest
        cases rest
        exact ⟨rfl, rfl, .inl ⟨rfl, rfl, .inr (congrArg some noDestination)⟩⟩
      simp only [noDestination, if_false] at rest
      rcases bind_eq_ok.mp rest with ⟨outPort, output, rest⟩
      split at rest
      · next negative =>
          rcases exists_nat_of_getOutputPort output with ⟨number, rfl⟩
          omega
      · cases rest
        refine ⟨rfl, rfl,
          .inr (.inr ⟨dstPmac, outPort, noSource, noDestination, rfl, output, rfl, ?_⟩)⟩
        rw [outputPacket_actions, config_learn]
        rfl

/-- An edge switch that knows both ends of a frame sends it on an upper port. -/
theorem receiveAtEdgeFromLower_of_resolved {switch : PortlandSwitchNetDevice δ}
    {manager : FabricManager ι} {surroundings : Surroundings ι}
    {metadata : SwitchPacketMetadata} {packet : Packet} {inPort : UInt8}
    {dstPmac : Mac48Address} {outPort : Int}
    (connected : switch.hasFabricManager = true)
    (source : switch.sourcePmac metadata inPort ≠ .getBroadcast)
    (resolved : (switch.learn (switch.newEntry metadata inPort)).resolve
      (manager.learn (switch.newEntry metadata inPort)) metadata.dstIp = some dstPmac)
    (destination : dstPmac ≠ .getBroadcast)
    (output : (switch.learn (switch.newEntry metadata inPort)).getOutputPort
      surroundings.rand dstPmac = .ok outPort)
    (nonneg : 0 ≤ outPort) :
    switch.receiveAtEdgeFromLower manager surroundings metadata packet inPort = .ok
      { switch := switch.learn (switch.newEntry metadata inPort)
        fabricManager := manager.learn (switch.newEntry metadata inPort)
        actions := switch.config.transmit true (toUInt8 outPort)
          (ingressFrame metadata (switch.sourcePmac metadata inPort) dstPmac packet)
          (surroundings.isSent 0) } := by
  have stillConnected :
      (switch.learn (switch.newEntry metadata inPort)).hasFabricManager = true := by
    rw [← connected]
    exact congrArg SwitchConfig.hasFabricManager (config_learn switch _)
  have notNegative : ¬ outPort < 0 := by omega
  simp [receiveAtEdgeFromLower, getSourcePMAC_eq, getDestinationPMAC_eq, connected,
    stillConnected, source, resolved, destination, output, notNegative,
    outputPacket_actions, ingressFrame, bind, Except.bind, pure, Except.pure]

/-- An edge switch that does not know the destination drops the frame and has
the manager flood for it. -/
theorem receiveAtEdgeFromLower_of_miss {switch : PortlandSwitchNetDevice δ}
    {manager : FabricManager ι} {surroundings : Surroundings ι}
    {metadata : SwitchPacketMetadata} {packet : Packet} {inPort : UInt8}
    (connected : switch.hasFabricManager = true)
    (source : switch.sourcePmac metadata inPort ≠ .getBroadcast)
    (missing : (switch.learn (switch.newEntry metadata inPort)).resolve
      (manager.learn (switch.newEntry metadata inPort)) metadata.dstIp = none) :
    switch.receiveAtEdgeFromLower manager surroundings metadata packet inPort = .ok
      { switch := switch.learn (switch.newEntry metadata inPort)
        fabricManager := manager.learn (switch.newEntry metadata inPort)
        toSwitches := floodFor (manager.learn (switch.newEntry metadata inPort))
          surroundings metadata (switch.sourcePmac metadata inPort) } := by
  have stillConnected :
      (switch.learn (switch.newEntry metadata inPort)).hasFabricManager = true := by
    rw [← connected]
    exact congrArg SwitchConfig.hasFabricManager (config_learn switch _)
  simp [receiveAtEdgeFromLower, getSourcePMAC_eq, getDestinationPMAC_eq, connected,
    stillConnected, source, missing, bind, Except.bind, pure, Except.pure]

/-- An edge switch with a manager always knows what to do. -/
theorem exists_receiveAtEdgeFromLower {switch : PortlandSwitchNetDevice δ}
    (connected : switch.hasFabricManager = true) (manager : FabricManager ι)
    (surroundings : Surroundings ι)
    (ports : ∀ dst, ∃ outPort, switch.getOutputPort surroundings.rand dst = .ok outPort)
    (metadata : SwitchPacketMetadata) (packet : Packet) (inPort : UInt8) :
    ∃ outcome, switch.receiveAtEdgeFromLower manager surroundings metadata packet inPort =
      .ok outcome := by
  have stillConnected :
      (switch.learn (switch.newEntry metadata inPort)).hasFabricManager = true := by
    rw [← connected]
    exact congrArg SwitchConfig.hasFabricManager (config_learn switch _)
  rw [receiveAtEdgeFromLower]
  rw [getSourcePMAC_eq]
  by_cases source : switch.sourcePmac metadata inPort = .getBroadcast
  · simp [connected, source, bind, Except.bind, pure, Except.pure]
  · cases resolved : (switch.learn (switch.newEntry metadata inPort)).resolve
        (manager.learn (switch.newEntry metadata inPort)) metadata.dstIp with
    | none =>
        simp [getDestinationPMAC_eq, connected, stillConnected, source, resolved, bind,
          Except.bind, pure, Except.pure]
    | some dstPmac =>
        rcases ports dstPmac with ⟨outPort, output⟩
        by_cases destination : dstPmac = .getBroadcast
        · simp [getDestinationPMAC_eq, connected, stillConnected, source, resolved,
            destination, bind, Except.bind, pure, Except.pure]
        · by_cases negative : outPort < 0 <;>
            simp [getDestinationPMAC_eq, connected, stillConnected, source, resolved,
              destination, output, negative, bind, Except.bind, pure, Except.pure]

/-! ## The whole reception -/

theorem receiveParsed_effect {switch : PortlandSwitchNetDevice δ}
    {manager : FabricManager ι}
    {surroundings : Surroundings ι} {metadata : SwitchPacketMetadata} {packet : Packet}
    {inPort : UInt8} {fromUpper : Bool} {outcome : Outcome δ ι}
    (received : switch.receiveParsed manager surroundings metadata packet inPort
      fromUpper = .ok outcome) :
    let entry := if fromUpper = false ∧ switch.deviceType = .edge then
      switch.newEntry metadata inPort else none
    outcome.switch = switch.learn entry ∧
      outcome.fabricManager = manager.learn entry := by
  have forwards (isUpper : Bool)
      (forwarded : switch.forward manager surroundings metadata packet isUpper =
        .ok outcome) :
      outcome.switch = switch ∧ outcome.fabricManager = manager := by
    rw [forward_eq] at forwarded
    rcases bind_eq_ok.mp forwarded with ⟨outPort, -, rest⟩
    cases rest
    exact ⟨rfl, rfl⟩
  unfold receiveParsed at received
  cases fromUpper <;> cases layer : switch.deviceType <;> simp only [layer]
    at received <;>
    simp only [reduceCtorEq, and_self, and_false, false_and, if_true, if_false]
  · exact ⟨(receiveAtEdgeFromLower_cases received).1,
      (receiveAtEdgeFromLower_cases received).2.1⟩
  · exact forwards true received
  · exact forwards false received
  · by_cases broadcast : metadata.dstPmac = .getBroadcast
    · rw [receiveAtEdgeFromUpper_broadcast broadcast] at received
      cases received
      exact ⟨rfl, rfl⟩
    · rw [receiveAtEdgeFromUpper_eq broadcast] at received
      dsimp only at received
      split at received
      · cases received
        exact ⟨rfl, rfl⟩
      · rcases bind_eq_ok.mp received with ⟨outPort, -, rest⟩
        cases rest
        exact ⟨rfl, rfl⟩
  · exact forwards false received
  · cases received
    exact ⟨rfl, rfl⟩

section WholeReception

variable [DecidableEq δ]

/-- The frame goes through the forwarding pipeline: no port device and no
address of the switch claims it. -/
def Passes (switch : PortlandSwitchNetDevice δ) (frame : Frame)
    (packetType : PacketType) : Prop :=
  packetType ≠ .host ∧ ¬ (packetType = .otherhost ∧ frame.dst = switch.address)

instance (switch : PortlandSwitchNetDevice δ) (frame : Frame) (packetType : PacketType) :
    Decidable (switch.Passes frame packetType) :=
  inferInstanceAs (Decidable (_ ∧ _))

/-- The hand-over of a frame to the switch's own node. -/
def toNode (frame : Frame) : Action δ := .rxCallback frame.packet frame.protocol frame.src

theorem receiveFromDevice_eq {switch : PortlandSwitchNetDevice δ}
    {netdev : δ} {fromUpper : Bool} {inPort : UInt8}
    (found : switch.findInPort netdev = some (fromUpper, inPort))
    (manager : FabricManager ι) (surroundings : Surroundings ι) (frame : Frame)
    (packetType : PacketType) :
    switch.receiveFromDevice manager surroundings netdev frame packetType =
      if switch.Passes frame packetType then do
        let outcome ← (switch.withReceived netdev frame.packet).receiveParsed manager
          surroundings
          (metadataFromPacket surroundings.unset frame.packet frame.src frame.dst
            frame.protocol)
          frame.packet inPort fromUpper
        return { outcome with actions :=
          (if packetType = .otherhost then [toNode frame] else []) ++ outcome.actions }
      else .ok
        { switch := switch.withReceived netdev frame.packet
          fabricManager := manager
          actions := if frame.dst = switch.address then [toNode frame] else [] } := by
  have sameAddress :
      (switch.withReceived netdev frame.packet).address = switch.address := rfl
  rw [receiveFromDevice]
  rw [found]
  simp only [sameAddress, Passes, toNode]
  cases packetType <;> by_cases own : frame.dst = switch.address <;> simp [own]

@[simp] theorem config_withReceived (switch : PortlandSwitchNetDevice δ) (netdev : δ)
    (packet : Packet) : (switch.withReceived netdev packet).config = switch.config := by
  have sameDevice (port : Port δ) :
      (countReceived netdev packet port).netdev = port.netdev := by
    rw [countReceived]
    split <;> rfl
  simp [config, withReceived, Function.comp_def, sameDevice]

@[simp] theorem table_withReceived (switch : PortlandSwitchNetDevice δ) (netdev : δ)
    (packet : Packet) : (switch.withReceived netdev packet).table = switch.table := rfl

@[simp] theorem getOutputPort_withReceived (switch : PortlandSwitchNetDevice δ)
    (netdev : δ) (packet : Packet) (rand : Nat) (dstPmac : Mac48Address) :
    (switch.withReceived netdev packet).getOutputPort rand dstPmac =
      switch.getOutputPort rand dstPmac := by
  simp [getOutputPort, withReceived]

@[simp] theorem newEntry_withReceived (switch : PortlandSwitchNetDevice δ) (netdev : δ)
    (packet : Packet) (metadata : SwitchPacketMetadata) (inPort : UInt8) :
    (switch.withReceived netdev packet).newEntry metadata inPort =
      switch.newEntry metadata inPort := by
  simp [newEntry, withReceived, assignedPmac]

@[simp] theorem sourcePmac_withReceived (switch : PortlandSwitchNetDevice δ) (netdev : δ)
    (packet : Packet) (metadata : SwitchPacketMetadata) (inPort : UInt8) :
    (switch.withReceived netdev packet).sourcePmac metadata inPort =
      switch.sourcePmac metadata inPort := by
  simp [sourcePmac, withReceived, newEntry, assignedPmac]

theorem learn_withReceived (switch : PortlandSwitchNetDevice δ) (netdev : δ)
    (packet : Packet) (entry : Option PMACEntry) :
    (switch.withReceived netdev packet).learn entry =
      (switch.learn entry).withReceived netdev packet := by
  cases entry <;> rfl

omit [DecidableEq ι] in
@[simp] theorem resolve_withReceived (switch : PortlandSwitchNetDevice δ) (netdev : δ)
    (packet : Packet) (manager : FabricManager ι) (ip : Ipv4Address) :
    (switch.withReceived netdev packet).resolve manager ip =
      switch.resolve manager ip := rfl

/-- The entry that a reception registers. -/
def registration (switch : PortlandSwitchNetDevice δ) (unset : Bool) (netdev : δ)
    (frame : Frame) (packetType : PacketType) : Option PMACEntry :=
  match switch.findInPort netdev with
  | some (false, inPort) =>
      if switch.deviceType = .edge ∧ switch.Passes frame packetType then
        switch.newEntry
          (metadataFromPacket unset frame.packet frame.src frame.dst frame.protocol)
          inPort
      else none
  | _ => none

/-- A reception changes the two tables by one registration at most, and nothing
else of the switch but its receive counters. -/
theorem receiveFromDevice_effect {switch : PortlandSwitchNetDevice δ}
    {manager : FabricManager ι} {surroundings : Surroundings ι} {netdev : δ}
    {frame : Frame} {packetType : PacketType} {outcome : Outcome δ ι}
    (received : switch.receiveFromDevice manager surroundings netdev frame packetType =
      .ok outcome) :
    let entry := switch.registration surroundings.unset netdev frame packetType
    outcome.switch = (switch.withReceived netdev frame.packet).learn entry ∧
      outcome.fabricManager = manager.learn entry := by
  intro entry
  cases found : switch.findInPort netdev with
  | none => simp [receiveFromDevice, found] at received
  | some ingress =>
      rcases ingress with ⟨fromUpper, inPort⟩
      rw [receiveFromDevice_eq found] at received
      split at received
      · next passes =>
          rcases bind_eq_ok.mp received with ⟨inner, parsed, rest⟩
          cases rest
          have effect := receiveParsed_effect parsed
          have sameType : (switch.withReceived netdev frame.packet).deviceType =
              switch.deviceType := rfl
          simp only [newEntry_withReceived, sameType] at effect
          cases fromUpper <;>
            simpa [entry, registration, found, passes] using effect
      · next stopped =>
          cases received
          have noEntry : entry = none := by
            cases fromUpper <;> simp [entry, registration, found, stopped]
          rw [noEntry]
          exact ⟨rfl, rfl⟩

end WholeReception

end PortlandSwitchNetDevice

end DataCenter.Portland
