import DataCenter.Portland.Network

/-! # Where a frame goes next

For each place where a frame can arrive, the frames that the switch there sends
on. -/

namespace DataCenter.Portland

open Courier PortlandSwitchNetDevice

variable {k : Nat}

/-- What a switch of the network finds outside itself. -/
def surroundingsAt (fabric : Fabric (SwitchId k) (Device k)) (id : SwitchId k)
    (draw : Draw) :
    Surroundings (SwitchId k) where
  self := id
  deviceType other := (fabric.switches other).deviceType
  rand := draw.rand
  isSent _ := true
  unset := draw.unset

@[simp] theorem surroundingsAt_rand (fabric : Fabric (SwitchId k) (Device k))
    (id : SwitchId k)
    (draw : Draw) : (surroundingsAt fabric id draw).rand = draw.rand := rfl

@[simp] theorem surroundingsAt_isSent (fabric : Fabric (SwitchId k) (Device k))
    (id : SwitchId k)
    (draw : Draw) : (surroundingsAt fabric id draw).isSent = fun _ => true := rfl

/-- A fabric after a frame was counted at a port and an entry was or was not
registered for it. -/
def Fabric.registered (fabric : Fabric (SwitchId k) (Device k)) (id : SwitchId k)
    (device : Device k) (packet : Packet) (entry : Option PMACEntry) :
    Fabric (SwitchId k) (Device k) where
  switches := Function.update fabric.switches id
    (((fabric.switches id).withReceived device packet).learn entry)
  manager := fabric.manager.learn entry

/-- A fabric after a frame was counted at a port. -/
def Fabric.counted (fabric : Fabric (SwitchId k) (Device k)) (id : SwitchId k)
    (device : Device k) (packet : Packet) : Fabric (SwitchId k) (Device k) :=
  fabric.registered id device packet none

/-- The frames that a switch puts on its links. -/
def transmissions (actions : List (Action (Device k))) : List (Message k) :=
  actions.filterMap transmission

@[simp] theorem transmissions_nil :
    transmissions ([] : List (Action (Device k))) = [] := rfl

theorem transmissions_flatMap {α : Type} (items : List α)
    (actions : α → List (Action (Device k))) :
    transmissions (items.flatMap actions) =
      items.flatMap fun item => transmissions (actions item) :=
  List.filterMap_flatMap

/-- A frame that is transmitted arrives at the peer of its port device. -/
theorem transmissions_transmit (config : SwitchConfig (Device k)) (isUpper : Bool)
    (outPort : UInt8) (frame : Frame) :
    transmissions (config.transmit isUpper outPort frame true) =
      (config.port isUpper outPort).toList.map fun netdev => (netdev.peer, frame) := by
  rw [SwitchConfig.transmit]
  cases config.port isUpper outPort <;> rfl

/-- A reception in the network: first the switch, then the floods. -/
theorem receive_arrivalAt (getAddress : Device k → Mac48Address)
    (fabric : Fabric (SwitchId k) (Device k)) (id : SwitchId k) (device : Device k)
    (frame : Frame) (draw : Draw) :
    fabric.receive (arrivalAt getAddress id (device, frame) draw) = do
      let outcome ← (fabric.switches id).receiveFromDevice fabric.manager
        (surroundingsAt fabric id draw) device frame
          (classify (getAddress device) frame.dst)
      return ({ switches := Function.update fabric.switches id outcome.switch
                manager := outcome.fabricManager },
        outcome.actions.map (fun action => (id, action)) ++
        outcome.toSwitches.flatMap fun told =>
          ((Function.update fabric.switches id outcome.switch
            told.1).receiveBufferFromFabricManager (fun _ => true) told.2).map
            fun action => (told.1, action)) := rfl

section Handling

variable {getAddress : Device k → Mac48Address} {fabric : Fabric (SwitchId k) (Device k)}
  {device : Device k} {frame : Frame} {draw : Draw}

theorem handle_host {host : Host k} (node : device.node = .host host) :
    handle getAddress fabric (device, frame) draw =
      some { system := fabric, deliveries := [(host, frame)] } := by
  simp [handle, node]

/-- A frame that reaches a host is delivered there and goes no further. -/
theorem makes_at_host {next : Fabric (SwitchId k) (Device k)}
    {visit : Visit (Message k) Draw (Delivery k)}
    (makes : Makes (handle getAddress) fabric visit next)
    (noPort : visit.parcel.content.1.port = none) :
    ∃ host : Host k, visit.parcel.content.1 = host.device ∧ next = fabric ∧
      visit.outputs = [] ∧
      visit.deliveries = [(host, visit.parcel.content.2)] := by
  rcases Device.exists_host_of_port noPort with ⟨host, atHost⟩
  have node : visit.parcel.content.1.node = .host host := by
    rw [atHost]
    rfl
  have handled : handle getAddress fabric visit.parcel.content visit.choice = some _ :=
    handle_host node
  have same := handled.symm.trans makes
  simp only [Option.some.injEq, Handling.mk.injEq] at same
  exact ⟨host, atHost, same.1.symm, same.2.1.symm, same.2.2.symm⟩

variable {id : SwitchId k} {fromUpper : Bool} {index : Nat}

/-- The frame at a port goes through the pipeline of its switch. -/
def PassesAt (getAddress : Device k → Mac48Address)
    (fabric : Fabric (SwitchId k) (Device k))
    (id : SwitchId k) (device : Device k) (frame : Frame) : Prop :=
  (fabric.switches id).Passes frame (classify (getAddress device) frame.dst)

/-- What the pipeline of a switch makes of a frame. -/
def parsedAt (fabric : Fabric (SwitchId k) (Device k)) (id : SwitchId k)
    (device : Device k) (frame : Frame) (draw : Draw) (index : Nat) (fromUpper : Bool) :
    Except Fault (Outcome (Device k) (SwitchId k)) :=
  ((fabric.switches id).withReceived device frame.packet).receiveParsed fabric.manager
    (surroundingsAt fabric id draw)
    (frame.metadata draw.unset) frame.packet
    (UInt8.ofNat index) fromUpper

/-- The network after an outcome, with the frames of the switch and of those
that the manager told to flood. -/
def handlingOf (fabric : Fabric (SwitchId k) (Device k)) (id : SwitchId k)
    (outcome : Outcome (Device k) (SwitchId k)) :
    Handling (Fabric (SwitchId k) (Device k)) (Message k) (Delivery k) where
  system :=
    { switches := Function.update fabric.switches id outcome.switch
      manager := outcome.fabricManager }
  outputs := transmissions outcome.actions ++ outcome.toSwitches.flatMap fun told =>
    transmissions <| (Function.update fabric.switches id outcome.switch
      told.1).receiveBufferFromFabricManager (fun _ => true) told.2

theorem handle_eq (wired : Wired getAddress fabric)
    (port : device.port = some (id, fromUpper, index))
    (passes : PassesAt getAddress fabric id device frame) :
    handle getAddress fabric (device, frame) draw =
      (parsedAt fabric id device frame draw index fromUpper).toOption.map
        (handlingOf fabric id) := by
  have found := wired.findInPort_eq port
  have switchReceives : (fabric.switches id).receiveFromDevice fabric.manager
      (surroundingsAt fabric id draw) device frame
        (classify (getAddress device) frame.dst) = do
        let outcome ← parsedAt fabric id device frame draw index fromUpper
        return { outcome with actions :=
          (if classify (getAddress device) frame.dst = .otherhost then [toNode frame]
            else []) ++ outcome.actions } := by
    rw [receiveFromDevice_eq found]
    exact if_pos passes
  rw [handle]
  simp only [Device.node_of_port port, receive_arrivalAt, switchReceives]
  cases parsedAt fabric id device frame draw index fromUpper with
  | error fault => rfl
  | ok outcome =>
      have noneToNode : List.filterMap (transmission (k := k))
          (if classify (getAddress device) frame.dst = .otherhost then [toNode frame]
            else []) = [] := by
        split <;> rfl
      simp [bind, Except.bind, pure, Except.pure, Except.toOption, handlingOf,
        transmissions, List.filterMap_append, List.filterMap_map, List.filterMap_flatMap,
        noneToNode]

/-- A frame that a port device or the switch claims goes no further. -/
theorem handle_of_stopped (wired : Wired getAddress fabric)
    (port : device.port = some (id, fromUpper, index))
    (stopped : ¬ PassesAt getAddress fabric id device frame) :
    handle getAddress fabric (device, frame) draw =
      some { system := fabric.counted id device frame.packet } := by
  have switchReceives : (fabric.switches id).receiveFromDevice fabric.manager
      (surroundingsAt fabric id draw) device frame
        (classify (getAddress device) frame.dst) =
        .ok { switch := (fabric.switches id).withReceived device frame.packet
              fabricManager := fabric.manager
              actions := if frame.dst = (fabric.switches id).address then [toNode frame]
                else [] } := by
    rw [receiveFromDevice_eq (wired.findInPort_eq port)]
    exact if_neg stopped
  rw [handle]
  simp only [Device.node_of_port port, receive_arrivalAt, switchReceives]
  by_cases own : frame.dst = (fabric.switches id).address <;>
    simp [own, bind, Except.bind, pure, Except.pure, transmission, toNode] <;> rfl

/-- The frames on the link behind one port. -/
def onPort (id : SwitchId k) (isUpper : Bool) (outPort : UInt8) (frame : Frame) :
    List (Message k) :=
  ((id.side isUpper)[outPort.toNat]?).toList.map fun netdev => (netdev.peer, frame)

/-- An aggregation switch passes a frame to its other side, a core switch passes
it down: on the port that `GetOutputPort` computes, without a change. -/
theorem handle_forward (wired : Wired getAddress fabric)
    (port : device.port = some (id, fromUpper, index))
    (passes : PassesAt getAddress fabric id device frame) {toUpper : Bool}
    (layer : (id.deviceType = .aggregation ∧ toUpper = !fromUpper) ∨
      (id.deviceType = .core ∧ fromUpper = false ∧ toUpper = false)) {outPort : Int}
    (output : (fabric.switches id).getOutputPort draw.rand frame.dst = .ok outPort) :
    handle getAddress fabric (device, frame) draw =
      some { system := fabric.counted id device frame.packet
             outputs := onPort id toUpper (toUInt8 outPort) frame } := by
  have sameType : ((fabric.switches id).withReceived device frame.packet).deviceType =
      id.deviceType := wired.deviceType id
  have forwards : parsedAt fabric id device frame draw index fromUpper =
      ((fabric.switches id).withReceived device frame.packet).forward fabric.manager
        (surroundingsAt fabric id draw) (frame.metadata draw.unset) frame.packet
        toUpper := by
    unfold parsedAt receiveParsed
    rcases layer with ⟨aggregation, rfl⟩ | ⟨core, rfl, rfl⟩
    · rw [sameType, aggregation]
      cases fromUpper <;> rfl
    · rw [sameType, core]
  rw [handle_eq wired port passes, forwards, forward_eq]
  simp only [metadataFromPacket_dstPmac, getOutputPort_withReceived, surroundingsAt_rand,
    output, bind, Except.bind, pure, Except.pure, Except.toOption, Option.map_some,
    handlingOf, outputPacket_actions, config_withReceived, metadataFromPacket_srcAmac,
    metadataFromPacket_protocolNumber]
  rw [surroundingsAt_isSent, transmissions_transmit, wired.port_eq]
  simp [onPort, Fabric.counted, Fabric.registered, learn, FabricManager.learn]

/-! ## The egress edge -/

/-- The pipeline of an edge switch for a frame from an upper port. -/
theorem parsedAt_egress (wired : Wired getAddress fabric)
    (isEdge : id.deviceType = .edge) :
    parsedAt fabric id device frame draw index true =
      ((fabric.switches id).withReceived device frame.packet).receiveAtEdgeFromUpper
        fabric.manager (surroundingsAt fabric id draw) (frame.metadata draw.unset)
        frame.packet := by
  have sameType : ((fabric.switches id).withReceived device frame.packet).deviceType =
      id.deviceType := wired.deviceType id
  rw [parsedAt, receiveParsed]
  rw [sameType, isEdge]

theorem handle_egress (wired : Wired getAddress fabric)
    (port : device.port = some (id, true, index)) (isEdge : id.deviceType = .edge)
    (passes : PassesAt getAddress fabric id device frame)
    (unicast : frame.dst ≠ .getBroadcast)
    (known : (fabric.switches id).table.findAMACOfPmac frame.dst ≠ .getBroadcast)
    {outPort : Int}
    (output : (fabric.switches id).getOutputPort draw.rand frame.dst = .ok outPort) :
    handle getAddress fabric (device, frame) draw =
      some { system := fabric.counted id device frame.packet
             outputs := onPort id false (toUInt8 outPort)
               (egressFrame (frame.metadata draw.unset)
                 ((fabric.switches id).table.findAMACOfPmac frame.dst)
                 frame.packet) } := by
  have received :
      ((fabric.switches id).withReceived device frame.packet).receiveAtEdgeFromUpper
        fabric.manager (surroundingsAt fabric id draw) (frame.metadata draw.unset)
        frame.packet = .ok _ :=
    receiveAtEdgeFromUpper_of_known (by simpa using unicast) (by simpa using known)
      (by simpa using output) fabric.manager frame.packet
  rw [handle_eq wired port passes, parsedAt_egress wired isEdge, received]
  simp [Except.toOption, handlingOf, transmissions_transmit, wired.port_eq, onPort,
    Fabric.counted, Fabric.registered, learn, FabricManager.learn]

theorem handle_egress_unknown (wired : Wired getAddress fabric)
    (port : device.port = some (id, true, index)) (isEdge : id.deviceType = .edge)
    (passes : PassesAt getAddress fabric id device frame)
    (unicast : frame.dst ≠ .getBroadcast)
    (unknown : (fabric.switches id).table.findAMACOfPmac frame.dst = .getBroadcast) :
    handle getAddress fabric (device, frame) draw =
      some { system := fabric.counted id device frame.packet } := by
  rw [handle_eq wired port passes, parsedAt_egress wired isEdge,
    receiveAtEdgeFromUpper_eq (by simpa using unicast)]
  simp [unknown, Except.toOption, handlingOf, Fabric.counted, Fabric.registered, learn,
    FabricManager.learn]

/-- The broadcasts of an edge switch. -/
theorem handle_broadcast (wired : Wired getAddress fabric)
    (port : device.port = some (id, true, index)) (isEdge : id.deviceType = .edge)
    (passes : PassesAt getAddress fabric id device frame)
    (broadcast : frame.dst = .getBroadcast) :
    handle getAddress fabric (device, frame) draw =
      some { system := fabric.counted id device frame.packet
             outputs := transmissions <|
               ((fabric.switches id).withReceived device frame.packet).broadcastToLower
                 (fun _ => true) frame.packet
                 (frame.metadata draw.unset)
                 (List.range id.lower.length) } := by
  have ports : ((fabric.switches id).withReceived device frame.packet).lowerPorts.length =
      id.lower.length := by
    simp [withReceived, wired.length_lowerPorts]
  rw [handle_eq wired port passes, parsedAt_egress wired isEdge,
    receiveAtEdgeFromUpper_broadcast (by simpa using broadcast)]
  simp [Except.toOption, handlingOf, ports, Fabric.counted, Fabric.registered, learn,
    FabricManager.learn]

/-! ## The ingress edge -/

/-- The copies of a frame that the core switches flood. -/
def floodOutputs (switches : List (SwitchId k)) (frame : Frame) : List (Message k) :=
  (switches.filter fun id => id.deviceType = .core).flatMap fun id =>
    (List.range id.lower.length).flatMap fun i => onPort id false (UInt8.ofNat i) frame

theorem flood_eq (wired : Wired getAddress fabric) (isEdge : id.deviceType = .edge)
    {manager : FabricManager (SwitchId k)}
    (sameSwitches : manager.switches = fabric.manager.switches)
    (metadata : SwitchPacketMetadata) (srcPmac : Mac48Address)
    (switch : PortlandSwitchNetDevice (Device k)) :
    (floodFor manager (surroundingsAt fabric id draw) metadata srcPmac).flatMap
      (fun told =>
        transmissions <| (Function.update fabric.switches id switch
          told.1).receiveBufferFromFabricManager (fun _ => true) told.2) =
      floodOutputs fabric.manager.switches (floodFrame
        { destIPAddress := metadata.dstIp, srcIPAddress := metadata.srcIp,
          srcPMACAddress := srcPmac }) := by
  have sameFilter : (fabric.manager.switches.filter fun it =>
      (surroundingsAt fabric id draw).deviceType it = .core ∧
        it ≠ (surroundingsAt fabric id draw).self) =
      fabric.manager.switches.filter fun it => it.deviceType = .core := by
    apply List.filter_congr
    intro it _
    have type : (surroundingsAt fabric id draw).deviceType it = it.deviceType :=
      wired.deviceType it
    have self : (surroundingsAt fabric id draw).self = id := rfl
    rw [type, self, decide_eq_decide]
    constructor
    · exact And.left
    · intro isCore
      refine ⟨isCore, ?_⟩
      intro same
      subst same
      rw [isEdge] at isCore
      cases isCore
  rw [floodFor, FabricManager.floodARPRequest, floodOutputs]
  rw [sameSwitches, sameFilter, List.flatMap_map]
  apply List.flatMap_congr
  intro it member
  have isCore : it.deviceType = .core := by simpa using (List.mem_filter.mp member).2
  have different : it ≠ id := by
    intro same
    subst same
    rw [isEdge] at isCore
    cases isCore
  rw [Function.update_of_ne different,
    receiveBufferFromFabricManager_core ((wired.deviceType it).trans isCore),
    wired.length_lowerPorts]
  simp only [transmissions_flatMap, transmissions_transmit, wired.port_eq, onPort]

/-- The pipeline of an edge switch for a frame from a lower port. -/
theorem parsedAt_ingress (wired : Wired getAddress fabric)
    (isEdge : id.deviceType = .edge) :
    parsedAt fabric id device frame draw index false =
      ((fabric.switches id).withReceived device frame.packet).receiveAtEdgeFromLower
        fabric.manager (surroundingsAt fabric id draw) (frame.metadata draw.unset)
          frame.packet
        (UInt8.ofNat index) := by
  have sameType : ((fabric.switches id).withReceived device frame.packet).deviceType =
      id.deviceType := wired.deviceType id
  rw [parsedAt, receiveParsed]
  rw [sameType, isEdge]

/-- The three ways of a frame from a host at its edge switch: it is dropped, it
is flooded for, or it goes up to an aggregation switch. -/
theorem handle_ingress_cases (wired : Wired getAddress fabric)
    (port : device.port = some (id, false, index)) (isEdge : id.deviceType = .edge)
    (passes : PassesAt getAddress fabric id device frame)
    {handling : Handling (Fabric (SwitchId k) (Device k)) (Message k) (Delivery k)}
    (handled : handle getAddress fabric (device, frame) draw = some handling) :
    let metadata := frame.metadata draw.unset
    let entry := (fabric.switches id).newEntry metadata (UInt8.ofNat index)
    let learned := (fabric.switches id).learn entry
    let srcPmac := (fabric.switches id).sourcePmac metadata (UInt8.ofNat index)
    handling.system = fabric.registered id device frame.packet entry ∧
      handling.deliveries = [] ∧
      (handling.outputs = [] ∨
        (srcPmac ≠ .getBroadcast ∧
          learned.resolve (fabric.manager.learn entry) metadata.dstIp = none ∧
          handling.outputs = floodOutputs fabric.manager.switches (floodFrame
            { destIPAddress := metadata.dstIp, srcIPAddress := metadata.srcIp,
              srcPMACAddress := srcPmac })) ∨
        ∃ dstPmac outPort,
          srcPmac ≠ .getBroadcast ∧ dstPmac ≠ .getBroadcast ∧
          learned.resolve (fabric.manager.learn entry) metadata.dstIp = some dstPmac ∧
          learned.getOutputPort draw.rand dstPmac = .ok outPort ∧
          handling.outputs = onPort id true (toUInt8 outPort)
            (ingressFrame metadata srcPmac dstPmac frame.packet)) := by
  intro metadata entry learned srcPmac
  rw [handle_eq wired port passes, parsedAt_ingress wired isEdge] at handled
  cases parsed :
    ((fabric.switches id).withReceived device frame.packet).receiveAtEdgeFromLower
      fabric.manager (surroundingsAt fabric id draw) (frame.metadata draw.unset)
        frame.packet
      (UInt8.ofNat index) with
  | error fault => simp [parsed, Except.toOption] at handled
  | ok outcome =>
      have handlingIs : handling = handlingOf fabric id outcome := by
        simpa [parsed, Except.toOption, eq_comm] using handled
      subst handlingIs
      rcases receiveAtEdgeFromLower_cases parsed with ⟨switchIs, managerIs, ways⟩
      simp only [newEntry_withReceived, sourcePmac_withReceived, learn_withReceived,
        resolve_withReceived, getOutputPort_withReceived, config_withReceived,
        surroundingsAt_rand] at switchIs managerIs ways
      refine ⟨?_, rfl, ?_⟩
      · simp only [handlingOf, switchIs, managerIs, Fabric.registered, learn_withReceived,
          entry, metadata]
      · rcases ways with ⟨noActions, noFlood, -⟩ | ⟨source, missing, noActions, flood⟩ |
          ⟨dstPmac, outPort, source, destination, resolved, output, noFlood, sends⟩
        · apply Or.inl
          simp [handlingOf, noActions, noFlood]
        · refine .inr (.inl ⟨source, missing, ?_⟩)
          simp only [handlingOf, noActions, flood, transmissions_nil, List.nil_append]
          exact flood_eq wired isEdge (switches_learn _ _) _ _ _
        · refine .inr (.inr ⟨dstPmac, outPort, source, destination, resolved, output, ?_⟩)
          simp only [handlingOf, noFlood, sends, List.flatMap_nil, List.append_nil,
            surroundingsAt_isSent, transmissions_transmit, wired.port_eq]
          rfl

theorem handle_ingress_resolved (wired : Wired getAddress fabric)
    (port : device.port = some (id, false, index)) (isEdge : id.deviceType = .edge)
    (passes : PassesAt getAddress fabric id device frame) {dstPmac : Mac48Address}
    {outPort : Int} (source : (fabric.switches id).sourcePmac (frame.metadata draw.unset)
      (UInt8.ofNat index) ≠ .getBroadcast)
    (resolved : ((fabric.switches id).learn ((fabric.switches id).newEntry
        (frame.metadata draw.unset) (UInt8.ofNat index))).resolve
      (fabric.manager.learn ((fabric.switches id).newEntry (frame.metadata draw.unset)
        (UInt8.ofNat index))) (frame.metadata draw.unset).dstIp = some dstPmac)
    (destination : dstPmac ≠ .getBroadcast)
    (output : ((fabric.switches id).learn ((fabric.switches id).newEntry
      (frame.metadata draw.unset) (UInt8.ofNat index))).getOutputPort draw.rand dstPmac =
        .ok outPort)
    (nonneg : 0 ≤ outPort) :
    handle getAddress fabric (device, frame) draw =
      some { system := fabric.registered id device frame.packet
               ((fabric.switches id).newEntry
               (frame.metadata draw.unset) (UInt8.ofNat index))
             outputs := onPort id true (toUInt8 outPort)
               (ingressFrame (frame.metadata draw.unset) ((fabric.switches id).sourcePmac
                 (frame.metadata draw.unset) (UInt8.ofNat index)) dstPmac
                   frame.packet) } := by
  have received :
      ((fabric.switches id).withReceived device frame.packet).receiveAtEdgeFromLower
        fabric.manager (surroundingsAt fabric id draw) (frame.metadata draw.unset)
        frame.packet (UInt8.ofNat index) = .ok _ :=
    receiveAtEdgeFromLower_of_resolved (wired.connected id) (by simpa using source)
      (by simpa [learn_withReceived] using resolved) destination
      (by simpa [learn_withReceived] using output) nonneg
  rw [handle_eq wired port passes, parsedAt_ingress wired isEdge, received]
  simp [Except.toOption, handlingOf, transmissions_transmit, wired.port_eq, onPort,
    Fabric.registered]

theorem handle_ingress_missed (wired : Wired getAddress fabric)
    (port : device.port = some (id, false, index)) (isEdge : id.deviceType = .edge)
    (passes : PassesAt getAddress fabric id device frame)
    (source : (fabric.switches id).sourcePmac (frame.metadata draw.unset)
      (UInt8.ofNat index) ≠ .getBroadcast)
    (missing : ((fabric.switches id).learn ((fabric.switches id).newEntry
        (frame.metadata draw.unset) (UInt8.ofNat index))).resolve
      (fabric.manager.learn ((fabric.switches id).newEntry (frame.metadata draw.unset)
        (UInt8.ofNat index))) (frame.metadata draw.unset).dstIp = none) :
    handle getAddress fabric (device, frame) draw =
      some { system := fabric.registered id device frame.packet
               ((fabric.switches id).newEntry
               (frame.metadata draw.unset) (UInt8.ofNat index))
             outputs := floodOutputs fabric.manager.switches (floodFrame
               { destIPAddress := (frame.metadata draw.unset).dstIp
                 srcIPAddress := (frame.metadata draw.unset).srcIp
                 srcPMACAddress := (fabric.switches id).sourcePmac
                   (frame.metadata draw.unset) (UInt8.ofNat index) }) } := by
  have received :
      ((fabric.switches id).withReceived device frame.packet).receiveAtEdgeFromLower
        fabric.manager (surroundingsAt fabric id draw) (frame.metadata draw.unset)
        frame.packet (UInt8.ofNat index) = .ok _ :=
    receiveAtEdgeFromLower_of_miss (wired.connected id) (by simpa using source)
      (by simpa [learn_withReceived] using missing)
  rw [handle_eq wired port passes, parsedAt_ingress wired isEdge, received]
  simp only [Except.toOption, Option.map_some, handlingOf, transmissions_nil,
    List.nil_append, newEntry_withReceived, sourcePmac_withReceived, Fabric.registered]
  rw [flood_eq wired isEdge (switches_learn _ _)]

end Handling

end DataCenter.Portland
