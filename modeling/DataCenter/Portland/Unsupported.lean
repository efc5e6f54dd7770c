import DataCenter.Portland.EdgeIngress

/-! # Frames that are neither ARP nor IPv4

`MetadataFromPacket` warns of an unsupported protocol and then parses the frame as
ARP.  What it reads, or the default address where it can read nothing, goes through
the whole pipeline of an edge switch. -/

namespace DataCenter.Portland

open Courier PortlandSwitchNetDevice

variable {k : Nat}

/-- The protocol is not one of the two that a switch knows, or the frame is meant
to be ARP and cannot be read. -/
structure Frame.Unsupported (frame : Frame) : Prop where
  notIpv4 : frame.protocol ≠ ipv4Protocol
  notArp : frame.protocol ≠ arpProtocol ∨ frame.packet.peekArpHeader = none

/-- The source IP of a frame that is not IPv4: what an ARP header would have there,
or 102.102.102.102. -/
def Frame.misreadIp (frame : Frame) : Ipv4Address :=
  match frame.packet.peekArpHeader with
  | some header => header.ipv4Source
  | none => {}

theorem Frame.Unsupported.srcIp {frame : Frame} (unsupported : frame.Unsupported)
    (unset : Bool) :
    (frame.metadata unset).srcIp = frame.misreadIp := by
  rw [Frame.metadata, metadataFromPacket, Frame.misreadIp]
  simp only [unsupported.notIpv4, if_false]
  cases frame.packet.peekArpHeader <;> rfl

/-- The frame changes no table, and no switch sends anything on account of it. -/
def Harmless (getAddress : Device k → Mac48Address)
    (fabric : Fabric (SwitchId k) (Device k))
    (message : Message k) (draw : Draw) : Prop :=
  ∃ handling, handle getAddress fabric message draw = some handling ∧
    (∀ id, (handling.system.switches id).table = (fabric.switches id).table) ∧
    handling.system.manager.ipPMACTable = fabric.manager.ipPMACTable ∧
    handling.outputs = []

theorem table_counted (fabric : Fabric (SwitchId k) (Device k)) (id : SwitchId k)
    (device : Device k) (packet : Packet) (other : SwitchId k) :
    ((fabric.counted id device packet).switches other).table =
      (fabric.switches other).table := by
  rw [Fabric.counted, table_registered]
  split
  · next same => rw [same, table_learn_none]
  · rfl

/-! ## What an edge switch makes of a source -/

/-- A source has no address exactly if the table knows its IP but not its AMAC. -/
theorem sourcePmac_eq_broadcast_iff {δ : Type} {switch : PortlandSwitchNetDevice δ}
    (keys : ∀ (key : Mac48Address) (entry : PMACEntry),
      switch.table.mapping[key]? = some entry → key = switch.assignedPmac entry.port)
    {metadata : SwitchPacketMetadata} {inPort : UInt8}
    (inRange : inPort.toNat < switch.lowerPorts.length) :
    switch.sourcePmac metadata inPort = .getBroadcast ↔
      switch.table.HoldsIp metadata.srcIp ∧ ∀ (key : Mac48Address) (entry : PMACEntry),
        switch.table.mapping[key]? = some entry → entry.amac ≠ metadata.srcAmac := by
  by_cases known : switch.table.HoldsIp metadata.srcIp
  · have found := (PMACTable.findPortOfIp_ne_neg_one_iff _ _).mpr known
    have noEntry : switch.newEntry metadata inPort = none :=
      if_neg fun both => found both.2
    have srcIs : switch.sourcePmac metadata inPort =
        switch.table.findPMACOfAmac metadata.srcAmac := by
      rw [sourcePmac, noEntry]
      exact if_pos inRange
    rw [srcIs]
    rcases switch.table.findPMACOfAmac_cases metadata.srcAmac with
      ⟨entry, stored, amac⟩ | ⟨missing, noAmac⟩
    · have keyIs := keys _ entry stored
      constructor
      · intro broadcast
        rw [broadcast, assignedPmac_eq] at keyIs
        exact absurd keyIs.symm (pseudo_ne_broadcast _ _ _)
      · intro absent
        rcases absent with ⟨-, noAmac⟩
        exact absurd amac (noAmac _ entry stored)
    · exact ⟨fun _ => ⟨known, noAmac⟩, fun _ => missing⟩
  · have notFound := (PMACTable.findPortOfIp_eq_neg_one_iff _ _).mpr known
    have entryIs : switch.newEntry metadata inPort = some _ := if_pos ⟨inRange, notFound⟩
    have srcIs : switch.sourcePmac metadata inPort = switch.assignedPmac inPort := by
      rw [sourcePmac, entryIs]
    rw [srcIs, assignedPmac_eq]
    constructor
    · intro broadcast
      exact absurd broadcast (pseudo_ne_broadcast _ _ _)
    · intro absent
      rcases absent with ⟨held, -⟩
      exact absurd held known

/-! ## When an unsupported frame does nothing -/

section Ingress

variable {getAddress : Device k → Mac48Address} {fabric : Fabric (SwitchId k) (Device k)}
  {device : Device k} {frame : Frame} {draw : Draw} {id : SwitchId k} {index : Nat}

/-- A frame whose source has no address ends at the switch, which learns nothing. -/
theorem harmless_of_broadcast (wired : Wired getAddress fabric)
    (port : device.port = some (id, false, index)) (isEdge : id.deviceType = .edge)
    (passes : PassesAt getAddress fabric id device frame)
    (noEntry : (fabric.switches id).newEntry (frame.metadata draw.unset)
      (UInt8.ofNat index) = none)
    (source : (fabric.switches id).sourcePmac (frame.metadata draw.unset)
      (UInt8.ofNat index) =
      .getBroadcast) : Harmless getAddress fabric (device, frame) draw := by
  rcases exists_handling wired (device, frame) draw with ⟨handling, handled⟩
  rcases handle_ingress_cases wired port isEdge passes handled with ⟨system, -, outputs⟩
  rw [noEntry] at system
  refine ⟨handling, handled, ?_, ?_, ?_⟩
  · intro other
    rw [system]
    exact table_counted fabric id device frame.packet other
  · rw [system]
    rfl
  · rcases outputs with nothing | ⟨addressed, -⟩ | ⟨_, _, addressed, -⟩
    · exact nothing
    · exact absurd source addressed
    · exact absurd source addressed

end Ingress

/-- The frame stops at the switch, as it is addressed to it, or its misread source IP is
in the table of the switch and its source MAC is not. -/
def Inert (getAddress : Device k → Mac48Address) (fabric : Fabric (SwitchId k) (Device k))
    (id : SwitchId k) (device : Device k) (frame : Frame) : Prop :=
  ¬ PassesAt getAddress fabric id device frame ∨
    ((fabric.switches id).table.HoldsIp frame.misreadIp ∧
      ∀ (key : Mac48Address) (entry : PMACEntry),
        (fabric.switches id).table.mapping[key]? = some entry → entry.amac ≠ frame.src)

theorem harmless_iff_inert {getAddress : Device k → Mac48Address}
    {fabric : Fabric (SwitchId k) (Device k)} (wired : Wired getAddress fabric)
    (coherent : fabric.Coherent) {id : SwitchId k} {device : Device k} {index : Nat}
    (port : device.port = some (id, false, index)) (isEdge : id.deviceType = .edge)
    {frame : Frame} (unsupported : frame.Unsupported) (draw : Draw) :
    Harmless getAddress fabric (device, frame) draw ↔
      Inert getAddress fabric id device frame := by
  by_cases passes : PassesAt getAddress fabric id device frame
  · have keys (key : Mac48Address) (entry : PMACEntry)
        (stored : (fabric.switches id).table.mapping[key]? = some entry) :
        key = (fabric.switches id).assignedPmac entry.port :=
      (coherent.entry id key entry stored).2.1
    have inRange :
        (UInt8.ofNat index).toNat < (fabric.switches id).lowerPorts.length := by
      have bound := (List.getElem?_eq_some_iff.mp (Device.side_of_port port)).1
      rw [wired.length_lowerPorts]
      exact Nat.lt_of_le_of_lt (toNat_ofNat_le index) bound
    have noSource :
        (fabric.switches id).sourcePmac (frame.metadata draw.unset) (UInt8.ofNat index) =
            .getBroadcast ↔
          (fabric.switches id).table.HoldsIp frame.misreadIp ∧
            ∀ (key : Mac48Address) (entry : PMACEntry),
              (fabric.switches id).table.mapping[key]? = some entry →
                entry.amac ≠ frame.src := by
      rw [sourcePmac_eq_broadcast_iff keys inRange, unsupported.srcIp,
        metadataFromPacket_srcAmac]
    constructor
    · intro harmless
      rcases harmless with ⟨handling, handled, -, -, silent⟩
      refine .inr (noSource.mp ?_)
      by_contra source
      exact outputs_ne_nil wired coherent port isEdge passes source handled silent
    · intro inert
      have held := inert.resolve_left (not_not_intro passes)
      refine harmless_of_broadcast wired port isEdge passes ?_ (noSource.mpr held)
      have found := (PMACTable.findPortOfIp_ne_neg_one_iff _ _).mpr held.1
      refine if_neg fun both => found ?_
      rw [← unsupported.srcIp draw.unset]
      exact both.2
  · constructor
    · intro _
      exact .inl passes
    · intro _
      refine ⟨_, handle_of_stopped wired port passes, ?_, rfl, rfl⟩
      exact table_counted fabric id device frame.packet

/-- In every state that the network can reach, an unsupported frame from below changes
no table and makes no switch send exactly if it is inert. -/
theorem unsupported_harmless_iff {getAddress : Device k → Mac48Address}
    {permitted : Message k → Prop}
    {state : Courier.State (Fabric (SwitchId k) (Device k)) (Message k) Draw (Delivery k)}
    (reached : (step (handle getAddress)).Reachable (Event.Permitted permitted)
      (start getAddress) state)
    {id : SwitchId k} {device : Device k} {index : Nat}
    (port : device.port = some (id, false, index)) (isEdge : id.deviceType = .edge)
    {frame : Frame} (unsupported : frame.Unsupported) (draw : Draw) :
    Harmless getAddress state.system (device, frame) draw ↔
      Inert getAddress state.system id device frame := by
  rcases wired_coherent_of_reachable reached with ⟨wired, coherent⟩
  exact harmless_iff_inert wired coherent port isEdge unsupported draw

/-! ## Neighbour discovery -/

namespace Addressing

/-- A router solicitation to the group of all routers, which the IPv6 stack of a host
sends as it starts. -/
def routerSolicitation (network : Addressing k) (host : Host k) : Frame where
  packet := ⟨[0x60, 0, 0, 0, 0, 8, 58, 255]⟩
  src := network.amac host
  dst := ⟨0x33, 0x33, 0, 0, 0, 2⟩
  protocol := 0x86dd

variable (network : Addressing k) (host : Host k)

theorem unsupported_routerSolicitation :
    (network.routerSolicitation host).Unsupported := by
  have notIpv4 : (0x86dd : UInt16) ≠ ipv4Protocol := by decide
  have notArp : (0x86dd : UInt16) ≠ arpProtocol := by decide
  exact ⟨notIpv4, .inl notArp⟩

/-- The group address is that of no switch. -/
theorem passes_routerSolicitation (fabric : Fabric (SwitchId k) (Device k)) :
    PassesAt network.hardware fabric host.edge host.accessPort
      (network.routerSolicitation host) := by
  have group : classify (network.hardware host.accessPort)
      (network.routerSolicitation host).dst = .multicast := by
    have notAll : (⟨0x33, 0x33, 0, 0, 0, 2⟩ : Mac48Address).isBroadcast = false := by
      decide
    have isGroup : (⟨0x33, 0x33, 0, 0, 0, 2⟩ : Mac48Address).isGroup = true := by decide
    simp [classify, routerSolicitation, notAll, isGroup]
  rw [PassesAt, group]
  simp [Passes]

/-- What a switch with an empty table registers for the solicitation. -/
def misreadEntry : PMACEntry where
  pmac := host.pmac
  amac := network.amac host
  ipAddress := {}
  port := UInt8.ofNat host.port

theorem newEntry_routerSolicitation (unset : Bool) :
    ((portlandSetup network.hardware).switches host.edge).newEntry
      ((network.routerSolicitation host).metadata unset) (UInt8.ofNat host.port) =
        some (network.misreadEntry host) := by
  have knows := knows_portlandSetup network
  have notHeld : ((portlandSetup network.hardware).switches host.edge).table.findPortOfIp
      ((network.routerSolicitation host).metadata unset).srcIp = -1 := by
    rw [PMACTable.findPortOfIp_eq_neg_one_iff]
    intro held
    rcases held with ⟨pmac, entry, stored, -⟩
    simp [(fresh_portlandSetup network.hardware).table host.edge] at stored
  have srcIp : ((network.routerSolicitation host).metadata unset).srcIp = {} :=
    (network.unsupported_routerSolicitation host).srcIp unset
  rw [newEntry, if_pos ⟨knows.wired.port_lt host, notHeld⟩, knows.wired.assignedPmac_eq,
    srcIp, metadataFromPacket_srcAmac]
  rfl

end Addressing

/-- The first frame of a host is its neighbour discovery: its switch registers the
address 102.102.102.102 for the port of the host, finds it for the destination too, and
sends the frame up with the PMAC of the host as its source and its destination. -/
theorem neighbour_discovery_registers :
    let network := Addressing.numbered 4 (by norm_num)
    let host : Host 4 := ⟨0, 0, 0⟩
    let frame := network.routerSolicitation host
    frame.Unsupported ∧
      ¬ Harmless network.hardware (start network.hardware).system
        (host.accessPort, frame) {} ∧
      ∃ handling,
          handle network.hardware (start network.hardware).system (host.accessPort, frame)
          {} = some handling ∧
        handling.system.manager.ipPMACTable[({} : Ipv4Address)]? = some host.pmac ∧
        handling.outputs ≠ [] := by
  intro network host frame
  have wired := wired_portlandSetup network.hardware
  have coherent := (fresh_portlandSetup network.hardware).coherent
  have passes := network.passes_routerSolicitation host (portlandSetup network.hardware)
  have registers := network.newEntry_routerSolicitation host false
  have source : ((portlandSetup network.hardware).switches host.edge).sourcePmac
      (frame.metadata false) (UInt8.ofNat host.port) ≠ .getBroadcast := by
    rw [sourcePmac, registers]
    exact host.pmac_ne_broadcast
  rcases exists_handling wired (host.accessPort, frame) {} with ⟨handling, handled⟩
  have sends : handling.outputs ≠ [] :=
    outputs_ne_nil wired coherent host.port_accessPort rfl passes source handled
  refine ⟨network.unsupported_routerSolicitation host, ?_, handling, handled, ?_, sends⟩
  · intro harmless
    rcases harmless with ⟨other, again, -, -, silent⟩
    rw [start, handled] at again
    cases again
    exact sends silent
  · rw [(handle_ingress_cases wired host.port_accessPort rfl passes handled).1, registers]
    have added :=
      (portlandSetup network.hardware).manager.getElem?_addPMACToTable {} {} host.pmac
    rw [if_pos rfl] at added
    exact added

/-- A frame without a readable protocol from a card that its switch does not know, once
another card has taken 102.102.102.102. -/
theorem unsupported_harmless_iff_taken :
    let network := Addressing.numbered 4 (by norm_num)
    let host : Host 4 := ⟨0, 0, 0⟩
    let frame := { network.routerSolicitation host with src := ⟨2, 0, 0, 0, 0, 9⟩ }
    ∃ state, (step (handle network.hardware)).Reachable (Event.Permitted fun _ => True)
        (start network.hardware) state ∧
      frame.Unsupported ∧
      Harmless network.hardware state.system (host.accessPort, frame) {} := by
  intro network host frame
  have wired := wired_portlandSetup network.hardware
  have passes := network.passes_routerSolicitation host (portlandSetup network.hardware)
  rcases exists_handling wired (host.accessPort, network.routerSolicitation host) {} with
    ⟨handling, handled⟩
  have system := (handle_ingress_cases wired host.port_accessPort rfl passes handled).1
  rw [network.newEntry_routerSolicitation host false] at system
  have table : (handling.system.switches host.edge).table =
      ((portlandSetup network.hardware).switches host.edge).table.record
        (network.misreadEntry host) := by
    rw [system, table_registered, if_pos rfl]
    rfl
  have stored (pmac : Mac48Address) :
      (handling.system.switches host.edge).table.mapping[pmac]? =
        if host.pmac = pmac then some (network.misreadEntry host) else none := by
    rw [table, PMACTable.getElem?_record, (fresh_portlandSetup network.hardware).table]
    simp [Addressing.misreadEntry]
  have unsupported : frame.Unsupported := by
    rcases network.unsupported_routerSolicitation host with ⟨notIpv4, notArp⟩
    exact ⟨notIpv4, notArp⟩
  let message : Message 4 := (host.accessPort, network.routerSolicitation host)
  let after := ((start network.hardware).post message).record 0
    { parcel := { tag := 0, hops := 0, content := message }, choice := {},
      outputs := handling.outputs, deliveries := handling.deliveries } handling.system
  have reached : (step (handle network.hardware)).Reachable
      (Event.Permitted fun _ => True) (start network.hardware) after := by
    refine ⟨[.send message, .arrive 0 {}], by simp [Event.Permitted], ?_⟩
    rw [PartialStep.run_cons_eq_some]
    refine ⟨(start network.hardware).post message, rfl, ?_⟩
    rw [PartialStep.run_singleton, step]
    simp only [State.post, start, List.nil_append, List.getElem?_cons_zero,
      Option.bind_some]
    rw [handled]
    rfl
  refine ⟨after, reached, unsupported, ?_⟩
  apply (unsupported_harmless_iff reached host.port_accessPort rfl unsupported {}).mpr
  refine .inr ⟨⟨host.pmac, network.misreadEntry host, ?_, rfl⟩, ?_⟩
  · exact (stored host.pmac).trans (if_pos rfl)
  · intro key entry present
    have held := (stored key).symm.trans present
    split at held
    · cases held
      decide
    · cases held

end DataCenter.Portland
