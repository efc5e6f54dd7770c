import DataCenter.Portland.EdgeIngress

/-! # The ports on the way to a host

From below, a frame for the PMAC of a host can be anywhere.  From above it comes
only to the aggregation switches of the host's pod and to the host's edge switch,
and a frame from another pod can get to each of these ports. -/

namespace DataCenter.Portland

open Courier PortlandSwitchNetDevice

variable {k : Nat}

/-- Hosts put any frames on their links. -/
def Entering (message : Message k) : Prop := ∃ host : Host k, message.1 = host.accessPort

/-- If the device is an upper port, it is one on the way to the host. -/
def LeadsTo (target : Host k) (device : Device k) : Prop :=
  ∀ id index, device.port = some (id, true, index) →
    id = target.edge ∨ ∃ position, id = .aggregation target.pod position

/-- A frame for a PMAC is about to arrive at a device, in some run. -/
def CanArrive (getAddress : Device k → Mac48Address) (dst : Mac48Address)
    (device : Device k) : Prop :=
  ∃ fabric message,
    Carries (handle getAddress) Entering (start getAddress) fabric message ∧
    message.1 = device ∧ message.2.dst = dst

/-! ## What leads up and what leads out -/

/-- The far end of an upper port is a lower port. -/
theorem Device.exists_lower_of_peer {device : Device k} {id : SwitchId k} {index : Nat}
    (peer : device.peer.port = some (id, true, index)) :
    ∃ other place, device.port = some (other, false, place) := by
  rcases device with ⟨link, place⟩
  fin_cases place
  · cases link <;> cases peer
  · cases link with
    | hostEdge i j h => cases peer
    | edgeAggregation i j h => exact ⟨_, _, rfl⟩
    | aggregationCore i j h => exact ⟨_, _, rfl⟩

/-- The far end of a lower port of an edge switch is at a host. -/
theorem Device.port_eq_none_of_peer {device : Device k} {id : SwitchId k} {index : Nat}
    (peer : device.peer.port = some (id, false, index)) (isEdge : id.deviceType = .edge) :
    device.port = none := by
  rcases Host.exists_accessPort peer isEdge with ⟨host, atPort⟩
  have same : device = host.accessPort.peer := by rw [← atPort, Device.peer_peer]
  rw [same]
  rfl

section Leading

variable {target : Host k} {device : Device k}

theorem leadsTo_of_lower {id : SwitchId k} {index : Nat}
    (port : device.port = some (id, false, index)) : LeadsTo target device := by
  intro other place upper
  rw [port] at upper
  cases upper

theorem leadsTo_of_peer_upper {id : SwitchId k} {index : Nat}
    (peer : device.peer.port = some (id, true, index)) : LeadsTo target device := by
  rcases Device.exists_lower_of_peer peer with ⟨other, place, port⟩
  exact leadsTo_of_lower port

theorem leadsTo_of_peer_edge {id : SwitchId k} {index : Nat}
    (peer : device.peer.port = some (id, false, index)) (isEdge : id.deviceType = .edge) :
    LeadsTo target device := by
  intro other place upper
  rw [Device.port_eq_none_of_peer peer isEdge] at upper
  cases upper

end Leading

/-! ## One handling -/

section Handlings

variable {getAddress : Device k → Mac48Address} {fabric : Fabric (SwitchId k) (Device k)}
  {device : Device k} {frame : Frame} {draw : Draw}
  {handling : Handling (Fabric (SwitchId k) (Device k)) (Message k) (Delivery k)}
  {output : Message k} {target : Host k}

/-- An edge switch sends frames up, or out to its hosts, or has requests flooded. -/
theorem leadsTo_of_edge (wired : Wired getAddress fabric) {id : SwitchId k}
    {fromUpper : Bool} {index : Nat} (port : device.port = some (id, fromUpper, index))
    (isEdge : id.deviceType = .edge) (passes : PassesAt getAddress fabric id device frame)
    (handled : handle getAddress fabric (device, frame) draw = some handling)
    (member : output ∈ handling.outputs) (addressed : output.2.dst = target.pmac) :
    LeadsTo target output.1 := by
  cases fromUpper with
  | true =>
      have fate := (fate_egress wired port isEdge passes handled).1
      generalize handling.outputs = outputs at fate member
      cases fate with
      | stopped => cases member
      | up outPort frame fromLower below => cases fromLower
      | down outPort frame turned =>
          exact leadsTo_of_peer_edge (mem_onPort.mp member).2 isEdge
      | broadcast outputs isEdge descends few toHosts =>
          rcases toHosts output member with ⟨i, peer⟩
          exact leadsTo_of_peer_edge peer isEdge
      | flood switches nodup frame isEdge fromLower => cases fromLower
  | false =>
      rcases (handle_ingress_cases wired port isEdge passes handled).2.2 with
        stopped | ⟨-, -, flood⟩ | ⟨dstPmac, outPort, -, -, -, -, up⟩
      · rw [stopped] at member
        cases member
      · rw [flood] at member
        rw [frame_of_mem_floodOutputs member] at addressed
        exact absurd addressed.symm target.pmac_ne_broadcast
      · rw [up] at member
        exact leadsTo_of_peer_upper (mem_onPort.mp member).2

theorem leadsTo_of_aggregation (fits : k ≤ 256) (wired : Wired getAddress fabric)
    {pod : Fin k} {position : Fin (k / 2)} {fromUpper : Bool} {index : Nat}
    (port : device.port = some (.aggregation pod position, fromUpper, index))
    (passes : PassesAt getAddress fabric (.aggregation pod position) device frame)
    (came : ∀ target : Host k, frame.dst = target.pmac → LeadsTo target device)
    (handled : handle getAddress fabric (device, frame) draw = some handling)
    (member : output ∈ handling.outputs) (addressed : output.2.dst = target.pmac) :
    LeadsTo target output.1 := by
  rcases wired.exists_outPort (.aggregation pod position) draw.rand frame.dst with
    ⟨outPort, chosen⟩
  rw [handle_forward wired port passes (.inl ⟨rfl, rfl⟩) chosen] at handled
  cases handled
  have sent := mem_onPort.mp member
  cases fromUpper with
  | false => exact leadsTo_of_peer_upper sent.2
  | true =>
      rw [sent.1] at addressed
      have half : k / 2 ≤ 256 := by omega
      have samePod : pod = target.pod := by
        rcases came target addressed _ _ port with atEdge | ⟨other, atAggregation⟩
        · cases atEdge
        · cases atAggregation
          rfl
      have down := wired.outPort_aggregation pod position draw.rand target
      rw [← addressed, chosen, SwitchId.upstream, samePod, octet_of_le half] at down
      simp only [ne_eq, not_true_eq_false, decide_false, Bool.false_eq_true, if_false,
        Except.ok.injEq] at down
      rw [down, toUInt8_natCast, Bool.not_true, onPort_aggregation_lower,
        octet_of_le half] at member
      rw [List.mem_singleton.mp member]
      intro id place upper
      cases upper
      rw [samePod]
      exact .inl rfl

theorem leadsTo_of_core (fits : k ≤ 256) (wired : Wired getAddress fabric)
    {group position : Fin (k / 2)} {index : Nat}
    (port : device.port = some (.core group position, false, index))
    (passes : PassesAt getAddress fabric (.core group position) device frame)
    (handled : handle getAddress fabric (device, frame) draw = some handling)
    (member : output ∈ handling.outputs) (addressed : output.2.dst = target.pmac) :
    LeadsTo target output.1 := by
  rcases wired.exists_outPort (.core group position) draw.rand frame.dst with
    ⟨outPort, chosen⟩
  rw [handle_forward wired port passes (.inr ⟨rfl, rfl, rfl⟩) chosen] at handled
  cases handled
  rw [(mem_onPort.mp member).1] at addressed
  have down := wired.outPort_core group position draw.rand target
  rw [← addressed, chosen, octet_of_le fits, Except.ok.injEq] at down
  rw [down, toUInt8_natCast, onPort_core_lower, octet_of_le fits] at member
  rw [List.mem_singleton.mp member]
  intro id place upper
  cases upper
  exact .inr ⟨group, rfl⟩

/-- Every switch sends a frame for a host to where it may arrive. -/
theorem leadsTo_of_output (fits : k ≤ 256) (wired : Wired getAddress fabric)
    (came : ∀ target : Host k, frame.dst = target.pmac → LeadsTo target device)
    (handled : handle getAddress fabric (device, frame) draw = some handling)
    (member : output ∈ handling.outputs) (addressed : output.2.dst = target.pmac) :
    LeadsTo target output.1 := by
  cases port : device.port with
  | none =>
      rcases Device.exists_host_of_port port with ⟨host, rfl⟩
      rw [handle_host host.node_device] at handled
      cases handled
      cases member
  | some place =>
      rcases place with ⟨id, fromUpper, index⟩
      by_cases passes : PassesAt getAddress fabric id device frame
      · cases id with
        | edge pod position =>
            exact leadsTo_of_edge wired port rfl passes handled member addressed
        | aggregation pod position =>
            exact leadsTo_of_aggregation fits wired port passes came handled member
              addressed
        | core group position =>
            cases fromUpper with
            | true => exact absurd rfl (deviceType_ne_core_of_upper port)
            | false =>
                exact leadsTo_of_core fits wired port passes handled member addressed
      · rw [handle_of_stopped wired port passes] at handled
        cases handled
        cases member

end Handlings

/-! ## Every run -/

/-- Every switch has the hardware address of one of its lower ports. -/
def NamedBelow (getAddress : Device k → Mac48Address)
    (fabric : Fabric (SwitchId k) (Device k)) : Prop :=
  ∀ id, ∃ port ∈ id.lower, (fabric.switches id).address = getAddress port

theorem NamedBelow.handle {getAddress : Device k → Mac48Address}
    {fabric : Fabric (SwitchId k) (Device k)} (named : NamedBelow getAddress fabric)
    {message : Message k} {draw : Draw}
    {handling : Handling (Fabric (SwitchId k) (Device k)) (Message k) (Delivery k)}
    (handled : Portland.handle getAddress fabric message draw = some handling) :
    NamedBelow getAddress handling.system := by
  intro id
  have same := congrArg SwitchConfig.address ((sameConfig_of_handle handled).1 id)
  rcases named id with ⟨port, member, address⟩
  exact ⟨port, member, Eq.trans same address⟩

/-- Frames for hosts are only where they may arrive. -/
def transit (getAddress : Device k → Mac48Address) :
    Discipline (Fabric (SwitchId k) (Device k)) (Message k) Draw (Delivery k) where
  Good _ fabric := Wired getAddress fabric ∧ NamedBelow getAddress fabric
  Fit _ message := ∀ target : Host k, message.2.dst = target.pmac →
    LeadsTo target message.1
  Due _ _ := True

theorem transit_kept (fits : k ≤ 256) (getAddress : Device k → Mac48Address) :
    (transit getAddress).Kept (handle getAddress) Entering where
  fit_of_permitted := by
    intro past fabric message good entering target addressed
    rcases entering with ⟨host, atPort⟩
    rw [atPort]
    exact leadsTo_of_lower host.port_accessPort
  good_after legal := ⟨legal.good.1.handle legal.makes, legal.good.2.handle legal.makes⟩
  fit_after _ _ fit := fit
  due_after _ _ _ := trivial
  fit_outputs := by
    intro past fabric visit next legal output member target addressed
    exact leadsTo_of_output fits legal.good.1 legal.fit legal.makes member addressed
  due_deliveries _ _ _ := trivial

section Runs

variable {getAddress : Device k → Mac48Address} {fabric : Fabric (SwitchId k) (Device k)}
  {message : Message k}

theorem transit_of_carries (fits : k ≤ 256) (named : ∀ device, getAddress device ≠ {})
    (carries : Carries (handle getAddress) Entering (start getAddress) fabric message) :
    Wired getAddress fabric ∧ NamedBelow getAddress fabric ∧
      ∀ target : Host k, message.2.dst = target.pmac → LeadsTo target message.1 := by
  rcases carries with ⟨state, reached, rfl, parcel, member, rfl⟩
  have holds := (transit_kept fits getAddress).holds_of_reachable
    ⟨wired_portlandSetup getAddress, exists_lower_address getAddress named⟩ reached
  exact ⟨holds.good.1, holds.good.2, holds.fit parcel member⟩

end Runs

/-! ## Passing ports -/

theorem classify_pmac (own : Mac48Address) (host : Host k) :
    classify own host.pmac = if own = host.pmac then .host else .otherhost := by
  have notBroadcast : host.pmac.isBroadcast = false :=
    decide_eq_false host.pmac_ne_broadcast
  have notGroup : host.pmac.isGroup = false := by
    simp [Host.pmac, pseudo, Mac48Address.isGroup]
  simp only [classify, notBroadcast, notGroup, Bool.false_eq_true, if_false, eq_comm]

/-- No lower port has the PMAC of a host as its hardware address. -/
def ClearBelow (getAddress : Device k → Mac48Address) : Prop :=
  ∀ (device : Device k) (id : SwitchId k) (index : Nat),
    device.port = some (id, false, index) → ∀ host : Host k, getAddress device ≠ host.pmac

section Passing

variable {getAddress : Device k → Mac48Address} {fabric : Fabric (SwitchId k) (Device k)}
  {device : Device k} {frame : Frame} {target : Host k}

/-- Then a frame for a host passes every port that does not have the PMAC itself. -/
theorem ClearBelow.passesAt (clear : ClearBelow getAddress)
    (named : NamedBelow getAddress fabric)
    (toTarget : frame.dst = target.pmac) (apart : getAddress device ≠ target.pmac)
    (id : SwitchId k) : PassesAt getAddress fabric id device frame := by
  rw [PassesAt]
  rw [toTarget, classify_pmac, if_neg apart]
  constructor
  · simp
  · intro claimed
    rcases named id with ⟨port, member, address⟩
    rcases List.mem_iff_getElem?.mp member with ⟨index, stored⟩
    have lower : (id.side false)[index]? = some port := stored
    apply clear port id index (Device.port_of_side lower) target
    rw [← address, ← claimed.2, toTarget]

theorem not_passesAt_of_own (fabric : Fabric (SwitchId k) (Device k))
    (toTarget : frame.dst = target.pmac) (own : getAddress device = target.pmac)
    (id : SwitchId k) :
    ¬ PassesAt getAddress fabric id device frame := by
  rw [PassesAt]
  rw [toTarget, classify_pmac, if_pos own]
  intro passes
  exact passes.1 rfl

end Passing

/-! ## Two frames -/

/-- A datagram of a host, for the PMAC and the IP address of another host. -/
def plainDatagram (getAddress : Device k → Mac48Address) (ip : Host k → Ipv4Address)
    (source target : Host k) : Frame where
  packet := ipv4Packet (ip source) (ip target)
  src := getAddress source.device
  dst := target.pmac
  protocol := ipv4Protocol

/-- Hosts send datagrams to hosts. -/
def Plain (getAddress : Device k → Mac48Address) (ip : Host k → Ipv4Address)
    (message : Message k) : Prop :=
  ∃ source target : Host k,
    message = (source.accessPort, plainDatagram getAddress ip source target)

theorem Plain.entering {getAddress : Device k → Mac48Address} {ip : Host k → Ipv4Address}
    {message : Message k} (plain : Plain getAddress ip message) : Entering message := by
  rcases plain with ⟨source, target, rfl⟩
  exact ⟨source, rfl⟩

section Datagrams

variable {getAddress : Device k → Mac48Address} {ip : Host k → Ipv4Address}
  {fabric : Fabric (SwitchId k) (Device k)} {source target : Host k}

theorem srcIp_plainDatagram (getAddress : Device k → Mac48Address) (unset : Bool) :
    ((plainDatagram getAddress ip source target).metadata unset).srcIp = ip source := by
  rw [Frame.metadata_of_ipv4 rfl, plainDatagram, peekIpv4Header_ipv4Packet]

theorem dstIp_plainDatagram (getAddress : Device k → Mac48Address)
    (ip : Host k → Ipv4Address) (source target : Host k) (unset : Bool) :
    ((plainDatagram getAddress ip source target).metadata unset).dstIp = ip target := by
  rw [Frame.metadata_of_ipv4 rfl, plainDatagram, peekIpv4Header_ipv4Packet]

theorem ClearBelow.passesAt_accessPort (clear : ClearBelow getAddress)
    (named : NamedBelow getAddress fabric) (host target : Host k) {frame : Frame}
    (toTarget : frame.dst = target.pmac) :
    PassesAt getAddress fabric host.edge host.accessPort frame :=
  clear.passesAt named toTarget (clear _ _ _ host.port_accessPort target) _

/-- The first frame of the network makes its sender known, and nobody else. -/
theorem known_after_first (clear : ClearBelow getAddress)
    (named : NamedBelow getAddress (portlandSetup getAddress)) (host other : Host k)
    {draw : Draw}
    {handling : Handling (Fabric (SwitchId k) (Device k)) (Message k) (Delivery k)}
    (handled : handle getAddress (portlandSetup getAddress)
      (host.accessPort, plainDatagram getAddress ip host other) draw = some handling) :
    handling.system.manager.ipPMACTable[ip host]? = some host.pmac ∧
      ∀ id ≠ host.edge, (handling.system.switches id).table.mapping = ∅ := by
  have wired := wired_portlandSetup getAddress
  have fresh := fresh_portlandSetup getAddress
  have passes : PassesAt getAddress (portlandSetup getAddress) host.edge host.accessPort
      (plainDatagram getAddress ip host other) :=
    clear.passesAt_accessPort named host other rfl
  have registers : ((portlandSetup getAddress).switches host.edge).newEntry
      ((plainDatagram getAddress ip host other).metadata draw.unset)
        (UInt8.ofNat host.port) =
        some _ := newEntry_of_empty (fresh.table host.edge) (wired.port_lt host)
  have learned : learnedAt getAddress (portlandSetup getAddress) host.edge host.accessPort
      (plainDatagram getAddress ip host other) draw host.port false = some _ :=
    (if_pos ⟨rfl, rfl, passes⟩).trans registers
  rw [handle_system wired host.port_accessPort handled, learned,
    wired.assignedPmac_eq host, srcIp_plainDatagram]
  constructor
  · have added := (portlandSetup getAddress).manager.getElem?_addPMACToTable (ip host)
      (ip host) host.pmac
    rwa [if_pos rfl] at added
  · intro id different
    rw [table_registered, if_neg different]
    exact fresh.table id

/-- The first frame behind an edge switch goes up if its destination is known. -/
theorem handle_plainDatagram (wired : Wired getAddress fabric)
    (clear : ClearBelow getAddress) (named : NamedBelow getAddress fabric)
    (empty : (fabric.switches source.edge).table.mapping = ∅)
    (apart : ip source ≠ ip target)
    (registered : fabric.manager.ipPMACTable[ip target]? = some target.pmac)
    (upstream : source.edge.upstream target = true) (draw : Draw) :
    ∃ system frame, frame.dst = target.pmac ∧
      handle getAddress fabric
        (source.accessPort, plainDatagram getAddress ip source target) draw = some
          { system
            outputs := [((Link.edgeAggregation source.pod
              (octet (Fin.draw source.position draw.rand)) source.position).get 1,
                frame)] } := by
  have inRange := wired.port_lt source
  have passes : PassesAt getAddress fabric source.edge source.accessPort
      (plainDatagram getAddress ip source target) :=
    clear.passesAt_accessPort named source target rfl
  have known : (fabric.switches source.edge).sourcePmac
      ((plainDatagram getAddress ip source target).metadata draw.unset)
      (UInt8.ofNat source.port) ≠ .getBroadcast := by
    rw [sourcePmac_of_empty empty inRange, wired.assignedPmac_eq]
    exact source.pmac_ne_broadcast
  have foreign : ((plainDatagram getAddress ip source target).metadata draw.unset).srcIp ≠
      ((plainDatagram getAddress ip source target).metadata draw.unset).dstIp := by
    rwa [srcIp_plainDatagram, dstIp_plainDatagram]
  rw [← dstIp_plainDatagram getAddress ip source target draw.unset] at registered
  have resolved := resolve_of_registered empty inRange foreign registered
  have output := wired.outPort_edge source.pod source.position draw.rand target
  have above :
      (SwitchId.edge source.pod source.position).upstream target = true := upstream
  rw [above, if_pos rfl] at output
  have handled := handle_ingress_resolved wired source.port_accessPort rfl passes known
    resolved target.pmac_ne_broadcast ((getOutputPort_learn _ _ _ _).trans output)
    (Int.natCast_nonneg _)
  rw [toUInt8_natCast, Host.edge, onPort_edge_upper] at handled
  exact ⟨_, _, rfl, handled⟩

end Datagrams

/-! ## The ports that are reached -/

theorem octet_draw {count : Nat} (fits : count ≤ 256) (some index : Fin count) :
    octet (Fin.draw some index) = index := by
  rw [octet_of_le fits]
  apply Fin.ext
  exact Nat.mod_eq_of_lt index.isLt

theorem ofNat_pod_ne (fits : k ≤ 256) {source target : Host k}
    (apart : source.pod ≠ target.pod) :
    UInt8.ofNat source.pod ≠ UInt8.ofNat target.pod := by
  intro same
  exact apart (Fin.ext ((ofNat_inj_of_lt (by omega) (by omega)).mp same))

section Climbing

variable {getAddress : Device k → Mac48Address} {ip : Host k → Ipv4Address}
  {fabric : Fabric (SwitchId k) (Device k)} {source target : Host k} {frame : Frame}

theorem transit_of_plain (fits : k ≤ 256) (named : ∀ device, getAddress device ≠ {})
    {message : Message k}
    (carries : Carries (handle getAddress) (Plain getAddress ip) (start getAddress) fabric
      message) :
    Wired getAddress fabric ∧ NamedBelow getAddress fabric := by
  have facts := transit_of_carries fits named (carries.mono fun _ => Plain.entering)
  exact ⟨facts.1, facts.2.1⟩

/-- Once its destination is known, a frame can go up to every aggregation switch. -/
theorem exists_climbing (fits : k ≤ 256) (named : ∀ device, getAddress device ≠ {})
    (clear : ClearBelow getAddress) (distinct : ip source ≠ ip target)
    (apart : source.pod ≠ target.pod) (group : Fin (k / 2)) :
    ∃ fabric frame, frame.dst = target.pmac ∧
      Carries (handle getAddress) (Plain getAddress ip) (start getAddress) fabric
        ((Link.edgeAggregation source.pod group source.position).get 1, frame) := by
  have namedAtStart : NamedBelow getAddress (portlandSetup getAddress) :=
    exists_lower_address getAddress named
  have half : k / 2 ≤ 256 := by omega
  have elsewhere : source.edge ≠ target.edge := by
    intro same
    simp only [Host.edge, SwitchId.edge.injEq] at same
    exact apart same.1
  have upstream : source.edge.upstream target = true := by
    simp [Host.edge, SwitchId.upstream, ofNat_pod_ne fits apart]
  have none := PartialStep.Reachable.refl (step (handle getAddress))
    (Event.Permitted (Plain getAddress ip)) (start getAddress)
  have firstIs : Plain getAddress ip (target.accessPort,
    plainDatagram getAddress ip target source) := ⟨target, source, rfl⟩
  have secondIs : Plain getAddress ip (source.accessPort,
    plainDatagram getAddress ip source target) := ⟨source, target, rfl⟩
  have first := carries_post none firstIs
  rcases exists_handling (wired_portlandSetup getAddress) (target.accessPort,
    plainDatagram getAddress ip target source) default with ⟨handling, handled⟩
  have known := known_after_first clear namedAtStart target source handled
  rcases first.exists_handled handled with ⟨state, reached, same, -⟩
  have second := carries_post reached secondIs
  have facts := transit_of_plain fits named second
  rw [← same] at known
  rcases handle_plainDatagram facts.1 clear facts.2 (known.2 _ elsewhere) distinct known.1
    upstream
    { rand := group } with ⟨system, frame, toTarget, sends⟩
  rw [octet_draw half] at sends
  exact ⟨system, frame, toTarget, second.hop sends (List.mem_singleton.mpr rfl)⟩

/-- It can go on to every core switch there, and down to the pod of its destination. -/
theorem exists_descending (fits : k ≤ 256) (named : ∀ device, getAddress device ≠ {})
    (clear : ClearBelow getAddress) (distinct : ip source ≠ ip target)
    (apart : source.pod ≠ target.pod) (group member : Fin (k / 2)) :
    ∃ fabric frame, frame.dst = target.pmac ∧
      Carries (handle getAddress) (Plain getAddress ip) (start getAddress) fabric
        ((Link.aggregationCore group member target.pod).get 0, frame) := by
  have half : k / 2 ≤ 256 := by omega
  have upstream : (SwitchId.aggregation source.pod group).upstream target = true := by
    simp [SwitchId.upstream, ofNat_pod_ne fits apart]
  rcases exists_climbing fits named clear distinct apart group with
    ⟨fabric, frame, toTarget, climbing⟩
  have facts := transit_of_plain fits named climbing
  have up := handle_up_of_passes facts.1 toTarget source.pod group source.position
    (clear.passesAt facts.2 toTarget (clear _ _ _ rfl target) _) { rand := member }
  rw [upstream, if_pos rfl, octet_draw half] at up
  have atCore := climbing.hop up (List.mem_singleton.mpr rfl)
  have facts' := transit_of_plain fits named atCore
  have core := handle_core_of_passes facts'.1 toTarget group member source.pod
    (clear.passesAt facts'.2 toTarget (clear _ _ _ rfl target) _) default
  rw [octet_of_le fits] at core
  exact ⟨_, frame, toTarget, atCore.hop core (List.mem_singleton.mpr rfl)⟩

/-- If it passes there, it comes to the edge switch of its destination. -/
theorem exists_arriving (fits : k ≤ 256) (named : ∀ device, getAddress device ≠ {})
    (clear : ClearBelow getAddress) (distinct : ip source ≠ ip target)
    (apart : source.pod ≠ target.pod) (group member : Fin (k / 2))
    (passes : getAddress ((Link.aggregationCore group member target.pod).get 0) ≠
      target.pmac) :
    ∃ fabric frame, frame.dst = target.pmac ∧
      Carries (handle getAddress) (Plain getAddress ip) (start getAddress) fabric
        ((Link.edgeAggregation target.pod group target.position).get 0, frame) := by
  have half : k / 2 ≤ 256 := by omega
  have downstream : (SwitchId.aggregation target.pod group).upstream target = false := by
    simp [SwitchId.upstream]
  rcases exists_descending fits named clear distinct apart group member with
    ⟨fabric, frame, toTarget, descending⟩
  have facts := transit_of_plain fits named descending
  have down := handle_down_of_passes facts.1 toTarget group member target.pod
    (clear.passesAt facts.2 toTarget passes _) default
  rw [downstream, if_neg Bool.false_ne_true, octet_octet, octet_of_le half] at down
  exact ⟨_, frame, toTarget, descending.hop down (List.mem_singleton.mpr rfl)⟩

end Climbing

end DataCenter.Portland
