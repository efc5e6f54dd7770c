import DataCenter.Foundation.Route
import DataCenter.Portland.Hops
import DataCenter.Portland.Traffic

/-! # Delivery to a registered host

A frame for a registered host climbs to some core switch and descends to that
host, whatever else is in flight and whatever is drawn. -/

namespace DataCenter.Portland

open Courier PortlandSwitchNetDevice

variable {k : Nat}

theorem FabricManager.isIPRegistered_learn {ι : Type} {manager : FabricManager ι}
    {ip : Ipv4Address} (registered : manager.isIPRegistered ip = true)
    (entry : Option PMACEntry) : (manager.learn entry).isIPRegistered ip = true := by
  cases entry with
  | none => exact registered
  | some added =>
      rcases (FabricManager.isIPRegistered_iff _ _).mp registered with ⟨pmac, held⟩
      rw [FabricManager.isIPRegistered_iff]
      by_cases same : added.ipAddress = ip
      · exact ⟨added.pmac, by
          rw [FabricManager.learn, Option.elim_some,
            FabricManager.getElem?_addPMACToTable, if_pos same]⟩
      · exact ⟨pmac, by
          rw [FabricManager.learn, Option.elim_some,
            FabricManager.getElem?_addPMACToTable, if_neg same, held]⟩

/-! ## The frame on its way -/

section Frames

variable (network : Addressing k) (source target : Host k) (frame : Frame)

/-- The frame between the edge switches of its source and of its target. -/
def carried : Frame :=
  ingressFrame (frame.metadata false) source.pmac target.pmac frame.packet

/-- The frame that the target gets. -/
def handedOver : Frame :=
  egressFrame ((carried source target frame).metadata false) (network.amac target)
    (carried source target frame).packet

variable {network source target frame}

@[simp] theorem carried_dst : (carried source target frame).dst = target.pmac := rfl

theorem carried_protocol : (carried source target frame).protocol = frame.protocol := by
  simp [carried, ingressFrame]

theorem readable_carried (readable : frame.Readable) :
    (carried source target frame).Readable := by
  rcases readable with ipv4 | ⟨header, parsed⟩
  · exact .inl (carried_protocol.trans ipv4)
  · apply Or.inr
    rw [carried, ingressFrame, rewrittenPacket]
    dsimp only
    split
    · exact ⟨_, Packet.peekArpHeader_ofArpHeader _ rfl rfl⟩
    · exact ⟨header, parsed⟩

end Frames

/-! ## The five hops -/

section Hops

variable {network : Addressing k} {fabric : Fabric (SwitchId k) (Device k)}
  {source target : Host k} {frame : Frame} {draw : Draw}

theorem handle_up_at_edge {heard : Host k → Prop} (knows : Knows network heard fabric)
    (sent : network.SentBy source frame)
    (destination : (frame.metadata false).dstIp = network.ip target)
    (isHeard : heard target) :
    handle network.hardware fabric (source.accessPort, frame) draw =
      some
        { system := fabric.registered source.edge source.accessPort frame.packet
            ((fabric.switches source.edge).newEntry (frame.metadata false)
              (UInt8.ofNat source.port))
          outputs :=
            [((Link.edgeAggregation source.pod
                (octet (if source.edge.upstream target
                  then Fin.draw source.position draw.rand
                  else octet target.port)) source.position).get 1,
              carried source target frame)] } := by
  have passes := passesAt_of_unclaimed knows.wired source.port_accessPort sent.dst
  have unsetIrrelevant := sent.readable.metadata_eq draw.unset
  have sourceIs := knows.sourcePmac_eq false sent
  have learned := knows.ingress sent false frame.packet (knows.wired.registered _ _ _ _)
  have resolved := learned.resolve_eq source.edge (.inl isHeard)
  simp only [Fabric.registered, Function.update_self, learn_withReceived,
    resolve_withReceived] at resolved
  rw [← destination] at resolved
  have output := knows.wired.outPort_edge source.pod source.position draw.rand target
  rw [handle_ingress_resolved knows.wired source.port_accessPort rfl passes
    (by rw [unsetIrrelevant, sourceIs]; exact source.pmac_ne_broadcast)
    (by rw [unsetIrrelevant]; exact resolved) target.pmac_ne_broadcast
    ((getOutputPort_learn _ _ _ _).trans output) (Int.natCast_nonneg _)]
  rw [unsetIrrelevant, sourceIs, toUInt8_natCast]
  have onward := onPort_edge_upper source.pod source.position
    (if (SwitchId.edge source.pod source.position).upstream target
      then Fin.draw source.position draw.rand else octet target.port)
    (carried source target frame)
  rw [carried] at onward
  simp only [Host.edge, onward]
  rfl

theorem handle_up_at_aggregation (wired : Wired network.hardware fabric)
    (toTarget : frame.dst = target.pmac) (i : Fin k) (j h : Fin (k / 2)) :
    handle network.hardware fabric ((Link.edgeAggregation i j h).get 1, frame) draw =
      some
        { system := fabric.counted (.aggregation i j) ((Link.edgeAggregation i j h).get 1)
            frame.packet
          outputs :=
            [((Link.aggregationCore j
                (octet (if (SwitchId.aggregation i j).upstream target
                  then Fin.draw j draw.rand
                  else octet target.position)) i).get 1, frame)] } := by
  have port : ((Link.edgeAggregation i j h).get 1).port =
      some (.aggregation i j, false, h.val) := rfl
  exact handle_up_of_passes wired toTarget i j h
    (passesAt_of_unclaimed wired port (toTarget ▸ network.unclaimed_pmac target)) draw

theorem handle_at_core (wired : Wired network.hardware fabric)
    (toTarget : frame.dst = target.pmac) (i j : Fin (k / 2)) (h : Fin k) :
    handle network.hardware fabric ((Link.aggregationCore i j h).get 1, frame) draw =
      some
        { system := fabric.counted (.core i j) ((Link.aggregationCore i j h).get 1)
            frame.packet
          outputs :=
            [((Link.aggregationCore i j (octet target.pod)).get 0, frame)] } := by
  have port :
      ((Link.aggregationCore i j h).get 1).port = some (.core i j, false, h.val) := rfl
  exact handle_core_of_passes wired toTarget i j h
    (passesAt_of_unclaimed wired port (toTarget ▸ network.unclaimed_pmac target)) draw

theorem handle_down_at_aggregation (wired : Wired network.hardware fabric)
    (toTarget : frame.dst = target.pmac) (i j : Fin (k / 2)) (h : Fin k) :
    handle network.hardware fabric ((Link.aggregationCore i j h).get 0, frame) draw =
      some
        { system := fabric.counted (.aggregation h i) ((Link.aggregationCore i j h).get 0)
            frame.packet
          outputs :=
            [((Link.edgeAggregation h i
                (octet (if (SwitchId.aggregation h i).upstream target
                  then Fin.draw i draw.rand
                  else octet target.position))).get 0, frame)] } := by
  have port : ((Link.aggregationCore i j h).get 0).port =
      some (.aggregation h i, true, j.val) := rfl
  exact handle_down_of_passes wired toTarget i j h
    (passesAt_of_unclaimed wired port (toTarget ▸ network.unclaimed_pmac target)) draw

theorem handle_down_at_edge (wired : Wired network.hardware fabric)
    (toTarget : frame.dst = target.pmac) (i : Fin k) (j h : Fin (k / 2))
    (known : (fabric.switches (.edge i h)).table.findAMACOfPmac target.pmac ≠
      .getBroadcast) :
    handle network.hardware fabric ((Link.edgeAggregation i j h).get 0, frame) draw =
      some
        { system := fabric.counted (.edge i h) ((Link.edgeAggregation i j h).get 0)
            frame.packet
          outputs :=
            [((Link.hostEdge i h
                (octet (if (SwitchId.edge i h).upstream target then Fin.draw h draw.rand
                  else octet target.port))).get 0,
              egressFrame (frame.metadata draw.unset)
                ((fabric.switches (.edge i h)).table.findAMACOfPmac target.pmac)
                frame.packet)] } := by
  have port :
      ((Link.edgeAggregation i j h).get 0).port = some (.edge i h, true, j.val) := rfl
  have passes :=
    passesAt_of_unclaimed wired port (toTarget ▸ network.unclaimed_pmac target)
  have output := wired.outPort_edge i h draw.rand target
  rw [← toTarget] at output known
  rw [handle_egress wired port rfl passes (toTarget ▸ target.pmac_ne_broadcast) known
    output, toUInt8_natCast, onPort_edge_lower, toTarget]

end Hops

/-! ## The course -/

/-- Where the frame is, by the number of hops that lie ahead of it. -/
inductive OnCourse (network : Addressing k) (source target : Host k) (frame : Frame) :
    Nat → Message k → Prop where
  | sent : OnCourse network source target frame 5 (source.accessPort, frame)
  | climbing (a : Fin (k / 2)) : OnCourse network source target frame 4
      ((Link.edgeAggregation source.pod a source.position).get 1,
        carried source target frame)
  | atCore (a c : Fin (k / 2)) : OnCourse network source target frame 3
      ((Link.aggregationCore a c source.pod).get 1, carried source target frame)
  | descending (a c : Fin (k / 2)) : OnCourse network source target frame 2
      ((Link.aggregationCore a c target.pod).get 0, carried source target frame)
  | arriving (a : Fin (k / 2)) : OnCourse network source target frame 1
      ((Link.edgeAggregation target.pod a target.position).get 0,
        carried source target frame)
  | arrived : OnCourse network source target frame 0
      (target.device, handedOver network source target frame)

theorem registered_after {network : Addressing k}
    {fabric next : Fabric (SwitchId k) (Device k)}
    (wired : Wired network.hardware fabric) {visit : Visit (Message k) Draw (Delivery k)}
    (makes : Makes (handle network.hardware) fabric visit next) {ip : Ipv4Address}
    (registered : fabric.manager.isIPRegistered ip = true) :
    next.manager.isIPRegistered ip = true := by
  cases port : visit.parcel.content.1.port with
  | none =>
      rcases makes_at_host makes port with ⟨host, -, rfl, -, -⟩
      exact registered
  | some place =>
      rcases place with ⟨id, fromUpper, index⟩
      have system := handle_system wired port makes
      simp only at system
      rw [system]
      exact FabricManager.isIPRegistered_learn registered _

section Course

variable {network : Addressing k} {past : List (Visit (Message k) Draw (Delivery k))}
  {fabric : Fabric (SwitchId k) (Device k)} {source target : Host k} {frame : Frame}

/-- The edge switch of a registered host translates its PMAC. -/
theorem Knows.findAMACOfPmac_eq {heard : Host k → Prop}
    (knows : Knows network heard fabric)
    (fits : k ≤ 512) {host : Host k} (isHeard : heard host) :
    (fabric.switches host.edge).table.findAMACOfPmac host.pmac = network.amac host :=
  PMACTable.findAMACOfPmac_of_getElem? (knows.stored fits host isHeard)

/-- Every hop is possible, whatever is drawn, and leads one stage further. -/
theorem OnCourse.advance (fits : k ≤ 256) (sent : network.SentBy source frame)
    (destination : (frame.metadata false).dstIp = network.ip target)
    (knows : Knows network (HeardIn past) fabric)
    (registered : fabric.manager.isIPRegistered (network.ip target) = true)
    {remaining : Nat} {message : Message k}
    (course : OnCourse network source target frame (remaining + 1) message)
    (draw : Draw) :
    ∃ next output, handle network.hardware fabric message draw =
        some { system := next, outputs := [output] } ∧
      next.manager.isIPRegistered (network.ip target) = true ∧
      OnCourse network source target frame remaining output := by
  have half : k / 2 ≤ 256 := by omega
  have isHeard := (knows.isIPRegistered_iff target).mp registered
  have counted (id : SwitchId k) (device : Device k) (packet : Packet) :
      (fabric.counted id device packet).manager.isIPRegistered (network.ip target) =
        true :=
    registered
  cases course with
  | sent =>
      exact ⟨_, _, handle_up_at_edge knows sent destination isHeard,
        FabricManager.isIPRegistered_learn registered _, .climbing _⟩
  | climbing a =>
      exact ⟨_, _, handle_up_at_aggregation knows.wired carried_dst _ _ _, counted _ _ _,
        .atCore _ _⟩
  | atCore a c =>
      refine ⟨_, _, handle_at_core knows.wired carried_dst _ _ _, counted _ _ _, ?_⟩
      rw [octet_of_le fits]
      exact .descending a c
  | descending a c =>
      refine ⟨_, _, handle_down_at_aggregation knows.wired carried_dst _ _ _,
        counted _ _ _, ?_⟩
      have downstream : (SwitchId.aggregation target.pod a).upstream target = false := by
        simp [SwitchId.upstream]
      rw [downstream, if_neg Bool.false_ne_true, octet_octet, octet_of_le half]
      exact .arriving a
  | arriving a =>
      have amac := knows.findAMACOfPmac_eq (by omega) isHeard
      rw [Host.edge] at amac
      have known :
          (fabric.switches (.edge target.pod target.position)).table.findAMACOfPmac
          target.pmac ≠ .getBroadcast := by
        rw [amac]
        exact network.amac_ne_broadcast target
      refine ⟨_, _, handle_down_at_edge knows.wired carried_dst _ _ _ known,
        counted _ _ _, ?_⟩
      have downstream : (SwitchId.edge target.pod target.position).upstream target =
          false := by
        simp [SwitchId.upstream]
      rw [downstream, if_neg Bool.false_ne_true, octet_octet, octet_of_le half, amac,
        (readable_carried sent.readable).metadata_eq]
      exact .arrived

/-- The course of a frame for a registered host. -/
def course (fits : k ≤ 256) (sent : network.SentBy source frame)
    (destination : (frame.metadata false).dstIp = network.ip target) :
    Route (hostTraffic network) (handle network.hardware) where
  stage remaining fabric message :=
    fabric.manager.isIPRegistered (network.ip target) = true ∧
      OnCourse network source target frame remaining message
  goal := (target, handedOver network source target frame)
  stage_after legal _ _ stage :=
    ⟨registered_after legal.good.wired legal.makes stage.1, stage.2⟩
  advance good stage choice :=
    stage.2.advance fits sent destination good stage.1 choice
  arrive := by
    intro past fabric message good legal choice
    rcases legal with ⟨registered, atTarget⟩
    cases atTarget
    exact ⟨fabric, handle_host target.node_device⟩

/-- From the edge switch of its source on, a frame for a registered host is
delivered exactly once: to that host, after five switches. -/
theorem delivered_of_registered (fits : k ≤ 256)
    {state : Courier.State (Fabric (SwitchId k) (Device k)) (Message k) Draw (Delivery k)}
    (holds : (hostTraffic network).Holds state) {tag : Nat}
    (unspent : Unspent state tag (source.accessPort, frame))
    (sent : network.SentBy source frame)
    (destination : (frame.metadata false).dstIp = network.ip target)
    (registered : state.system.manager.isIPRegistered (network.ip target) = true) :
    ExactlyOnce (handle network.hardware) network.FromHost state tag
      { tag, hops := 5, content := (target, handedOver network source target frame) } :=
  (course fits sent destination).exactlyOnce (hostTraffic_kept network) holds unspent
    ⟨registered, .sent⟩

end Course

/-! ## IPv4 -/

section Unicast

variable {network : Addressing k} {source target : Host k} {frame : Frame}

/-- Edge switches leave the payload of an IPv4 frame alone. -/
theorem handedOver_of_ipv4 (ipv4 : frame.protocol = ipv4Protocol) :
    handedOver network source target frame =
      { packet := frame.packet, src := source.pmac, dst := network.amac target,
        protocol := frame.protocol } := by
  have notArp : ¬ ipv4Protocol = arpProtocol := by decide
  have packet : (carried source target frame).packet = frame.packet := by
    simp [carried, ingressFrame, rewrittenPacket, ipv4, notArp]
  have src : (carried source target frame).src = source.pmac := rfl
  simp [handedOver, egressFrame, rewrittenPacket, packet, src, carried_protocol, ipv4,
    notArp]

/-- An IPv4 frame for a registered IP is delivered exactly once, to the host
with that IP, after five switches, from the PMAC of its sender to the AMAC of that
host and with its payload as sent. -/
theorem unicast_delivered_exactly_once (fits : k ≤ 256)
    {state : Courier.State (Fabric (SwitchId k) (Device k)) (Message k) Draw (Delivery k)}
    (reached : (step (handle network.hardware)).Reachable
      (Event.Permitted network.FromHost) (start network.hardware) state)
    (registered : state.system.manager.isIPRegistered (network.ip target) = true)
    (sent : network.SentBy source frame) (ipv4 : frame.protocol = ipv4Protocol)
    (destination : frame.packet.peekIpv4Header.destination = network.ip target) :
    ExactlyOnce (handle network.hardware) network.FromHost
      (state.post (source.accessPort, frame)) state.sent
      { tag := state.sent
        hops := 5
        content := (target,
          { packet := frame.packet, src := source.pmac, dst := network.amac target,
            protocol := frame.protocol }) } := by
  have kept := hostTraffic_kept network
  have holds := kept.holds_of_reachable (hostTraffic_start network) reached
  have fromHost : network.FromHost (source.accessPort, frame) := ⟨source, rfl, sent⟩
  have posts : (Event.send (source.accessPort, frame) : Event (Message k) Draw).Permitted
      network.FromHost := fromHost
  have read : (frame.metadata false).dstIp = network.ip target := by
    rw [Frame.metadata_of_ipv4 ipv4]
    exact destination
  rw [← handedOver_of_ipv4 ipv4]
  exact delivered_of_registered fits (kept.holds_step holds posts rfl)
    (holds.tagged.unspent_post _) sent read registered

end Unicast

/-- In the network of four pods, a datagram from one pod to another. -/
theorem unicast_delivered_exactly_once_across :
    let network := Addressing.numbered 4 (by norm_num)
    let source : Host 4 := ⟨0, 0, 0⟩
    let target : Host 4 := ⟨3, 1, 1⟩
    let frame := network.datagram source target.pmac (network.ip target)
    ∃ state, (step (handle network.hardware)).Reachable (Event.Permitted network.FromHost)
        (start network.hardware) state ∧
      state.system.manager.isIPRegistered (network.ip target) = true ∧
      ExactlyOnce (handle network.hardware) network.FromHost
        (state.post (source.accessPort, frame)) state.sent
        { tag := state.sent
          hops := 5
          content := (target,
            { packet := frame.packet, src := source.pmac, dst := network.amac target,
              protocol := frame.protocol }) } := by
  intro network source target frame
  have unclaimed : network.Unclaimed .getBroadcast :=
    Addressing.numbered_unclaimed_broadcast _ _
  rcases first_frame_wins (network.sentBy_sendArpRequest source unclaimed ⟨7⟩)
    (network.sentBy_sendArpRequest target unclaimed ⟨7⟩) with ⟨state, reached, heard, -⟩
  have holds :=
    (hostTraffic_kept network).holds_of_reachable (hostTraffic_start network) reached
  have knows : Knows network (HeardIn state.visits) state.system := holds.good
  have registered := (knows.isIPRegistered_iff target).mpr ((heard target).mpr (.inr rfl))
  refine ⟨state, reached, registered, unicast_delivered_exactly_once (by norm_num) reached
    registered (network.sentBy_datagram source (network.unclaimed_pmac target) _) rfl ?_⟩
  have read := peekIpv4Header_ipv4Packet (network.ip source) (network.ip target)
  exact congrArg Ipv4Header.destination read

end DataCenter.Portland
