import DataCenter.Portland.Hops
import DataCenter.Portland.Traffic

/-! # The reach of a flood

The core switches send the manager's request to every pod, but an aggregation
switch treats it as a frame that has to go up: it draws one port, and sends the
request down on it. -/

namespace DataCenter.Portland

open Courier PortlandSwitchNetDevice

variable {k : Nat}

/-! ## Frames of a flood -/

/-- A frame for everyone that carries the request. -/
structure IsFlood (request : ARPFloodRequest) (frame : Frame) : Prop where
  packet : frame.packet = (floodFrame request).packet
  dst : frame.dst = .getBroadcast
  protocol : frame.protocol = arpProtocol

section Handlings

variable {getAddress : Device k → Mac48Address}
  {fabric next : Fabric (SwitchId k) (Device k)}
  {visit : Visit (Message k) Draw (Delivery k)} {request : ARPFloodRequest}

theorem passesAt_of_broadcast (id : SwitchId k) (device : Device k) {frame : Frame}
    (broadcast : frame.dst = .getBroadcast) :
    PassesAt getAddress fabric id device frame := by
  have everyone : classify (getAddress device) frame.dst = .broadcast := by
    simp [classify, broadcast, Mac48Address.isBroadcast]
  rw [PassesAt, everyone]
  simp [Passes]

/-- No pod has the number that the broadcast address stands for. -/
theorem Wired.outPort_broadcast (wired : Wired getAddress fabric) (pod : Fin k)
    (position : Fin (k / 2)) (rand : Nat) :
    (fabric.switches (.aggregation pod position)).getOutputPort rand .getBroadcast =
      .ok ((Fin.draw position rand).val : Int) := by
  have isAggregation :
      (fabric.switches (.aggregation pod position)).deviceType = .aggregation :=
    wired.deviceType _
  rw [getOutputPort_broadcast isAggregation]
  exact wired.randomUpperPort_eq _ (by simp [SwitchId.deviceType]) position rand

/-- An aggregation switch sends the request to one edge switch of its pod. -/
theorem outputs_at_aggregation (wired : Wired getAddress fabric)
    (makes : Makes (handle getAddress) fabric visit next)
    (flood : IsFlood request visit.parcel.content.2) {a c : Fin (k / 2)} {pod : Fin k}
    (arrives : visit.parcel.content.1 = (Link.aggregationCore a c pod).get 0) :
    visit.outputs =
      [((Link.edgeAggregation pod a (octet (Fin.draw a visit.choice.rand))).get 0,
      visit.parcel.content.2)] := by
  have port : visit.parcel.content.1.port = some (.aggregation pod a, true, c.val) := by
    rw [arrives]
    rfl
  have output : (fabric.switches (.aggregation pod a)).getOutputPort visit.choice.rand
      visit.parcel.content.2.dst = .ok ((Fin.draw a visit.choice.rand).val : Int) := by
    rw [flood.dst]
    exact wired.outPort_broadcast pod a visit.choice.rand
  have forwarded := handle_forward wired port (passesAt_of_broadcast _ _ flood.dst)
    (.inl ⟨rfl, rfl⟩) output
  have same := forwarded.symm.trans makes
  simp only [Option.some.injEq, Handling.mk.injEq] at same
  rw [← same.2.1, toUInt8_natCast]
  exact onPort_aggregation_lower pod a _ _

section AtEdge

variable {pod : Fin k} {a position : Fin (k / 2)}

theorem outputs_at_edge (wired : Wired getAddress fabric)
    (makes : Makes (handle getAddress) fabric visit next)
    (flood : IsFlood request visit.parcel.content.2)
    (arrives : visit.parcel.content.1 = (Link.edgeAggregation pod a position).get 0) :
    visit.outputs = transmissions (((fabric.switches (.edge pod position)).withReceived
        visit.parcel.content.1 visit.parcel.content.2.packet).broadcastToLower
          (fun _ => true)
      visit.parcel.content.2.packet (visit.parcel.content.2.metadata visit.choice.unset)
      (List.range (SwitchId.edge pod position).lower.length)) := by
  have port : visit.parcel.content.1.port = some (.edge pod position, true, a.val) := by
    rw [arrives]
    rfl
  have broadcast : handle getAddress fabric visit.parcel.content visit.choice = some _ :=
    handle_broadcast wired port rfl (passesAt_of_broadcast _ _ flood.dst) flood.dst
  have same := broadcast.symm.trans makes
  simp only [Option.some.injEq, Handling.mk.injEq] at same
  exact same.2.1.symm

theorem isFlood_broadcastFrame {frame : Frame} (flood : IsFlood request frame)
    (unset : Bool) (src : Mac48Address) :
    IsFlood request (broadcastFrame (frame.metadata unset) frame.packet src) where
  packet := flood.packet
  dst := by
    rw [broadcastFrame, metadataFromPacket_dstPmac]
    exact flood.dst
  protocol := by
    rw [broadcastFrame, metadataFromPacket_protocolNumber]
    exact flood.protocol

theorem Device.eq_of_peer {device other : Device k} (same : device.peer = other) :
    device = other.peer := by
  rw [← same, Device.peer_peer]

/-- An edge switch sends the request to hosts of its own. -/
theorem host_of_output_at_edge (wired : Wired getAddress fabric)
    (makes : Makes (handle getAddress) fabric visit next)
    (flood : IsFlood request visit.parcel.content.2)
    (arrives : visit.parcel.content.1 = (Link.edgeAggregation pod a position).get 0)
    {output : Message k} (member : output ∈ visit.outputs) :
    ∃ host : Host k, output.1 = host.device ∧ host.edge = .edge pod position ∧
      IsFlood request output.2 := by
  rw [outputs_at_edge wired makes flood arrives] at member
  rcases mem_broadcastOutputs wired member with ⟨i, -, src, -, onLower⟩
  rcases mem_onPort.mp onLower with ⟨carried, port⟩
  rcases Host.exists_accessPort port rfl with ⟨host, atPort⟩
  refine ⟨host, Device.eq_of_peer atPort, ?_, ?_⟩
  · rw [atPort, Host.port_accessPort] at port
    simp only [Option.some.injEq, Prod.mk.injEq] at port
    exact port.1
  · rw [carried]
    exact isFlood_broadcastFrame flood _ src

/-- If an octet tells its ports apart, it sends the request to all of them. -/
theorem exists_output_at_edge (fits : k ≤ 256) (wired : Wired getAddress fabric)
    (makes : Makes (handle getAddress) fabric visit next)
    (flood : IsFlood request visit.parcel.content.2) (host : Host k)
    (arrives : visit.parcel.content.1 =
      (Link.edgeAggregation host.pod a host.position).get 0) :
    ∃ frame, (host.device, frame) ∈ visit.outputs ∧ IsFlood request frame := by
  have inRange : host.port.val ∈
      List.range (SwitchId.edge host.pod host.position).lower.length := by
    rw [List.mem_range]
    simp [SwitchId.lower]
  have port : ((SwitchId.edge host.pod host.position).side false)[
      (UInt8.ofNat host.port.val).toNat]? = some host.accessPort := by
    have bound := host.port.isLt
    rw [UInt8.toNat_ofNat_of_lt' (by simp only [UInt8.size]; omega)]
    exact Device.side_of_port host.port_accessPort
  rcases exists_mem_broadcastOutputs wired visit.parcel.content.1
    visit.parcel.content.2.packet
    (visit.parcel.content.2.metadata visit.choice.unset) inRange port with ⟨src, sends⟩
  rw [outputs_at_edge wired makes flood arrives]
  exact ⟨_, sends, isFlood_broadcastFrame flood _ src⟩

end AtEdge

/-- The lower ports of a core switch lead to the pods. -/
theorem exists_pod_of_port {device : Device k} {a c : Fin (k / 2)} {index : Nat}
    (port : device.port = some (.core a c, false, index)) :
    ∃ pod : Fin k, device = (Link.aggregationCore a c pod).get 1 ∧ index = pod.val := by
  rcases exists_of_getElem?_map_finRange (Device.side_of_port port) with ⟨bound, rfl⟩
  exact ⟨⟨index, bound⟩, rfl, rfl⟩

/-- The core switches send the request to the pods whose number is an octet. -/
theorem mem_floodOutputs_iff (wired : Wired getAddress fabric) {frame : Frame}
    {message : Message k} :
    message ∈ floodOutputs fabric.manager.switches frame ↔ message.2 = frame ∧
      ∃ a c pod, pod.val < 256 ∧ message.1 = (Link.aggregationCore a c pod).get 0 := by
  rw [mem_floodOutputs]
  constructor
  · intro sent
    rcases sent with ⟨id, -, isCore, i, -, onCore⟩
    rcases mem_onPort.mp onCore with ⟨carried, port⟩
    cases id with
    | edge pod position => cases isCore
    | aggregation pod position => cases isCore
    | core a c =>
        rcases exists_pod_of_port port with ⟨pod, place, number⟩
        refine ⟨carried, a, c, pod, ?_, Device.eq_of_peer place⟩
        rw [← number]
        exact UInt8.toNat_lt _
  · intro place
    rcases place with ⟨carried, a, c, pod, small, arrives⟩
    refine ⟨.core a c, wired.member _, rfl, pod.val, ?_, ?_⟩
    · simp [SwitchId.lower]
    · rw [mem_onPort, UInt8.toNat_ofNat_of_lt' small, arrives]
      exact ⟨carried, rfl⟩

end Handlings

/-! ## A flood in a run -/

section Runs

variable {getAddress : Device k → Mac48Address}
  {state final : Courier.State (Fabric (SwitchId k) (Device k)) (Message k) Draw
    (Delivery k)}
  {tag : Nat} {message : Message k} {events : List (Event (Message k) Draw)}

/-- A message that caused a flood, with what has come of it. -/
structure FloodRun (getAddress : Device k → Mac48Address)
    (final : Courier.State (Fabric (SwitchId k) (Device k)) (Message k) Draw (Delivery k))
    (tag : Nat) (message : Message k) (request : ARPFloodRequest) : Prop where
  trail : Trail (wiring getAddress) (handle getAddress) final tag message
  fromHost : message.1.rank = 5
  root : ∀ visit ∈ final.visitsOf tag, visit.parcel.hops = 0 → ∀ output : Message k,
    output ∈ visit.outputs ↔ output.2 = floodFrame request ∧
      ∃ a c pod, pod.val < 256 ∧ output.1 = (Link.aggregationCore a c pod).get 0

/-- Where the request can be after a number of hops. -/
def FloodAt (message : Message k) (request : ARPFloodRequest) : Nat → Message k → Prop
  | 0, place => place = message
  | 1, place => IsFlood request place.2 ∧
      ∃ a c pod, pod.val < 256 ∧ place.1 = (Link.aggregationCore a c pod).get 0
  | 2, place => IsFlood request place.2 ∧
      ∃ pod a position, place.1 = (Link.edgeAggregation pod a position).get 0
  | 3, place => IsFlood request place.2 ∧ ∃ host : Host k, place.1 = host.device
  | _ + 4, _ => False

@[simp] theorem Frame.metadata_dstIp (frame : Frame) (unset : Bool) :
    (frame.metadata unset).dstIp = (frame.metadata false).dstIp := by
  unfold Frame.metadata metadataFromPacket
  dsimp only
  split
  · rfl
  · split <;> rfl

theorem rank_of_flooded {past : List (Visit (Message k) Draw (Delivery k))}
    {fabric next : Fabric (SwitchId k) (Device k)}
    {visit : Visit (Message k) Draw (Delivery k)}
    (legal : (wiring getAddress).Legal (handle getAddress) past fabric visit next)
    (flooded : Flooded visit) : visit.parcel.content.1.rank = 5 := by
  cases spread_of_legal legal with
  | delivers ground outputs deliveries => simp [Flooded, outputs] at flooded
  | forwards descends single own deliveries => exact absurd flooded own
  | broadcasts last toHosts few own deliveries => exact absurd flooded own
  | floods first fromCore bounded flooded' deliveries => exact first

theorem exists_floodRun (holds : (wiring getAddress).Holds state)
    (unspent : Unspent state tag message)
    (ran : (step (handle getAddress)).run state events = some final)
    (flooded : ∃ visit ∈ final.visitsOf tag, Flooded visit) :
    ∃ request : ARPFloodRequest, request.destIPAddress =
      (message.2.metadata false).dstIp ∧
      FloodRun getAddress final tag message request := by
  have allowed : ∀ event ∈ events, event.Permitted fun _ : Message k => True := by
    intro event _
    cases event <;> trivial
  have trail :=
    Trail.after_run (wiring_kept getAddress fun _ => True) holds unspent.trail allowed ran
  have once := rootCount_run unspent ran
  rcases flooded with ⟨visit, member, flooded⟩
  rcases trail.legal visit member with ⟨past, system, next, legal⟩
  have rank := rank_of_flooded legal flooded
  have isRoot : visit.parcel = { tag, hops := 0, content := message } := by
    rcases (trail.appeared_iff visit.parcel).mp (.inr ⟨visit, member, rfl⟩) with
      same | ⟨other, otherMember, forwarded⟩
    · exact same
    · rcases trail.legal other otherMember with ⟨_, _, _, otherLegal⟩
      have lower :=
        (spread_of_legal otherLegal).rank_lt _ (Visit.mem_forwarded.mp forwarded).2.2
      have limit := other.parcel.content.1.rank_le
      omega
  rcases (flood_of_flooded legal.good legal.makes flooded).2 with
    ⟨request, destination, outputs⟩
  rw [isRoot] at destination rank
  refine ⟨request, by simpa using destination, trail, rank, ?_⟩
  intro root rootMember unmoved output
  have same : root = visit :=
    visit_eq_of_hops once rootMember unmoved member (by rw [isRoot])
  rw [same, outputs, mem_floodOutputs_iff legal.good]

namespace FloodRun

variable {request : ARPFloodRequest}

theorem floodAt (run : FloodRun getAddress final tag message request)
    {parcel : Parcel (Message k)} (appeared : Appeared final tag parcel) :
    FloodAt message request parcel.hops parcel.content := by
  apply run.trail.induction (rfl : FloodAt message request 0 message) _ appeared
  intro visit member carried output sent
  rcases run.trail.legal visit member with ⟨past, system, next, legal⟩
  have root := run.root visit member
  generalize visit.parcel.hops = hops at carried root
  match hops with
  | 0 =>
      rcases (root rfl output).mp sent with ⟨same, place⟩
      exact ⟨⟨by rw [same], by rw [same]; rfl, by rw [same]; rfl⟩, place⟩
  | 1 =>
      rcases carried with ⟨flood, a, c, pod, -, arrives⟩
      rw [outputs_at_aggregation legal.good legal.makes flood arrives, List.mem_singleton]
        at sent
      rw [sent]
      exact ⟨flood, pod, a, _, rfl⟩
  | 2 =>
      rcases carried with ⟨flood, pod, a, position, arrives⟩
      rcases host_of_output_at_edge legal.good legal.makes flood arrives sent with
        ⟨host, atHost, -, still⟩
      exact ⟨still, host, atHost⟩
  | 3 =>
      rcases carried with ⟨-, host, atHost⟩
      have noPort : visit.parcel.content.1.port = none := by
        rw [atHost]
        rfl
      rcases makes_at_host legal.makes noPort with ⟨-, -, -, outputs, -⟩
      rw [outputs] at sent
      cases sent

end FloodRun

/-- A host has got an ARP request for an IP. -/
def Asked
    (final : Courier.State (Fabric (SwitchId k) (Device k)) (Message k) Draw (Delivery k))
    (tag : Nat) (ip : Ipv4Address) (host : Host k) : Prop :=
  ∃ parcel ∈ final.received tag, parcel.content.1 = host ∧
    parcel.content.2.protocol = arpProtocol ∧
    ∃ header, parcel.content.2.packet.peekArpHeader = some header ∧
      header.isRequest = true ∧ header.ipv4Dest = ip

/-- Some aggregation switch of the pod has drawn the position. -/
def Drawn
    (final : Courier.State (Fabric (SwitchId k) (Device k)) (Message k) Draw (Delivery k))
    (tag : Nat) (pod : Fin k) (position : Fin (k / 2)) : Prop :=
  ∃ visit ∈ final.visitsOf tag, ∃ a c,
    visit.parcel.content.1 = (Link.aggregationCore a c pod).get 0 ∧
      visit.choice.rand % (k / 2) = position

namespace FloodRun

variable {request : ARPFloodRequest}

/-- Below the edge ports, the place of a request tells its hops. -/
theorem hops_of_rank (run : FloodRun getAddress final tag message request)
    {parcel : Parcel (Message k)} (appeared : Appeared final tag parcel) {rank : Nat}
    (place : parcel.content.1.rank = rank) (below : rank ≤ 2) :
    parcel.hops = 3 - rank := by
  have carried := run.floodAt appeared
  have first := run.fromHost
  generalize parcel.hops = hops at carried ⊢
  match hops with
  | 0 =>
      rw [carried, first] at place
      omega
  | 1 =>
      rcases carried with ⟨-, a, c, pod, -, arrives⟩
      rw [← place, arrives]
      rfl
  | 2 =>
      rcases carried with ⟨-, pod, a, position, arrives⟩
      rw [← place, arrives]
      rfl
  | 3 =>
      rcases carried with ⟨-, host, atHost⟩
      rw [← place, atHost]
      rfl

/-- What has made a hop was sent on by a handling. -/
theorem exists_sender (run : FloodRun getAddress final tag message request)
    {parcel : Parcel (Message k)} (appeared : Appeared final tag parcel)
    (hopped : parcel.hops ≠ 0) :
    ∃ visit ∈ final.visitsOf tag, parcel.hops = visit.parcel.hops + 1 ∧
      parcel.content ∈ visit.outputs := by
  rcases (run.trail.appeared_iff parcel).mp appeared with
    same | ⟨visit, member, forwarded⟩
  · rw [same] at hopped
    exact absurd rfl hopped
  · rcases Visit.mem_forwarded.mp forwarded with ⟨-, hops, output⟩
    exact ⟨visit, member, hops, output⟩

theorem exists_delivering (run : FloodRun getAddress final tag message request)
    {ip : Ipv4Address} {host : Host k} (asked : Asked final tag ip host) :
    ∃ visit ∈ final.visitsOf tag, visit.parcel.content.1 = host.device := by
  rcases asked with ⟨parcel, received, atHost, -⟩
  rw [run.trail.received] at received
  rcases List.mem_flatMap.mp received with ⟨visit, member, handed⟩
  rcases List.mem_map.mp handed with ⟨delivery, delivered, rfl⟩
  rcases run.trail.legal visit member with ⟨past, system, next, legal⟩
  refine ⟨visit, member, ?_⟩
  cases port : visit.parcel.content.1.port with
  | none =>
      rcases makes_at_host legal.makes port with ⟨other, atOther, -, -, deliveries⟩
      rw [deliveries, List.mem_singleton] at delivered
      rw [delivered] at atHost
      have same : other = host := atHost
      rw [atOther, same]
  | some place =>
      rcases place with ⟨id, fromUpper, index⟩
      rw [(fate_of_legal legal port).2] at delivered
      cases delivered

/-- A host that has been asked owes it to a draw of its position. -/
theorem drawn_of_asked (run : FloodRun getAddress final tag message request)
    {ip : Ipv4Address} {host : Host k} (asked : Asked final tag ip host) :
    host.pod.val < 256 ∧ ∃ visit ∈ final.visitsOf tag, ∃ a c,
      visit.parcel.content.1 = (Link.aggregationCore a c host.pod).get 0 ∧
        octet (Fin.draw a visit.choice.rand) = host.position := by
  rcases run.exists_delivering asked with ⟨last, lastMember, atHost⟩
  have lastAppeared : Appeared final tag last.parcel := .inr ⟨last, lastMember, rfl⟩
  have ground : last.parcel.content.1.rank = 0 := by
    rw [atHost]
    rfl
  have lastHops := run.hops_of_rank lastAppeared ground (by omega)
  rcases run.exists_sender lastAppeared (by omega) with
    ⟨second, secondMember, hops, toHost⟩
  have secondAppeared : Appeared final tag second.parcel :=
    .inr ⟨second, secondMember, rfl⟩
  have secondHops : second.parcel.hops = 2 := by omega
  have secondAt := run.floodAt secondAppeared
  rw [secondHops] at secondAt
  rcases secondAt with ⟨flood, pod, a, position, atEdge⟩
  rcases run.trail.legal second secondMember with ⟨_, _, _, legal⟩
  rcases host_of_output_at_edge legal.good legal.makes flood atEdge toHost with
    ⟨other, atOther, edge, -⟩
  have sameHost : other = host := Host.device_injective (atOther.symm.trans atHost)
  rw [sameHost, Host.edge, SwitchId.edge.injEq] at edge
  rcases run.exists_sender secondAppeared (by omega) with
    ⟨first, firstMember, hops, toEdge⟩
  have firstAppeared : Appeared final tag first.parcel := .inr ⟨first, firstMember, rfl⟩
  have firstHops : first.parcel.hops = 1 := by omega
  have firstAt := run.floodAt firstAppeared
  rw [firstHops] at firstAt
  rcases firstAt with ⟨flood, a', c, pod', small, atAggregation⟩
  rcases run.trail.legal first firstMember with ⟨_, _, _, legal⟩
  rw [outputs_at_aggregation legal.good legal.makes flood atAggregation,
    List.mem_singleton] at toEdge
  have link := atEdge.symm.trans (congrArg Prod.fst toEdge)
  simp only [Link.get, Device.mk.injEq, Link.edgeAggregation.injEq, and_true] at link
  rcases link with ⟨rfl, rfl, drawn⟩
  refine ⟨edge.1 ▸ small, first, firstMember, a, c, ?_, ?_⟩
  · rw [atAggregation, edge.1]
  · rw [← drawn, edge.2]

/-- Once no copy is in flight, whatever was sent on was handled. -/
theorem exists_handled (run : FloodRun getAddress final tag message request)
    (quiet : final.copies tag = 0) {visit : Visit (Message k) Draw (Delivery k)}
    (member : visit ∈ final.visitsOf tag) {output : Message k}
    (sent : output ∈ visit.outputs) :
    ∃ later ∈ final.visitsOf tag, later.parcel.content = output := by
  have sameTag : visit.parcel.tag = tag := by
    simpa using (List.mem_filter.mp member).2
  have forwarded :
      ({ tag, hops := visit.parcel.hops + 1, content := output } : Parcel (Message k)) ∈
        visit.forwarded := Visit.mem_forwarded.mpr ⟨sameTag.symm, rfl, sent⟩
  rcases run.trail.exists_visit quiet (.inr ⟨visit, member, forwarded⟩) with
    ⟨later, laterMember, same⟩
  exact ⟨later, laterMember, by rw [same]⟩

/-- Where a position is drawn, its hosts are asked. -/
theorem asked_of_drawn (run : FloodRun getAddress final tag message request)
    (fits : k ≤ 256) (quiet : final.copies tag = 0) {host : Host k}
    (drawn : Drawn final tag host.pod host.position) :
    Asked final tag request.destIPAddress host := by
  rcases drawn with ⟨first, firstMember, a, c, atAggregation, draw⟩
  have half : k / 2 ≤ 256 := by omega
  have drawIs : octet (Fin.draw a first.choice.rand) = host.position := by
    rw [octet_of_le half]
    exact Fin.ext draw
  have firstAppeared : Appeared final tag first.parcel := .inr ⟨first, firstMember, rfl⟩
  have place : first.parcel.content.1.rank = 2 := by
    rw [atAggregation]
    rfl
  have flood := run.floodAt firstAppeared
  rw [run.hops_of_rank firstAppeared place le_rfl] at flood
  rcases run.trail.legal first firstMember with ⟨_, _, _, legal⟩
  have toEdge := outputs_at_aggregation legal.good legal.makes flood.1 atAggregation
  rw [drawIs] at toEdge
  rcases run.exists_handled quiet firstMember (toEdge ▸ List.mem_singleton_self _) with
    ⟨second, secondMember, atEdge⟩
  rcases run.trail.legal second secondMember with ⟨_, _, _, legal⟩
  have stillFlood : IsFlood request second.parcel.content.2 := by
    rw [atEdge]
    exact flood.1
  rcases exists_output_at_edge fits legal.good legal.makes stillFlood host
    (by rw [atEdge]) with
    ⟨frame, toHost, carries⟩
  rcases run.exists_handled quiet secondMember toHost with ⟨last, lastMember, atHost⟩
  rcases run.trail.legal last lastMember with ⟨_, _, _, legal⟩
  have noPort : last.parcel.content.1.port = none := by
    rw [atHost]
    rfl
  rcases makes_at_host legal.makes noPort with ⟨other, atOther, -, -, deliveries⟩
  have sameHost : other = host := by
    rw [atHost] at atOther
    exact Host.device_injective atOther.symm
  rw [sameHost, atHost] at deliveries
  refine ⟨{ tag := last.parcel.tag, hops := last.parcel.hops, content := (host, frame) },
    ?_, rfl,
    carries.protocol, .setRequest request.srcPMACAddress.convertTo request.srcIPAddress
      Mac48Address.getBroadcast.convertTo request.destIPAddress, ?_, rfl, rfl⟩
  · rw [run.trail.received]
    refine List.mem_flatMap.mpr
      ⟨last, lastMember, List.mem_map.mpr ⟨(host, frame), ?_, rfl⟩⟩
    rw [deliveries]
    exact List.mem_singleton_self _
  · simp only [carries.packet, floodFrame]
    exact Packet.peekArpHeader_ofArpHeader _ rfl rfl

end FloodRun

/-- In any state of the network, the hosts that a flood reaches are those whose
positions the aggregation switches of their pods draw: all hosts are asked for the IP
exactly if every pod draws every position. -/
theorem flood_asks_all_iff {fabric : Fabric (SwitchId k) (Device k)}
    (wired : Wired getAddress fabric) {permitted : Message k → Prop}
    (reached : (step (handle getAddress)).Reachable (Event.Permitted permitted)
      { system := fabric } state)
    (message : Message k)
    (ran : (step (handle getAddress)).run (state.post message) events = some final)
    (flooded : ∃ visit ∈ final.visitsOf state.sent, Flooded visit)
    (quiet : final.copies state.sent = 0) :
    (∀ host : Host k, Asked final state.sent (message.2.metadata false).dstIp host) ↔
      k ≤ 256 ∧ ∀ pod position, Drawn final state.sent pod position := by
  have before := (wiring_kept getAddress permitted).holds_of_reachable wired reached
  have sends : (Event.send message : Event (Message k) Draw).Permitted fun _ => True :=
    trivial
  have posted := (wiring_kept getAddress fun _ => True).holds_step before sends rfl
  rcases exists_floodRun posted (before.tagged.unspent_post message) ran flooded with
    ⟨request, destination, run⟩
  constructor
  · intro asked
    have half := message.1.half_pos
    have fits : k ≤ 256 := by
      by_contra large
      have outside :=
        (run.drawn_of_asked (asked ⟨⟨256, by omega⟩, ⟨0, half⟩, ⟨0, half⟩⟩)).1
      simp at outside
    refine ⟨fits, ?_⟩
    intro pod position
    rcases (run.drawn_of_asked (asked ⟨pod, position, ⟨0, half⟩⟩)).2 with
      ⟨visit, member, a, c, arrives, drawn⟩
    refine ⟨visit, member, a, c, arrives, ?_⟩
    rw [octet_of_le (by omega)] at drawn
    exact congrArg Fin.val drawn
  · intro both host
    rw [← destination]
    exact run.asked_of_drawn both.1 quiet (both.2 host.pod host.position)

end Runs

/-! ## A flood for a host that has not been heard -/

section FirstRequest

variable {network : Addressing k} {host : Host k} {frame : Frame}

/-- What a host sends first, for the IP of another, is flooded for. -/
theorem outputs_of_first_frame (sent : network.SentBy host frame)
    (elsewhere : (frame.metadata false).dstIp ≠ network.ip host) {draw : Draw}
    {handling : Handling (Fabric (SwitchId k) (Device k)) (Message k) (Delivery k)}
    (handled : handle network.hardware (portlandSetup network.hardware)
      (host.accessPort, frame) draw = some handling) :
    ∃ request, handling.outputs =
      floodOutputs (portlandSetup network.hardware).manager.switches
        (floodFrame request) := by
  have knows := knows_portlandSetup network
  have passes := passesAt_of_unclaimed knows.wired host.port_accessPort sent.dst
  let visit : Visit (Message k) Draw (Delivery k) :=
    { parcel := { tag := 0, hops := 0, content := (host.accessPort, frame) }
      choice := draw
      outputs := handling.outputs
      deliveries := handling.deliveries }
  have legal : (hostTraffic network).Legal (handle network.hardware) []
      (portlandSetup network.hardware) visit handling.system := by
    refine ⟨hostTraffic_start network, ⟨?_, ?_⟩, handled⟩
    · intro other atPort
      rw [← Host.accessPort_injective atPort]
      exact sent
    · intro noHost
      exact absurd rfl (noHost host)
  have unheard : ∀ other, HeardIn ([] ++ [visit]) other →
      (frame.metadata false).dstIp ≠ network.ip other := by
    intro other heard
    rcases heard with ⟨only, member, atPort⟩
    rw [List.nil_append, List.mem_singleton] at member
    rw [member] at atPort
    rw [← Host.accessPort_injective atPort]
    exact elsewhere
  have unresolved := (knows_after legal).resolve_eq_none host.edge unheard
  rw [(handle_ingress_cases knows.wired host.port_accessPort rfl passes handled).1,
    Fabric.registered] at unresolved
  simp only [Function.update_self, learn_withReceived, resolve_withReceived] at unresolved
  have source := host.pmac_ne_broadcast
  rw [← knows.sourcePmac_eq draw.unset sent] at source
  rw [← Frame.metadata_dstIp frame draw.unset] at unresolved
  rw [handle_ingress_missed knows.wired host.port_accessPort rfl passes source unresolved]
    at handled
  cases handled
  exact ⟨_, rfl⟩

theorem holds_first (getAddress : Device k → Mac48Address) (message : Message k) :
    (wiring getAddress).Holds ((start getAddress).post message) := by
  have sends : (Event.send message : Event (Message k) Draw).Permitted fun _ => True :=
    trivial
  exact (wiring_kept getAddress fun _ => True).holds_step
    (Discipline.holds_start (wired_portlandSetup getAddress)) sends rfl

/-- If all draw the same, the flood for the first request still comes to rest. -/
theorem exists_flood_to_rest (sent : network.SentBy host frame)
    (elsewhere : (frame.metadata false).dstIp ≠ network.ip host) (draw : Draw) :
    ∃ events final, (step (handle network.hardware)).run
        ((start network.hardware).post (host.accessPort, frame)) events = some final ∧
      (∃ visit ∈ final.visitsOf 0, Flooded visit) ∧ final.copies 0 = 0 ∧
      ∀ visit ∈ final.visits, visit.choice = draw := by
  have wired := wired_portlandSetup network.hardware
  rcases exists_handling wired (host.accessPort, frame) draw with ⟨handling, handled⟩
  rcases outputs_of_first_frame sent elsewhere handled with ⟨request, outputs⟩
  let posted := (start network.hardware).post (host.accessPort, frame)
  let visit : Visit (Message k) Draw (Delivery k) :=
    { parcel := { tag := 0, hops := 0, content := (host.accessPort, frame) }
      choice := draw
      outputs := handling.outputs
      deliveries := handling.deliveries }
  have flooded : Flooded visit := by
    have pods : 0 < k := Nat.lt_of_le_of_lt (Nat.zero_le _) host.pod.isLt
    refine ⟨((Link.aggregationCore host.position host.position ⟨0, pods⟩).get 0,
      floodFrame request), ?_, ?_⟩
    · change _ ∈ handling.outputs
      rw [outputs, mem_floodOutputs_iff wired]
      exact ⟨rfl, _, _, _, Nat.succ_pos 255, rfl⟩
    · intro same
      cases same
  have makes : Makes (handle network.hardware) posted.system visit handling.system :=
    handled
  have stepped : step (handle network.hardware) posted (.arrive 0 draw) =
      some (posted.record 0 visit handling.system) := step_arrive rfl makes
  have arrives : (Event.arrive 0 draw : Event (Message k) Draw).Permitted fun _ => True :=
    trivial
  have recorded := (wiring_kept network.hardware fun _ => True).holds_step
    (holds_first network.hardware _) arrives stepped
  rcases exists_rest_of_wired recorded draw with ⟨events, final, arrivals, ran, quiet⟩
  have wholeRun : (step (handle network.hardware)).run posted (.arrive 0 draw :: events) =
      some final := PartialStep.run_cons_eq_some.mpr ⟨_, stepped, ran⟩
  refine ⟨_, final, wholeRun, ⟨visit, ?_, flooded⟩, ?_, ?_⟩
  · apply mem_visitsOf_run _ ran
    rw [visitsOf_record, if_pos rfl]
    exact List.mem_append_right _ (List.mem_singleton_self visit)
  · simp [Courier.State.copies, quiet]
  · apply choice_of_run _ rfl wholeRun
    intro event member
    rcases List.mem_cons.mp member with rfl | later
    · exact ⟨0, rfl⟩
    · exact arrivals event later

theorem destination_of_sendArpRequest (host : Host k) (toIp : Ipv4Address) :
    ((network.sendArpRequest host toIp).metadata false).dstIp = toIp := by
  have arp : (network.sendArpRequest host toIp).protocol = arpProtocol := rfl
  have parsed : (network.sendArpRequest host toIp).packet.peekArpHeader = some _ :=
    Packet.peekArpHeader_ofArpHeader _ rfl rfl
  rw [Frame.metadata_of_arp arp parsed]
  rfl

end FirstRequest

/-- Every aggregation switch draws its first port: the flood for a host on the second
edge switch of a pod does not reach it. -/
theorem flood_misses_host :
    let network := Addressing.numbered 4 (by norm_num)
    let asking : Host 4 := ⟨0, 0, 0⟩
    let owner : Host 4 := ⟨1, 1, 0⟩
    let request := network.sendArpRequest asking (network.ip owner)
    ∃ events final, (step (handle network.hardware)).run
        ((start network.hardware).post (asking.accessPort, request)) events = some final ∧
      (∃ visit ∈ final.visitsOf 0, Flooded visit) ∧ final.copies 0 = 0 ∧
      ¬ Asked final 0 (network.ip owner) owner := by
  intro network asking owner request
  have sent : network.SentBy asking request :=
    Addressing.sentBy_sendArpRequest asking
      (Addressing.numbered_unclaimed_broadcast 4 _) _
  have elsewhere : (request.metadata false).dstIp ≠ network.ip asking := by
    rw [destination_of_sendArpRequest, Ne, Addressing.ip_eq_iff]
    decide
  rcases exists_flood_to_rest sent elsewhere {} with
    ⟨events, final, ran, flooded, quiet, choices⟩
  refine ⟨events, final, ran, flooded, quiet, ?_⟩
  intro asked
  have first := holds_first network.hardware (asking.accessPort, request)
  have unspent : Unspent ((start network.hardware).post (asking.accessPort, request)) 0
      (asking.accessPort, request) := Tagged.unspent_post (tagged_start _) _
  rcases exists_floodRun first unspent ran flooded with ⟨_, -, run⟩
  rcases (run.drawn_of_asked asked).2 with ⟨visit, member, a, c, -, drawn⟩
  rw [choices visit (List.mem_filter.mp member).1] at drawn
  cases drawn

/-- That flood under the rule. -/
theorem flood_asks_all_iff_first :
    let network := Addressing.numbered 4 (by norm_num)
    let asking : Host 4 := ⟨0, 0, 0⟩
    let request := network.sendArpRequest asking (network.ip ⟨1, 1, 0⟩)
    ∃ events final, (step (handle network.hardware)).run
        ((start network.hardware).post (asking.accessPort, request)) events = some final ∧
      ((∀ host : Host 4, Asked final 0 (request.metadata false).dstIp host) ↔
        4 ≤ 256 ∧ ∀ pod position, Drawn final 0 pod position) := by
  intro network asking request
  have sent : network.SentBy asking request :=
    Addressing.sentBy_sendArpRequest asking
      (Addressing.numbered_unclaimed_broadcast 4 _) _
  have elsewhere : (request.metadata false).dstIp ≠ network.ip asking := by
    rw [destination_of_sendArpRequest, Ne, Addressing.ip_eq_iff]
    decide
  rcases exists_flood_to_rest sent elsewhere {} with
    ⟨events, final, ran, flooded, quiet, -⟩
  have before := PartialStep.Reachable.refl (step (handle network.hardware))
    (Event.Permitted network.FromHost) (start network.hardware)
  exact ⟨events, final, ran,
    flood_asks_all_iff (wired_portlandSetup network.hardware) before
    (asking.accessPort, request) ran flooded quiet⟩

end DataCenter.Portland
