import DataCenter.Foundation.Trail
import DataCenter.Portland.Delivery

/-! # Where frames turn around

`GetOutputPort` computes a lower port where a frame should turn around, but edge
and aggregation switches send whatever comes from below on an upper port.  So
every frame climbs to a core switch, and the two choices agree only if its source
and its target are in pods with different octets. -/

namespace DataCenter.Portland

open Courier PortlandSwitchNetDevice

variable {k : Nat}

/-! ## The property -/

/-- A copy of the frame reaches a switch of a layer. -/
def Reaches
    (state : Courier.State (Fabric (SwitchId k) (Device k)) (Message k) Draw (Delivery k))
    (tag : Nat) (layer : PortlandSwitchType) : Prop :=
  ∃ parcel, Appeared state tag parcel ∧ ∃ id isUpper index,
    parcel.content.1.port = some (id, isUpper, index) ∧ id.deviceType = layer

/-- A switch sends a frame on the side for which `GetOutputPort` computes the port
index. -/
def FollowsOutputPort (target : Host k) (visit : Visit (Message k) Draw (Delivery k)) :
    Prop :=
  ∀ id fromUpper index, visit.parcel.content.1.port = some (id, fromUpper, index) →
    ∀ output ∈ visit.outputs, ∃ i, output.1.peer.port = some (id, id.upstream target, i)

/-- A frame for a host on its edge switch stays at that switch, one for its pod
stays below the core, and every switch follows `GetOutputPort`. -/
structure TurnsAround
    (state : Courier.State (Fabric (SwitchId k) (Device k)) (Message k) Draw (Delivery k))
    (tag : Nat) (source target : Host k) : Prop where
  atEdge : source.edge = target.edge → ¬ Reaches state tag .aggregation ∧
    ∀ visit ∈ state.visitsOf tag, ∀ output ∈ visit.outputs, output.1 = target.device
  atAggregation : source.pod = target.pod → source.edge ≠ target.edge →
    ¬ Reaches state tag .core
  follows : ∀ visit ∈ state.visitsOf tag, FollowsOutputPort target visit

/-! ## The journey -/

/-- The host traffic of a network in which a host is registered. -/
def trafficTo (network : Addressing k) (target : Host k) :
    Discipline (Fabric (SwitchId k) (Device k)) (Message k) Draw (Delivery k) :=
  (hostTraffic network).restrict fun fabric =>
    fabric.manager.isIPRegistered (network.ip target) = true

theorem trafficTo_kept (network : Addressing k) (target : Host k) :
    (trafficTo network target).Kept (handle network.hardware) network.FromHost := by
  apply (hostTraffic_kept network).restrict
  intro past fabric visit next legal registered
  exact registered_after legal.good.wired legal.makes registered

/-- Where a copy of the frame can be, by the number of hops that it made. -/
inductive Journey (source target : Host k) (frame : Frame) : Nat → Message k → Prop where
  | sent : Journey source target frame 0 (source.accessPort, frame)
  | climbing (a : Fin (k / 2)) : Journey source target frame 1
      ((Link.edgeAggregation source.pod a source.position).get 1,
        carried source target frame)
  | atCore (a c : Fin (k / 2)) : Journey source target frame 2
      ((Link.aggregationCore a c source.pod).get 1, carried source target frame)
  | descending (a c : Fin (k / 2)) : Journey source target frame 3
      ((Link.aggregationCore a c (octet target.pod)).get 0, carried source target frame)
  | arriving (a : Fin (k / 2)) : Journey source target frame 4
      ((Link.edgeAggregation (octet target.pod) a (octet target.position)).get 0,
        carried source target frame)
  | handedOver (host : Host k) (frame' : Frame) :
      Journey source target frame 5 (host.device, frame')

section Step

variable {network : Addressing k} {past : List (Visit (Message k) Draw (Delivery k))}
  {fabric next : Fabric (SwitchId k) (Device k)}
  {visit : Visit (Message k) Draw (Delivery k)} {source target : Host k} {frame : Frame}

theorem outputs_of_handle {message : Message k} {draw : Draw}
    {handling : Handling (Fabric (SwitchId k) (Device k)) (Message k) (Delivery k)}
    (makes : Makes (handle network.hardware) fabric visit next)
    (content : visit.parcel.content = message) (choice : visit.choice = draw)
    (handled : handle network.hardware fabric message draw = some handling) :
    visit.outputs = handling.outputs := by
  rw [← content, ← choice] at handled
  have same := makes.symm.trans handled
  exact congrArg Handling.outputs (Option.some.inj same)

/-- The pods of two hosts are told apart in PMACs. -/
def Apart (source target : Host k) : Prop :=
  UInt8.ofNat source.pod ≠ UInt8.ofNat target.pod

instance (source target : Host k) : Decidable (Apart source target) :=
  inferInstanceAs (Decidable (UInt8.ofNat source.pod ≠ UInt8.ofNat target.pod))

theorem upstream_of_apart (apart : Apart source target) (position : Fin (k / 2)) :
    (SwitchId.edge source.pod position).upstream target = true ∧
      (SwitchId.aggregation source.pod position).upstream target = true := by
  rw [Apart] at apart
  simp [SwitchId.upstream, apart]

theorem upstream_octet (a : Fin (k / 2)) (target : Host k) :
    (SwitchId.aggregation (octet target.pod) a).upstream target = false := by
  simp [SwitchId.upstream, ofNat_octet]

/-- `FollowsOutputPort` for the one frame that a switch sends. -/
theorem followsOutputPort_of_outputs {id : SwitchId k} {fromUpper : Bool} {index : Nat}
    {output : Message k} {isUpper : Bool} {outIndex : Nat}
    (port : visit.parcel.content.1.port = some (id, fromUpper, index))
    (outputs : visit.outputs = [output])
    (outPort : output.1.peer.port = some (id, isUpper, outIndex)) :
    FollowsOutputPort target visit ↔ id.upstream target = isUpper := by
  simp only [FollowsOutputPort, port, outputs, List.mem_singleton, forall_eq, outPort]
  constructor
  · intro follows
    rcases follows _ _ _ rfl with ⟨i, same⟩
    cases same
    rfl
  · intro isPort id' fromUpper' index' same
    subst isPort
    cases same
    exact ⟨_, rfl⟩

/-- Whatever is drawn, a hop of the journey goes up from the edge and the
aggregation switch of the source and then down to the place that the PMAC of the
target names. -/
theorem Journey.step (sent : network.SentBy source frame)
    (destination : (frame.metadata false).dstIp = network.ip target)
    (legal : (trafficTo network target).Legal (handle network.hardware) past fabric
      visit next)
    {hops : Nat} (journey : Journey source target frame hops visit.parcel.content) :
    (∀ output ∈ visit.outputs, Journey source target frame (hops + 1) output) ∧
      (hops = 0 → visit.outputs ≠ []) ∧
      (Apart source target → FollowsOutputPort target visit) ∧
      (hops = 1 → FollowsOutputPort target visit → Apart source target) := by
  have knows : Knows network (HeardIn past) fabric := legal.good.1
  have isHeard := (knows.isIPRegistered_iff target).mp legal.good.2
  generalize contentIs : visit.parcel.content = content at journey
  cases journey with
  | sent =>
      have outputs := outputs_of_handle legal.makes contentIs rfl
        (handle_up_at_edge knows sent destination isHeard)
      have port :
          visit.parcel.content.1.port = some (source.edge, false, source.port.val) := by
        rw [contentIs]
        rfl
      refine ⟨?_, by simp [outputs], ?_, by simp⟩
      · simp only [outputs, List.mem_singleton, forall_eq]
        exact .climbing _
      · intro apart
        apply (followsOutputPort_of_outputs port outputs rfl).mpr
        exact upstream_of_apart apart source.position |>.1
  | climbing a =>
      have outputs := outputs_of_handle legal.makes contentIs rfl
        (handle_up_at_aggregation knows.wired carried_dst _ _ _)
      have port : visit.parcel.content.1.port =
          some (.aggregation source.pod a, false, source.position.val) := by
        rw [contentIs]
        rfl
      have follows : FollowsOutputPort target visit ↔
          (SwitchId.aggregation source.pod a).upstream target = true :=
        followsOutputPort_of_outputs port outputs rfl
      refine ⟨?_, by simp, ?_, ?_⟩
      · simp only [outputs, List.mem_singleton, forall_eq]
        exact .atCore _ _
      · intro apart
        exact follows.mpr (upstream_of_apart apart a).2
      · intro _ kept
        simpa [Apart, SwitchId.upstream] using follows.mp kept
  | atCore a c =>
      have outputs := outputs_of_handle legal.makes contentIs rfl
        (handle_at_core knows.wired carried_dst _ _ _)
      have port : visit.parcel.content.1.port =
          some (.core a c, false, source.pod.val) := by
        rw [contentIs]
        rfl
      refine ⟨?_, by simp, ?_, by simp⟩
      · simp only [outputs, List.mem_singleton, forall_eq]
        exact .descending _ _
      · intro _
        exact (followsOutputPort_of_outputs port outputs rfl).mpr rfl
  | descending a c =>
      have outputs := outputs_of_handle legal.makes contentIs rfl
        (handle_down_at_aggregation knows.wired carried_dst _ _ _)
      rw [upstream_octet, if_neg Bool.false_ne_true, octet_octet] at outputs
      have port : visit.parcel.content.1.port =
          some (.aggregation (octet target.pod) a, true, c.val) := by
        rw [contentIs]
        rfl
      refine ⟨?_, by simp, ?_, by simp⟩
      · simp only [outputs, List.mem_singleton, forall_eq]
        exact .arriving _
      · intro _
        apply (followsOutputPort_of_outputs port outputs rfl).mpr
        simp [SwitchId.upstream, ofNat_octet]
  | arriving a =>
      have atEdge :
          ((Link.edgeAggregation (octet target.pod) a (octet target.position)).get
            0).port =
            some (.edge (octet target.pod) (octet target.position), true, a.val) := rfl
      by_cases known : (fabric.switches (.edge (octet target.pod)
          (octet target.position))).table.findAMACOfPmac target.pmac = .getBroadcast
      · have unclaimed : network.Unclaimed (carried source target frame).dst :=
          network.unclaimed_pmac target
        have passes := passesAt_of_unclaimed knows.wired atEdge unclaimed
        have outputs := outputs_of_handle legal.makes contentIs rfl
          (handle_egress_unknown knows.wired atEdge rfl passes target.pmac_ne_broadcast
            known)
        exact ⟨by simp [outputs], by simp, fun _ => by simp [FollowsOutputPort, outputs],
          by simp⟩
      · have outputs := outputs_of_handle legal.makes contentIs rfl
          (handle_down_at_edge knows.wired carried_dst _ _ _ known)
        have port := (congrArg (fun content => content.1.port) contentIs).trans atEdge
        refine ⟨?_, by simp, ?_, by simp⟩
        · simp only [outputs, List.mem_singleton, forall_eq]
          exact .handedOver ⟨_, _, _⟩ _
        · intro _
          apply (followsOutputPort_of_outputs port outputs rfl).mpr
          simp [SwitchId.upstream, ofNat_octet]
  | handedOver host frame' =>
      have noPort : visit.parcel.content.1.port = none := by
        rw [contentIs]
        rfl
      rcases makes_at_host legal.makes noPort with ⟨-, -, -, outputs, -⟩
      exact ⟨by simp [outputs], by simp, fun _ => by simp [FollowsOutputPort, outputs],
        by simp⟩

end Step

/-! ## Whole runs -/

section Runs

variable {network : Addressing k} {source target : Host k} {frame : Frame}
  {state final : Courier.State (Fabric (SwitchId k) (Device k)) (Message k) Draw
    (Delivery k)}
  {tag : Nat}

/-- All that comes of the frame is on the journey. -/
theorem journey_of_appeared (sent : network.SentBy source frame)
    (destination : (frame.metadata false).dstIp = network.ip target)
    (trail : Trail (trafficTo network target) (handle network.hardware) final tag
      (source.accessPort, frame))
    {parcel : Parcel (Message k)} (appeared : Appeared final tag parcel) :
    Journey source target frame parcel.hops parcel.content := by
  apply trail.induction .sent ?_ appeared
  intro visit member journey
  rcases trail.legal visit member with ⟨past, fabric, next, legal⟩
  exact (journey.step sent destination legal).1

theorem turnsAround_of_apart (sent : network.SentBy source frame)
    (destination : (frame.metadata false).dstIp = network.ip target)
    (trail : Trail (trafficTo network target) (handle network.hardware) final tag
      (source.accessPort, frame)) (apart : Apart source target) :
    TurnsAround final tag source target where
  atEdge same := by
    apply absurd _ apart
    rw [(SwitchId.edge.inj same).1]
  atAggregation same := by
    apply absurd _ apart
    rw [same]
  follows visit member := by
    have journey := journey_of_appeared sent destination trail (.inr ⟨visit, member, rfl⟩)
    rcases trail.legal visit member with ⟨past, fabric, next, legal⟩
    exact (journey.step sent destination legal).2.2.1 apart

/-- Once nothing of the frame is in flight, an aggregation switch of the source has
sent it up. -/
theorem apart_of_turnsAround (sent : network.SentBy source frame)
    (destination : (frame.metadata false).dstIp = network.ip target)
    (trail : Trail (trafficTo network target) (handle network.hardware) final tag
      (source.accessPort, frame)) (quiet : final.copies tag = 0)
    (turns : TurnsAround final tag source target) : Apart source target := by
  rcases trail.exists_visit quiet (.inl rfl) with ⟨first, firstMember, firstIs⟩
  have start :=
    journey_of_appeared sent destination trail (.inr ⟨first, firstMember, rfl⟩)
  rcases trail.legal first firstMember with ⟨past, fabric, next, legal⟩
  have sends := (start.step sent destination legal).2.1 (by rw [firstIs])
  rcases List.exists_mem_of_ne_nil _ sends with ⟨output, outputMember⟩
  have forwarded : { tag := first.parcel.tag, hops := first.parcel.hops + 1,
                     content := output } ∈
      first.forwarded := Visit.mem_forwarded.mpr ⟨rfl, rfl, outputMember⟩
  rcases trail.exists_visit quiet (.inr ⟨first, firstMember, forwarded⟩) with
    ⟨second, secondMember, secondIs⟩
  have climbed :=
    journey_of_appeared sent destination trail (.inr ⟨second, secondMember, rfl⟩)
  rcases trail.legal second secondMember with ⟨past', fabric', next', legal'⟩
  apply (climbed.step sent destination legal').2.2.2 _ (turns.follows second secondMember)
  rw [secondIs, firstIs]

/-- A frame for a registered host turns around where it should if the pods of the
two hosts have different octets, and as soon as nothing of it is in flight, only
then. -/
theorem turnsAround_iff_apart
    (reached : (step (handle network.hardware)).Reachable
      (Event.Permitted network.FromHost) (start network.hardware) state)
    (registered : state.system.manager.isIPRegistered (network.ip target) = true)
    (sent : network.SentBy source frame)
    (destination : (frame.metadata false).dstIp = network.ip target)
    {events : List (Event (Message k) Draw)}
    (allowed : ∀ event ∈ events, event.Permitted network.FromHost)
    (ran : (step (handle network.hardware)).run (state.post (source.accessPort, frame))
      events = some final) :
    (Apart source target → TurnsAround final state.sent source target) ∧
      (final.copies state.sent = 0 →
        (TurnsAround final state.sent source target ↔ Apart source target)) := by
  have kept := hostTraffic_kept network
  have holds := kept.holds_of_reachable (hostTraffic_start network) reached
  have posts : (Event.send (source.accessPort, frame) : Event (Message k) Draw).Permitted
      network.FromHost := ⟨source, rfl, sent⟩
  have posted :
      (trafficTo network target).Holds (state.post (source.accessPort, frame)) :=
    (kept.holds_step holds posts rfl).restrict registered
  have unspent := holds.tagged.unspent_post (source.accessPort, frame)
  have trail := unspent.trail.after_run (trafficTo_kept network target) posted allowed ran
  have enough := turnsAround_of_apart sent destination trail
  exact ⟨enough, fun quiet => ⟨apart_of_turnsAround sent destination trail quiet, enough⟩⟩

/-- Even a frame for a host on the same edge switch leaves that switch on an upper
port. -/
theorem leaves_edge
    (reached : (step (handle network.hardware)).Reachable
      (Event.Permitted network.FromHost) (start network.hardware) state)
    (registered : state.system.manager.isIPRegistered (network.ip target) = true)
    (sent : network.SentBy source frame)
    (destination : (frame.metadata false).dstIp = network.ip target) :
    ∃ final, (step (handle network.hardware)).Reachable (Event.Permitted network.FromHost)
        (state.post (source.accessPort, frame)) final ∧
      Reaches final state.sent .aggregation ∧
      ∃ visit ∈ final.visitsOf state.sent,
        FollowsOutputPort target visit ↔ source.edge.upstream target = true := by
  have knows : Knows network (HeardIn state.visits) state.system :=
    ((hostTraffic_kept network).holds_of_reachable (hostTraffic_start network)
      reached).good
  have isHeard := (knows.isIPRegistered_iff target).mp registered
  have handled : ∃ a system,
      handle network.hardware state.system (source.accessPort, frame) default = some
        { system
          outputs := [((Link.edgeAggregation source.pod a source.position).get 1,
            carried source target frame)] } :=
    ⟨_, _, handle_up_at_edge knows sent destination isHeard⟩
  rcases handled with ⟨a, system, handled⟩
  let visit : Visit (Message k) Draw (Delivery k) :=
    { parcel := { tag := state.sent, hops := 0, content := (source.accessPort, frame) }
      choice := default
      outputs := [((Link.edgeAggregation source.pod a source.position).get 1,
        carried source target frame)]
      deliveries := [] }
  have present :
      (state.post (source.accessPort, frame)).inFlight[state.inFlight.length]? =
      some visit.parcel := by
    simp [Courier.State.post, visit]
  have none := PartialStep.Reachable.refl (step (handle network.hardware))
    (Event.Permitted network.FromHost) (state.post (source.accessPort, frame))
  refine ⟨_, reachable_record none present handled, ?_, visit, ?_, ?_⟩
  · let climbing : Parcel (Message k) :=
      { tag := state.sent
        hops := 1
        content := ((Link.edgeAggregation source.pod a source.position).get 1,
          carried source target frame) }
    have member : climbing ∈
        ((state.post (source.accessPort, frame)).record state.inFlight.length
        visit system).inFlight := List.mem_append_right _ (List.mem_singleton.mpr rfl)
    exact ⟨climbing, .inl (mem_copies.mpr ⟨member, rfl⟩), .aggregation source.pod a,
      false, source.position, rfl, rfl⟩
  · rw [visitsOf_record]
    simp [visit]
  · exact followsOutputPort_of_outputs source.port_accessPort rfl rfl

end Runs

/-- In the network of four pods, a host sends to the other host on its edge
switch. -/
theorem neighbours_turn_too_late :
    let network := Addressing.numbered 4 (by norm_num)
    let source : Host 4 := ⟨0, 0, 0⟩
    let target : Host 4 := ⟨0, 0, 1⟩
    let frame := network.datagram source target.pmac (network.ip target)
    ∃ state final,
      (step (handle network.hardware)).Reachable (Event.Permitted network.FromHost)
        (start network.hardware) state ∧
      state.system.manager.isIPRegistered (network.ip source) = true ∧
      state.system.manager.isIPRegistered (network.ip target) = true ∧
      network.SentBy source frame ∧ (frame.metadata false).dstIp = network.ip target ∧
      (step (handle network.hardware)).Reachable (Event.Permitted network.FromHost)
        (state.post (source.accessPort, frame)) final ∧
      source.edge = target.edge ∧ Reaches final state.sent .aggregation ∧
      ¬ ∀ visit ∈ final.visitsOf state.sent, FollowsOutputPort target visit := by
  intro network source target frame
  have unclaimed : network.Unclaimed .getBroadcast :=
    Addressing.numbered_unclaimed_broadcast _ _
  rcases first_frame_wins (network.sentBy_sendArpRequest source unclaimed ⟨7⟩)
    (network.sentBy_sendArpRequest target unclaimed ⟨7⟩) with ⟨state, reached, heard, -⟩
  have knows : Knows network (HeardIn state.visits) state.system :=
    ((hostTraffic_kept network).holds_of_reachable (hostTraffic_start network)
      reached).good
  have sourceKnown :=
    (knows.isIPRegistered_iff source).mpr ((heard source).mpr (.inl rfl))
  have targetKnown :=
    (knows.isIPRegistered_iff target).mpr ((heard target).mpr (.inr rfl))
  have sent : network.SentBy source frame :=
    network.sentBy_datagram source (network.unclaimed_pmac target) _
  have destination : (frame.metadata false).dstIp = network.ip target :=
    congrArg Ipv4Header.destination
      (peekIpv4Header_ipv4Packet (network.ip source) (network.ip target))
  rcases leaves_edge reached targetKnown sent destination with
    ⟨final, ran, reaches, visit, member, follows⟩
  refine ⟨state, final, reached, sourceKnown, targetKnown, sent, destination, ran, rfl,
    reaches, ?_⟩
  intro all
  have upstream := follows.mp (all visit member)
  exact absurd upstream (by decide)

/-- In the network of four pods, a host sends to a host in another pod. -/
theorem turnsAround_iff_apart_across :
    let network := Addressing.numbered 4 (by norm_num)
    let source : Host 4 := ⟨0, 0, 0⟩
    let target : Host 4 := ⟨3, 1, 1⟩
    let frame := network.datagram source target.pmac (network.ip target)
    ∃ state final,
      (step (handle network.hardware)).Reachable (Event.Permitted network.FromHost)
        (start network.hardware) state ∧
      (step (handle network.hardware)).Reachable (Event.Permitted network.FromHost)
        (state.post (source.accessPort, frame)) final ∧
      final.copies state.sent = 0 ∧ TurnsAround final state.sent source target := by
  intro network source target frame
  have unclaimed : network.Unclaimed .getBroadcast :=
    Addressing.numbered_unclaimed_broadcast _ _
  rcases first_frame_wins (network.sentBy_sendArpRequest source unclaimed ⟨7⟩)
    (network.sentBy_sendArpRequest target unclaimed ⟨7⟩) with ⟨state, reached, heard, -⟩
  have kept := hostTraffic_kept network
  have holds := kept.holds_of_reachable (hostTraffic_start network) reached
  have knows : Knows network (HeardIn state.visits) state.system := holds.good
  have registered := (knows.isIPRegistered_iff target).mpr ((heard target).mpr (.inr rfl))
  have sent : network.SentBy source frame :=
    network.sentBy_datagram source (network.unclaimed_pmac target) _
  have destination : (frame.metadata false).dstIp = network.ip target :=
    congrArg Ipv4Header.destination
      (peekIpv4Header_ipv4Packet (network.ip source) (network.ip target))
  have posts : (Event.send (source.accessPort, frame) : Event (Message 4) Draw).Permitted
      network.FromHost := ⟨source, rfl, sent⟩
  have once := delivered_of_registered (by norm_num) (kept.holds_step holds posts rfl)
    (holds.tagged.unspent_post _) sent destination registered
  rcases (once [] _ (by simp) rfl).2 with ⟨more, final, allowed, ran, arrived⟩
  have apart : Apart source target := by decide
  exact ⟨state, final, reached, ⟨more, allowed, ran⟩, arrived.copies,
    (turnsAround_iff_apart reached registered sent destination allowed ran).1 apart⟩

end DataCenter.Portland
