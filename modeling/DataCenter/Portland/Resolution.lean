import DataCenter.Portland.Delivery

/-! # ARP resolution

A request for a registered host reaches that host, and the answer to a request,
forwarded or flooded, reaches the host on whose behalf it was made. -/

namespace DataCenter.Portland

open Courier PortlandSwitchNetDevice

variable {k : Nat} {network : Addressing k} {source target : Host k} {frame : Frame}
  {header : ArpHeader}

/-- A request leaves the edge switches with the payload it came with. -/
theorem handedOver_of_request (arp : frame.protocol = arpProtocol)
    (parsed : frame.packet.peekArpHeader = some header)
    (request : header.isRequest = true) :
    handedOver network source target frame =
      { packet := frame.packet, src := source.pmac, dst := network.amac target,
        protocol := arpProtocol } := by
  have packet : (carried source target frame).packet = frame.packet := by
    simp [carried, ingressFrame, Frame.metadata_of_arp arp parsed, rewrittenPacket,
      request]
  have parsedAgain :
      (carried source target frame).packet.peekArpHeader = some header := by
    rw [packet, parsed]
  have protocol : (carried source target frame).protocol = arpProtocol :=
    carried_protocol.trans arp
  rw [handedOver]
  rw [Frame.metadata_of_arp protocol parsedAgain, packet, protocol]
  simp only [egressFrame, rewrittenPacket, request, not_true_eq_false, and_false,
    if_false]
  rfl

/-- The reply that a host gets: between the PMAC of its peer and its own AMAC. -/
def replyFrame (network : Addressing k) (source target : Host k) : Frame where
  packet := .ofArpHeader <| .setReply source.pmac.convertTo (network.ip source)
    (network.amac target).convertTo (network.ip target)
  src := source.pmac
  dst := network.amac target
  protocol := arpProtocol

/-- The two edge switches rewrite a reply into one between these addresses. -/
theorem handedOver_of_reply (arp : frame.protocol = arpProtocol)
    (parsed : frame.packet.peekArpHeader = some header) (reply : header.isRequest = false)
    (sourceIp : header.ipv4Source = network.ip source)
    (targetIp : header.ipv4Dest = network.ip target) :
    handedOver network source target frame = replyFrame network source target := by
  have packet : (carried source target frame).packet = .ofArpHeader (.setReply
      source.pmac.convertTo (network.ip source) target.pmac.convertTo
        (network.ip target)) := by
    simp [carried, ingressFrame, Frame.metadata_of_arp arp parsed, rewrittenPacket, arp,
      reply, sourceIp, targetIp]
  have parsedAgain : (carried source target frame).packet.peekArpHeader = some (.setReply
      source.pmac.convertTo (network.ip source) target.pmac.convertTo
        (network.ip target)) := by
    rw [packet, Packet.peekArpHeader_ofArpHeader _ rfl rfl]
  have protocol : (carried source target frame).protocol = arpProtocol :=
    carried_protocol.trans arp
  have stillReply : (ArpHeader.setReply source.pmac.convertTo (network.ip source)
      target.pmac.convertTo (network.ip target)).isRequest = false := rfl
  rw [handedOver]
  rw [Frame.metadata_of_arp protocol parsedAgain, protocol]
  simp only [egressFrame, rewrittenPacket, stillReply, Bool.false_eq_true,
    not_false_eq_true, and_true, if_true]
  rfl

/-- A request that reaches its sender's edge switch when its target is
registered is delivered exactly once, to the target.  The answer to any request
that was delivered is delivered exactly once, to the host on whose behalf the
request was made, as a reply from the PMAC of the answering host. -/
theorem resolution (fits : k ≤ 256)
    {state : Courier.State (Fabric (SwitchId k) (Device k)) (Message k) Draw (Delivery k)}
    (reached : (step (handle network.hardware)).Reachable
      (Event.Permitted network.FromHost)
      (start network.hardware) state) (asking asked : Host k) :
    (∀ parcel ∈ state.inFlight, ∀ frame header, parcel.hops = 0 →
      parcel.content = (asking.accessPort, frame) → frame.protocol = arpProtocol →
      frame.packet.peekArpHeader = some header → header.isRequest = true →
      header.ipv4Dest = network.ip asked →
      state.system.manager.isIPRegistered (network.ip asked) = true →
      ExactlyOnce (handle network.hardware) network.FromHost state parcel.tag
        { tag := parcel.tag
          hops := 5
          content := (asked,
            { packet := frame.packet, src := asking.pmac, dst := network.amac asked,
              protocol := arpProtocol }) }) ∧
    ∀ parcel ∈ state.delivered, ∀ frame header, parcel.content = (asked, frame) →
      frame.protocol = arpProtocol → frame.packet.peekArpHeader = some header →
      header.isRequest = true → header.ipv4Dest = network.ip asked →
      header.ipv4Source = network.ip asking →
      ∃ toMac : Mac48Address, header.macSource = toMac.convertTo ∧
        let reply := network.sendArpReply asked header.ipv4Source toMac
        network.FromHost (asked.accessPort, reply) ∧
        ExactlyOnce (handle network.hardware) network.FromHost
          (state.post (asked.accessPort, reply)) state.sent
          { tag := state.sent, hops := 5,
            content := (asking, replyFrame network asked asking) } := by
  have kept := hostTraffic_kept network
  have holds := kept.holds_of_reachable (hostTraffic_start network) reached
  constructor
  · intro parcel member frame header unmoved atPort arp parsed request destination
      registered
    rcases parcel with ⟨tag, hops, content⟩
    cases atPort
    have unspent := holds.tagged.unspent_of_hops member unmoved
    have sent := (holds.fit _ member).1 asking rfl
    have read : (frame.metadata false).dstIp = network.ip asked := by
      rw [Frame.metadata_of_arp arp parsed]
      exact destination
    rw [← handedOver_of_request arp parsed request]
    exact delivered_of_registered fits holds unspent sent read registered
  · intro parcel member frame header atPort arp parsed request destination source
    rcases parcel with ⟨tag, hops, content⟩
    cases atPort
    rcases holds.due _ member header arp parsed request with
      ⟨host, hostIp, registered, hardware⟩
    have same : host = asking := Addressing.ip_eq_iff.mp (hostIp.symm.trans source)
    subst same
    have named : ∃ toMac : Mac48Address, header.macSource = toMac.convertTo ∧
        network.Unclaimed toMac := by
      rcases hardware with amac | pmac
      · exact ⟨_, amac, network.unclaimed_amac host⟩
      · exact ⟨_, pmac, network.unclaimed_pmac host⟩
    rcases named with ⟨toMac, sender, unclaimed⟩
    have sent := network.sentBy_sendArpReply asked header.ipv4Source unclaimed
    have fromHost : network.FromHost
        (asked.accessPort, network.sendArpReply asked header.ipv4Source toMac) :=
      ⟨asked, rfl, sent⟩
    have posts : (Event.send (asked.accessPort,
        network.sendArpReply asked header.ipv4Source toMac) :
          Event (Message k) Draw).Permitted network.FromHost := fromHost
    have parsedReply :
        (network.sendArpReply asked header.ipv4Source toMac).packet.peekArpHeader =
        some (.setReply (network.amac asked).convertTo (network.ip asked) toMac.convertTo
          header.ipv4Source) :=
      Packet.peekArpHeader_ofArpHeader _ rfl rfl
    have read :
        ((network.sendArpReply asked header.ipv4Source toMac).metadata false).dstIp =
        network.ip host := by
      rw [Frame.metadata_of_arp rfl parsedReply]
      exact source
    refine ⟨toMac, sender, fromHost, ?_⟩
    rw [← handedOver_of_reply rfl parsedReply rfl rfl source]
    exact delivered_of_registered fits (kept.holds_step holds posts rfl)
      (holds.tagged.unspent_post _) sent read registered

/-- In the network of four pods, a host asks for one in another pod, gets its
request through and is answered. -/
theorem resolution_across :
    let network := Addressing.numbered 4 (by norm_num)
    let asking : Host 4 := ⟨0, 0, 0⟩
    let asked : Host 4 := ⟨3, 1, 1⟩
    ∃ state, (step (handle network.hardware)).Reachable (Event.Permitted network.FromHost)
        (start network.hardware) state ∧
      (∃ parcel ∈ state.delivered, parcel.content.1 = asked) ∧
      ∃ toMac : Mac48Address, (network.amac asking).convertTo = toMac.convertTo ∧
        ExactlyOnce (handle network.hardware) network.FromHost
          (state.post (asked.accessPort,
            network.sendArpReply asked (network.ip asking) toMac))
          state.sent
          { tag := state.sent
            hops := 5
            content := (asking, replyFrame network asked asking) } := by
  intro network asking asked
  have unclaimed : network.Unclaimed .getBroadcast :=
    Addressing.numbered_unclaimed_broadcast _ _
  have asks := network.sentBy_sendArpRequest asking unclaimed (network.ip asked)
  rcases first_frame_wins asks (network.sentBy_sendArpRequest asked unclaimed ⟨7⟩) with
    ⟨before, reached, heard, -⟩
  have knows : Knows network (HeardIn before.visits) before.system :=
    ((hostTraffic_kept network).holds_of_reachable (hostTraffic_start network)
      reached).good
  have registered := (knows.isIPRegistered_iff asked).mpr ((heard asked).mpr (.inr rfl))
  have fromHost : network.FromHost
      (asking.accessPort, network.sendArpRequest asking (network.ip asked)) :=
    ⟨asking, rfl, asks⟩
  have posted := reachable_post reached fromHost
  have parsed : (network.sendArpRequest asking (network.ip asked)).packet.peekArpHeader =
      some _ :=
    Packet.peekArpHeader_ofArpHeader _ rfl rfl
  have asksOnce := (resolution (by norm_num) posted asking asked).1 _
    (List.mem_append_right _ (List.mem_singleton.mpr rfl)) _ _ rfl rfl rfl parsed rfl rfl
      registered
  rcases (asksOnce [] _ (by simp) rfl).2 with ⟨more, state, allowed, ran, arrived⟩
  have reachedThen := posted.trans ⟨more, allowed, ran⟩
  have received := List.mem_of_mem_filter (arrived.received ▸ List.mem_singleton.mpr rfl)
  rcases (resolution (by norm_num) reachedThen asking asked).2 _ received _ _ rfl rfl
    parsed rfl rfl rfl with ⟨toMac, sender, -, answeredOnce⟩
  exact ⟨state, reachedThen, ⟨_, received, rfl⟩, toMac, sender, answeredOnce⟩

end DataCenter.Portland
