import DataCenter.Portland.Registry

/-! # The traffic of hosts

In a network whose hosts send with their own addresses, the hosts that the
tables hold are those that a frame has come from, and every ARP request names a
registered host as its sender. -/

namespace DataCenter.Portland

open Courier PortlandSwitchNetDevice

variable {k : Nat}

/-- The edge switch of a host has handled a frame from it. -/
def HeardIn (past : List (Visit (Message k) Draw (Delivery k))) (host : Host k) : Prop :=
  ∃ visit ∈ past, visit.parcel.content.1 = host.accessPort

theorem heardIn_concat {past : List (Visit (Message k) Draw (Delivery k))}
    {visit : Visit (Message k) Draw (Delivery k)} {host : Host k} :
    HeardIn (past ++ [visit]) host ↔
      HeardIn past host ∨ visit.parcel.content.1 = host.accessPort := by
  simp [HeardIn, or_and_right, exists_or]

/-- An ARP request is made on behalf of a registered host, under its AMAC or its
PMAC. -/
def Announced (network : Addressing k) (fabric : Fabric (SwitchId k) (Device k))
    (frame : Frame) : Prop :=
  ∀ header, frame.protocol = arpProtocol → frame.packet.peekArpHeader = some header →
    header.isRequest = true →
    ∃ host : Host k, header.ipv4Source = network.ip host ∧
      fabric.manager.isIPRegistered (network.ip host) = true ∧
      (header.macSource = (network.amac host).convertTo ∨
        header.macSource = host.pmac.convertTo)

/-- Frames to edge switches are as hosts send them, and all others announce their
senders. -/
def hostTraffic (network : Addressing k) :
    Discipline (Fabric (SwitchId k) (Device k)) (Message k) Draw (Delivery k) where
  Good past fabric := Knows network (HeardIn past) fabric
  Fit fabric message :=
    (∀ host : Host k, message.1 = host.accessPort → network.SentBy host message.2) ∧
      ((∀ host : Host k, message.1 ≠ host.accessPort) →
        Announced network fabric message.2)
  Due fabric delivery := Announced network fabric delivery.2

/-! ## What is learned -/

section Learning

variable {network : Addressing k} {fabric next : Fabric (SwitchId k) (Device k)}
  {past : List (Visit (Message k) Draw (Delivery k))}
  {visit : Visit (Message k) Draw (Delivery k)}

@[simp] theorem table_registered (fabric : Fabric (SwitchId k) (Device k))
    (id : SwitchId k) (device : Device k) (packet : Packet) (entry : Option PMACEntry)
    (other : SwitchId k) :
    ((fabric.registered id device packet entry).switches other).table =
      if other = id then ((fabric.switches id).learn entry).table
      else (fabric.switches other).table := by
  rw [Fabric.registered]
  by_cases same : other = id
  · subst same
    cases entry <;> simp [learn]
  · simp [same]

@[simp] theorem table_learn_none (switch : PortlandSwitchNetDevice (Device k)) :
    (switch.learn none).table = switch.table := rfl

theorem Knows.counted {heard : Host k → Prop} (knows : Knows network heard fabric)
    (id : SwitchId k) (device : Device k) (packet : Packet)
    (wired : Wired network.hardware (fabric.registered id device packet none)) :
    Knows network heard (fabric.registered id device packet none) := by
  apply knows.of_same_tables wired ?_ rfl
  intro other
  rw [table_registered]
  split
  · next same => rw [same, table_learn_none]
  · rfl

/-- A frame that a host sends makes the host known. -/
theorem Knows.ingress {heard : Host k → Prop} (knows : Knows network heard fabric)
    {host : Host k} {frame : Frame} (sent : network.SentBy host frame) (unset : Bool)
    (packet : Packet)
    (wired : Wired network.hardware (fabric.registered host.edge host.accessPort packet
      ((fabric.switches host.edge).newEntry (frame.metadata unset)
        (UInt8.ofNat host.port)))) :
    Knows network (fun other => heard other ∨ other = host)
      (fabric.registered host.edge host.accessPort packet
        ((fabric.switches host.edge).newEntry (frame.metadata unset)
          (UInt8.ofNat host.port))) := by
  have entryIs := knows.newEntry_eq unset sent
  by_cases unknown : (fabric.switches host.edge).table.findPortOfIp (network.ip host) = -1
  · rw [if_pos unknown] at entryIs
    rw [entryIs] at wired ⊢
    apply knows.learn_new host wired ?_ ?_ rfl
    · rw [table_registered, if_pos rfl]
      rfl
    · intro id different
      rw [table_registered, if_neg different]
  · rw [if_neg unknown] at entryIs
    rw [entryIs] at wired ⊢
    exact (knows.learn_known unknown).counted _ _ _ wired

theorem knows_after
    (legal : (hostTraffic network).Legal (handle network.hardware) past fabric
    visit next) : Knows network (HeardIn (past ++ [visit])) next := by
  have knows : Knows network (HeardIn past) fabric := legal.good
  have wired : Wired network.hardware next := knows.wired.handle legal.makes
  have unheard (elsewhere : ∀ host : Host k, visit.parcel.content.1 ≠ host.accessPort)
      (host : Host k) : HeardIn past host ↔ HeardIn (past ++ [visit]) host := by
    simp [heardIn_concat, elsewhere host]
  cases port : visit.parcel.content.1.port with
  | none =>
      rcases makes_at_host legal.makes port with ⟨host, -, rfl, -, -⟩
      apply knows.congr (unheard ?_)
      intro other atPort
      rw [atPort] at port
      cases port
  | some place =>
      rcases place with ⟨id, fromUpper, index⟩
      have system := handle_system knows.wired port legal.makes
      simp only at system
      by_cases ingress : fromUpper = false ∧ id.deviceType = .edge
      · rcases ingress with ⟨rfl, isEdge⟩
        rcases Host.exists_accessPort port isEdge with ⟨host, atPort⟩
        have sent := legal.fit.1 host atPort
        rw [atPort, Host.port_accessPort] at port
        cases port
        have passes := passesAt_of_unclaimed knows.wired host.port_accessPort sent.dst
        have learned : learnedAt network.hardware fabric host.edge visit.parcel.content.1
            visit.parcel.content.2 visit.choice host.port false =
              (fabric.switches host.edge).newEntry
                (visit.parcel.content.2.metadata visit.choice.unset)
                  (UInt8.ofNat host.port) := by
          rw [atPort]
          exact if_pos ⟨rfl, rfl, passes⟩
        rw [learned, atPort] at system
        rw [system] at wired ⊢
        refine (knows.ingress sent _ _ wired).congr fun other => ?_
        rw [heardIn_concat, atPort, Host.accessPort_injective.eq_iff, eq_comm (a := host)]
      · have learned : learnedAt network.hardware fabric id visit.parcel.content.1
            visit.parcel.content.2 visit.choice index fromUpper = none := by
          apply if_neg
          intro learns
          rcases learns with ⟨fromLower, isEdge, -⟩
          exact ingress ⟨fromLower, isEdge⟩
        rw [learned] at system
        rw [system] at wired ⊢
        refine (knows.counted _ _ _ wired).congr (unheard ?_)
        intro host atPort
        rw [atPort, Host.port_accessPort] at port
        cases port
        exact ingress ⟨rfl, rfl⟩

theorem HeardIn.concat {host : Host k} (heard : HeardIn past host)
    (visit : Visit (Message k) Draw (Delivery k)) : HeardIn (past ++ [visit]) host :=
  heardIn_concat.mpr (.inl heard)

theorem Announced.after
    (legal : (hostTraffic network).Legal (handle network.hardware) past fabric
    visit next) {frame : Frame} (announced : Announced network fabric frame) :
    Announced network next frame := by
  intro header arp parsed request
  rcases announced header arp parsed request with ⟨host, source, registered, hardware⟩
  have knows : Knows network (HeardIn past) fabric := legal.good
  have heard := (knows.isIPRegistered_iff host).mp registered
  exact ⟨host, source,
    ((knows_after legal).isIPRegistered_iff host).mpr (heard.concat visit), hardware⟩

end Learning

/-! ## What is announced -/

/-- A request that leaves an edge switch is the one that came. -/
theorem peekArpHeader_of_rewritten {metadata : SwitchPacketMetadata} {packet : Packet}
    {header : ArpHeader}
    (parsed : (rewrittenPacket metadata packet).peekArpHeader = some header)
    (request : header.isRequest = true) : packet.peekArpHeader = some header := by
  rw [rewrittenPacket] at parsed
  split at parsed
  · rw [Packet.peekArpHeader_ofArpHeader _ rfl rfl] at parsed
    cases parsed
    cases request
  · exact parsed

section Announcing

variable {network : Addressing k} {fabric next : Fabric (SwitchId k) (Device k)}
  {past : List (Visit (Message k) Draw (Delivery k))}
  {visit : Visit (Message k) Draw (Delivery k)}

theorem not_accessPort_of_output
    (legal : (hostTraffic network).Legal (handle network.hardware) past fabric visit next)
    {output : Message k} (member : output ∈ visit.outputs) (host : Host k) :
    output.1 ≠ host.accessPort := by
  intro atPort
  have wired :
      (wiring network.hardware).Legal (handle network.hardware) past fabric visit next :=
    ⟨legal.good.wired, trivial, legal.makes⟩
  have lower := (spread_of_legal wired).rank_lt output member
  have limit := visit.parcel.content.1.rank_le
  rw [atPort] at lower
  have top : host.accessPort.rank = 5 := rfl
  omega

theorem announced_of_output
    (legal : (hostTraffic network).Legal (handle network.hardware) past fabric visit next)
    {output : Message k} (member : output ∈ visit.outputs) :
    Announced network next output.2 := by
  have knows : Knows network (HeardIn past) fabric := legal.good
  cases port : visit.parcel.content.1.port with
  | none =>
      rcases makes_at_host legal.makes port with ⟨host, -, -, outputs, -⟩
      rw [outputs] at member
      cases member
  | some place =>
      rcases place with ⟨id, fromUpper, index⟩
      have relay := relay_of_handle knows.wired port legal.makes member
      have ingress (isEdge : id.deviceType = .edge) (ascends : fromUpper = false) :
          ∃ host : Host k, network.SentBy host visit.parcel.content.2 ∧ id = host.edge ∧
            index = host.port ∧ next.manager.isIPRegistered (network.ip host) = true := by
        subst ascends
        rcases Host.exists_accessPort port isEdge with ⟨host, atPort⟩
        have heard : HeardIn (past ++ [visit]) host := heardIn_concat.mpr (.inr atPort)
        have sent := legal.fit.1 host atPort
        rw [atPort, Host.port_accessPort] at port
        cases port
        exact ⟨host, sent, rfl, rfl,
          ((knows_after legal).isIPRegistered_iff host).mpr heard⟩
      have passing (inner : ¬ (fromUpper = false ∧ id.deviceType = .edge)) :
          Announced network next visit.parcel.content.2 := by
        refine (legal.fit.2 ?_).after legal
        intro host atPort
        rw [atPort, Host.port_accessPort] at port
        cases port
        exact inner ⟨rfl, rfl⟩
      generalize output.2 = frame at relay
      cases relay with
      | forwarded inner => exact passing fun both => inner both.2
      | translated isEdge descends unicast known =>
          intro header arp parsed request
          rw [egressFrame, metadataFromPacket_protocolNumber] at arp
          exact passing (by simp [descends]) header arp
            (peekArpHeader_of_rewritten parsed request) request
      | broadcast isEdge descends toAll src srcIs =>
          intro header arp parsed request
          rw [broadcastFrame, metadataFromPacket_protocolNumber] at arp
          exact passing (by simp [descends]) header arp parsed request
      | resolved isEdge ascends dstPmac destination source found =>
          rcases ingress isEdge ascends with ⟨host, sent, rfl, rfl, registered⟩
          intro header arp parsed request
          rw [ingressFrame, metadataFromPacket_protocolNumber] at arp
          have original := peekArpHeader_of_rewritten parsed request
          rcases sent.payload with ⟨ipv4, -⟩ | ⟨-, sentHeader, sentParsed, hardware, ip⟩
          · exact absurd (arp.symm.trans ipv4) arpProtocol_ne_ipv4Protocol
          · cases original.symm.trans sentParsed
            exact ⟨host, ip, registered, .inl hardware⟩
      | flooded isEdge ascends source =>
          rcases ingress isEdge ascends with ⟨host, sent, rfl, rfl, registered⟩
          intro header arp parsed request
          rw [floodFrame, Packet.peekArpHeader_ofArpHeader _ rfl rfl] at parsed
          cases parsed
          exact ⟨host, sent.srcIp _, registered,
            .inr (congrArg Mac48Address.convertTo (knows.sourcePmac_eq _ sent))⟩

/-- Hosts that send with their own addresses keep the traffic this way. -/
theorem hostTraffic_kept (network : Addressing k) :
    (hostTraffic network).Kept (handle network.hardware) network.FromHost where
  fit_of_permitted := by
    intro past fabric message good legal
    rcases legal with ⟨sender, atPort, sent⟩
    refine ⟨?_, fun elsewhere => absurd atPort (elsewhere sender)⟩
    intro host samePort
    rw [← Host.accessPort_injective (atPort.symm.trans samePort)]
    exact sent
  good_after legal := knows_after legal
  fit_after legal message fit := ⟨fit.1, fun elsewhere => (fit.2 elsewhere).after legal⟩
  due_after legal delivery due := due.after legal
  fit_outputs legal output member :=
    ⟨fun host atPort => absurd atPort (not_accessPort_of_output legal member host),
      fun _ => announced_of_output legal member⟩
  due_deliveries := by
    intro past fabric visit next legal delivery member
    cases port : visit.parcel.content.1.port with
    | none =>
        rcases makes_at_host legal.makes port with ⟨host, -, -, -, deliveries⟩
        rw [deliveries, List.mem_singleton] at member
        rw [member]
        refine (legal.fit.2 ?_).after legal
        intro other atPort
        rw [atPort] at port
        cases port
    | some place =>
        rcases place with ⟨id, fromUpper, index⟩
        have deliveries := (fate_of_handle legal.good.wired port legal.makes).2
        simp only at deliveries
        rw [deliveries] at member
        cases member

end Announcing

theorem hostTraffic_start (network : Addressing k) :
    (hostTraffic network).Good [] (portlandSetup network.hardware) :=
  (knows_portlandSetup network).congr fun host => by simp [HeardIn]

/-! ## Two first frames -/

section FirstFrames

variable {network : Addressing k}

theorem stored_of_handle {fabric : Fabric (SwitchId k) (Device k)}
    (wired : Wired network.hardware fabric) {message : Message k} {draw : Draw}
    {handling : Handling (Fabric (SwitchId k) (Device k)) (Message k) (Delivery k)}
    {id : SwitchId k} {isUpper : Bool} {index : Nat}
    (port : message.1.port = some (id, isUpper, index))
    (handled : handle network.hardware fabric message draw = some handling)
    {other : SwitchId k} {key : Mac48Address} {entry : PMACEntry}
    (stored : (fabric.switches other).table.mapping[key]? = some entry) :
    (handling.system.switches other).table.mapping[key]? = some entry := by
  rw [handle_system wired port handled, table_registered]
  split
  · next same =>
      subst same
      cases learnedAt network.hardware fabric other message.1 message.2 draw index
        isUpper with
      | none => exact stored
      | some added => exact PMACTable.getElem?_record_of_getElem? stored added
  · exact stored

/-- The first frame of a network makes an entry for its sender. -/
theorem stored_of_first_frame {host : Host k} {frame : Frame}
    (sent : network.SentBy host frame) {draw : Draw}
    {handling : Handling (Fabric (SwitchId k) (Device k)) (Message k) (Delivery k)}
    (handled : handle network.hardware (portlandSetup network.hardware)
      (host.accessPort, frame) draw = some handling) :
    (handling.system.switches host.edge).table.mapping[host.pmac]? =
      some (network.entry host) := by
  have knows := knows_portlandSetup network
  have passes := passesAt_of_unclaimed knows.wired host.port_accessPort sent.dst
  have empty := (fresh_portlandSetup network.hardware).table host.edge
  have unknown : ((portlandSetup network.hardware).switches host.edge).table.findPortOfIp
      (network.ip host) = -1 := by
    rw [PMACTable.findPortOfIp_eq_neg_one_iff]
    intro holds
    exact (knows.stored_of_holdsIp holds).1
  have learned : learnedAt network.hardware (portlandSetup network.hardware) host.edge
      host.accessPort frame draw host.port false = some (network.entry host) := by
    have newEntry := knows.newEntry_eq draw.unset sent
    rw [if_pos unknown] at newEntry
    exact (if_pos ⟨rfl, rfl, passes⟩).trans newEntry
  rw [handle_system knows.wired host.port_accessPort handled, learned, table_registered,
    if_pos rfl]
  have recorded := PMACTable.getElem?_record
    ((portlandSetup network.hardware).switches host.edge).table
      (network.entry host) host.pmac
  rw [empty] at recorded
  simpa [Addressing.entry, learn] using recorded

/-- Of two hosts with one PMAC, the one whose frame arrives first gets the
entry. -/
theorem first_frame_wins {first second : Host k} {firstFrame secondFrame : Frame}
    (firstSent : network.SentBy first firstFrame)
    (secondSent : network.SentBy second secondFrame) :
    ∃ final, (step (handle network.hardware)).Reachable (Event.Permitted network.FromHost)
        (start network.hardware) final ∧
      (∀ host, HeardIn final.visits host ↔ first = host ∨ second = host) ∧
      (final.system.switches first.edge).table.mapping[first.pmac]? =
        some (network.entry first) := by
  have wired := wired_portlandSetup network.hardware
  rcases exists_handling wired (first.accessPort, firstFrame) default with
    ⟨handling, handled⟩
  have wiredThen := wired.handle handled
  rcases exists_handling wiredThen (second.accessPort, secondFrame) default with
    ⟨handling', handled'⟩
  let visit : Visit (Message k) Draw (Delivery k) :=
    { parcel := { tag := 0, hops := 0, content := (first.accessPort, firstFrame) }
      choice := default
      outputs := handling.outputs
      deliveries := handling.deliveries }
  let visit' : Visit (Message k) Draw (Delivery k) :=
    { parcel := { tag := 1, hops := 0, content := (second.accessPort, secondFrame) }
      choice := default
      outputs := handling'.outputs
      deliveries := handling'.deliveries }
  let posted := ((start network.hardware).post (first.accessPort, firstFrame)).post
    (second.accessPort, secondFrame)
  refine ⟨(posted.record 0 visit handling.system).record 0 visit' handling'.system, ?_,
    ?_, ?_⟩
  · have none := PartialStep.Reachable.refl (step (handle network.hardware))
      (Event.Permitted network.FromHost) (start network.hardware)
    have firstAllowed : network.FromHost (first.accessPort, firstFrame) :=
      ⟨first, rfl, firstSent⟩
    have secondAllowed : network.FromHost (second.accessPort, secondFrame) :=
      ⟨second, rfl, secondSent⟩
    have bothPosted := reachable_post (reachable_post none firstAllowed) secondAllowed
    have firstHandled : (step (handle network.hardware)).Reachable
        (Event.Permitted network.FromHost) (start network.hardware)
        (posted.record 0 visit handling.system) := reachable_record bothPosted rfl handled
    exact reachable_record firstHandled rfl handled'
  · intro host
    have visits : ((posted.record 0 visit handling.system).record 0 visit'
        handling'.system).visits = [visit, visit'] := rfl
    simp [HeardIn, visits, visit, visit', Host.accessPort_injective.eq_iff]
  · exact stored_of_handle wiredThen second.port_accessPort handled'
      (stored_of_first_frame firstSent handled)

end FirstFrames

end DataCenter.Portland
