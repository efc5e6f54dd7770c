import DataCenter.Portland.EdgeIngress
import DataCenter.Portland.Resolution

/-! # Actual addresses behind the edge

An edge switch writes the PMAC of a host over its AMAC, in the Ethernet header and in the
payload of replies.  A request that the manager floods is made anew, but one for a known
destination keeps the payload that the host gave it. -/

namespace DataCenter.Portland

open Courier PortlandSwitchNetDevice

variable {k : Nat}

/-! ## Addresses in a frame -/

/-- The address is neither in the Ethernet header nor, as a hardware address, in an ARP
payload. -/
structure Frame.Hides (frame : Frame) (address : Mac48Address) : Prop where
  src : frame.src ≠ address
  dst : frame.dst ≠ address
  payload : frame.protocol = arpProtocol →
    ∀ header, frame.packet.peekArpHeader = some header →
    header.macSource ≠ address.convertTo ∧ header.macDest ≠ address.convertTo

/-- The address is the PMAC of some host. -/
def IsPmac (k : Nat) (address : Mac48Address) : Prop :=
  ∃ host : Host k, address = host.pmac

/-- The sender of an ARP message has the PMAC of some host. -/
def SenderIsPmac (k : Nat) (frame : Frame) : Prop :=
  frame.protocol = arpProtocol → ∀ header, frame.packet.peekArpHeader = some header →
    ∃ host : Host k, header.macSource = host.pmac.convertTo

/-- A frame names its sender by nothing but a PMAC.  The source of the copies of a flood
after the first is cleared and names nobody. -/
structure NamesByPmac (k : Nat) (frame : Frame) : Prop where
  src : IsPmac k frame.src ∨ frame.src = {}
  sender : SenderIsPmac k frame

/-- The frame is an ARP request that has the address as a hardware address. -/
def Frame.RequestNames (frame : Frame) (address : Mac48Address) : Prop :=
  frame.protocol = arpProtocol ∧ ∃ header, frame.packet.peekArpHeader = some header ∧
    header.isRequest = true ∧
    (header.macSource = address.convertTo ∨ header.macDest = address.convertTo)

theorem hides_floodFrame_iff {request : ARPFloodRequest} {address : Mac48Address}
    (different : request.srcPMACAddress ≠ address) :
    (floodFrame request).Hides address ↔ address ≠ .getBroadcast := by
  constructor
  · intro hides
    exact hides.dst.symm
  · intro single
    refine ⟨different, single.symm, ?_⟩
    intro _ header parsed
    rw [floodFrame, Packet.peekArpHeader_ofArpHeader _ rfl rfl] at parsed
    cases parsed
    constructor
    · intro same
      exact different (Mac48Address.convertTo_inj.mp same)
    · intro same
      exact single (Mac48Address.convertTo_inj.mp same).symm

/-- An ARP header that leaves an edge switch is that of the request which came, or holds
the addresses that the switch put. -/
theorem header_of_rewritten {frame : Frame} {unset : Bool}
    (arp : frame.protocol = arpProtocol)
    {metadata : SwitchPacketMetadata} {header : ArpHeader}
    (parsed : (rewrittenPacket metadata frame.packet).peekArpHeader = some header)
    (sameProtocol : metadata.protocolNumber = (frame.metadata unset).protocolNumber)
    (sameKind : metadata.isArpRequest = (frame.metadata unset).isArpRequest) :
    (frame.packet.peekArpHeader = some header ∧ header.isRequest = true) ∨
      (header.macSource = metadata.srcPmac.convertTo ∧
        header.macDest = metadata.dstPmac.convertTo) := by
  rw [rewrittenPacket] at parsed
  split at parsed
  · rw [Packet.peekArpHeader_ofArpHeader _ rfl rfl] at parsed
    cases parsed
    exact .inr ⟨rfl, rfl⟩
  · next kept =>
      refine .inl ⟨parsed, ?_⟩
      rw [sameProtocol, sameKind, Frame.metadata_of_arp arp parsed] at kept
      by_contra reply
      exact kept ⟨arp, reply⟩

/-- Between PMACs, only the payload of a request can hold another address. -/
theorem hides_ingressFrame_iff {frame : Frame} {unset : Bool}
    {srcPmac dstPmac : Mac48Address}
    {address : Mac48Address} (notSource : srcPmac ≠ address)
    (notDestination : dstPmac ≠ address) :
    (ingressFrame (frame.metadata unset) srcPmac dstPmac frame.packet).Hides address ↔
      ¬ frame.RequestNames address := by
  have protocol :
      (ingressFrame (frame.metadata unset) srcPmac dstPmac frame.packet).protocol =
        frame.protocol := metadataFromPacket_protocolNumber _ _ _ _ _
  constructor
  · intro hides names
    rcases names with ⟨arp, header, parsed, request, named⟩
    have hidden := hides.payload (protocol.trans arp) header
    simp only [ingressFrame, Frame.metadata_of_arp arp parsed, rewrittenPacket, request,
      not_true_eq_false, and_false, if_false] at hidden
    exact named.elim (hidden parsed).1 (hidden parsed).2
  · intro unnamed
    refine ⟨notSource, notDestination, ?_⟩
    intro arp header parsed
    rw [protocol] at arp
    have rewritten : (rewrittenPacket { frame.metadata unset with srcPmac, dstPmac }
        frame.packet).peekArpHeader = some header := parsed
    rcases header_of_rewritten arp rewritten rfl rfl with
      ⟨original, request⟩ | ⟨sourceIs, destinationIs⟩
    · constructor
      · intro named
        exact unnamed ⟨arp, header, original, request, .inl named⟩
      · intro named
        exact unnamed ⟨arp, header, original, request, .inr named⟩
    · constructor
      · intro same
        exact notSource (Mac48Address.convertTo_inj.mp (sourceIs.symm.trans same))
      · intro same
        exact notDestination
          (Mac48Address.convertTo_inj.mp (destinationIs.symm.trans same))

/-! ## One frame from below -/

/-- The edge switch has an address for the source of a frame from below. -/
structure Admits (getAddress : Device k → Mac48Address)
    (fabric : Fabric (SwitchId k) (Device k)) (id : SwitchId k) (device : Device k)
    (index : Nat) (frame : Frame) (draw : Draw) : Prop where
  passes : PassesAt getAddress fabric id device frame
  source : (fabric.switches id).sourcePmac (frame.metadata draw.unset)
    (UInt8.ofNat index) ≠ .getBroadcast

/-- It knows the destination as well, and sends the frame on. -/
structure Forwards (getAddress : Device k → Mac48Address)
    (fabric : Fabric (SwitchId k) (Device k)) (id : SwitchId k) (device : Device k)
    (index : Nat) (frame : Frame) (draw : Draw) : Prop
    extends Admits getAddress fabric id device index frame draw where
  known : lookupAt fabric id index (frame.metadata draw.unset) ≠ none

/-- How the source address of a frame from below gets past an edge switch: in a request
that the switch sends on, or as the broadcast address, which every flood is for. -/
inductive Exposes (getAddress : Device k → Mac48Address)
    (fabric : Fabric (SwitchId k) (Device k)) (id : SwitchId k) (device : Device k)
    (index : Nat) (frame : Frame) (draw : Draw) : Prop where
  | request (forwards : Forwards getAddress fabric id device index frame draw)
      (names : frame.RequestNames frame.src)
  | flood (admits : Admits getAddress fabric id device index frame draw)
      (missed : lookupAt fabric id index (frame.metadata draw.unset) = none)
      (everyone : frame.src = .getBroadcast)

section Ingress

variable {getAddress : Device k → Mac48Address} {fabric : Fabric (SwitchId k) (Device k)}
  {device : Device k} {frame : Frame} {draw : Draw} {id : SwitchId k} {index : Nat}

theorem Exposes.admits (exposes : Exposes getAddress fabric id device index frame draw) :
    Admits getAddress fabric id device index frame draw := by
  cases exposes with
  | request forwards names => exact forwards.toAdmits
  | flood admits missed everyone => exact admits

theorem exposes_of_missed_iff
    (admits : Admits getAddress fabric id device index frame draw)
    (missed : lookupAt fabric id index (frame.metadata draw.unset) = none) :
    Exposes getAddress fabric id device index frame draw ↔ frame.src = .getBroadcast := by
  constructor
  · intro exposes
    cases exposes with
    | request forwards names => exact absurd missed forwards.known
    | flood admits missed everyone => exact everyone
  · exact .flood admits missed

theorem exposes_of_known_iff
    (forwards : Forwards getAddress fabric id device index frame draw) :
    Exposes getAddress fabric id device index frame draw ↔
      frame.RequestNames frame.src := by
  constructor
  · intro exposes
    cases exposes with
    | request forwards names => exact names
    | flood admits missed everyone => exact absurd missed forwards.known
  · exact .request forwards

section Outputs

variable {handling : Handling (Fabric (SwitchId k) (Device k)) (Message k) (Delivery k)}

/-- A switch that sends has an address for the source. -/
theorem admits_of_output (wired : Wired getAddress fabric)
    (port : device.port = some (id, false, index)) (isEdge : id.deviceType = .edge)
    (handled : handle getAddress fabric (device, frame) draw = some handling)
    (sends : handling.outputs ≠ []) :
    Admits getAddress fabric id device index frame draw := by
  by_cases passes : PassesAt getAddress fabric id device frame
  · rcases (handle_ingress_cases wired port isEdge passes handled).2.2 with
      nothing | ⟨source, -⟩ | ⟨_, _, source, -⟩
    · exact absurd nothing sends
    · exact ⟨passes, source⟩
    · exact ⟨passes, source⟩
  · rw [handle_of_stopped wired port passes] at handled
    cases handled
    exact absurd rfl sends

theorem forall_output_iff {outputs : List (Message k)} (sends : outputs ≠ [])
    (same : ∀ output ∈ outputs, output.2 = frame) (property : Frame → Prop) :
    (∀ output ∈ outputs, property output.2) ↔ property frame := by
  constructor
  · intro every
    rcases List.exists_mem_of_ne_nil outputs sends with ⟨output, member⟩
    rw [← same output member]
    exact every output member
  · intro holds output member
    rw [same output member]
    exact holds

/-- The source address of a frame from below, if it is no PMAC, stays behind the edge
switch exactly if the switch does not expose it. -/
theorem hides_iff_not_exposes (wired : Wired getAddress fabric)
    (coherent : fabric.Coherent)
    (port : device.port = some (id, false, index)) (isEdge : id.deviceType = .edge)
    (actual : ¬ IsPmac k frame.src)
    (handled : handle getAddress fabric (device, frame) draw = some handling) :
    (∀ output ∈ handling.outputs, output.2.Hides frame.src) ↔
      ¬ Exposes getAddress fabric id device index frame draw := by
  have apart {address : Mac48Address} (pmac : ∃ host : Host k, address = host.pmac) :
      address ≠ frame.src := by
    intro same
    exact actual (same ▸ pmac)
  by_cases admits : Admits getAddress fabric id device index frame draw
  · have sends :=
      outputs_ne_nil wired coherent port isEdge admits.passes admits.source handled
    have notSource :=
      apart (exists_host_of_sourcePmac wired coherent isEdge admits.source)
    rcases (handle_ingress_cases wired port isEdge admits.passes handled).2.2 with
      nothing | ⟨-, missed, flood⟩ | ⟨dstPmac, outPort, -, -, found, -, up⟩
    · exact absurd nothing sends
    · rw [flood] at sends ⊢
      rw [forall_output_iff sends (fun _ => frame_of_mem_floodOutputs) fun sent =>
        sent.Hides frame.src, hides_floodFrame_iff notSource,
          exposes_of_missed_iff admits missed]
    · have known : lookupAt fabric id index (frame.metadata draw.unset) ≠ none := by
        rw [lookupAt, found]
        exact Option.some_ne_none dstPmac
      have notDestination :=
        apart (exists_host_of_lookup wired coherent port isEdge admits.passes found)
      rw [up] at sends ⊢
      rw [forall_output_iff sends (fun _ member => (mem_onPort.mp member).1) fun sent =>
        sent.Hides frame.src, hides_ingressFrame_iff notSource notDestination,
        exposes_of_known_iff ⟨admits, known⟩]
  · have nothing : handling.outputs = [] := by
      by_contra sends
      exact admits (admits_of_output wired port isEdge handled sends)
    apply iff_of_true
    · simp [nothing]
    · intro exposes
      exact admits exposes.admits

end Outputs

end Ingress

/-! ## Frames past the edge -/

/-- A frame that some edge switch has sent on or had flooded.  Only a host gets it
without a source. -/
structure Veiled (message : Message k) : Prop where
  names : NamesByPmac k message.2
  between : message.1.port ≠ none → IsPmac k message.2.src

theorem veiled_of_isPmac {message : Message k} (src : IsPmac k message.2.src)
    (sender : SenderIsPmac k message.2) : Veiled message where
  names := ⟨.inl src, sender⟩
  between _ := src

/-- Frames enter the network from hosts. -/
def AtHost (message : Message k) : Prop := ∃ host : Host k, message.1 = host.accessPort

/-- An edge switch sends no request from below on whose sender is not a PMAC. -/
def Masked (getAddress : Device k → Mac48Address)
    (state : Courier.State (Fabric (SwitchId k) (Device k)) (Message k) Draw
      (Delivery k)) :
    Event (Message k) Draw → Prop
  | .send _ => True
  | .arrive place draw => ∀ parcel, state.inFlight[place]? = some parcel → ∀ id index,
      parcel.content.1.port = some (id, false, index) → id.deviceType = .edge →
      Forwards getAddress state.system id parcel.content.1 index parcel.content.2 draw →
      ∀ header, parcel.content.2.protocol = arpProtocol →
        parcel.content.2.packet.peekArpHeader = some header → header.isRequest = true →
        ∃ host : Host k, header.macSource = host.pmac.convertTo

section Visits

variable {getAddress : Device k → Mac48Address}
  {fabric next : Fabric (SwitchId k) (Device k)}
  {visit : Visit (Message k) Draw (Delivery k)} {id : SwitchId k} {index : Nat}

/-- What an edge switch sends on account of a frame from below is veiled, if the
requests that it sends on are. -/
theorem veiled_of_ingress (wired : Wired getAddress fabric) (coherent : fabric.Coherent)
    (makes : Makes (handle getAddress) fabric visit next)
    (port : visit.parcel.content.1.port = some (id, false, index))
    (isEdge : id.deviceType = .edge)
    (masked : Forwards getAddress fabric id visit.parcel.content.1 index
        visit.parcel.content.2
        visit.choice → ∀ header, visit.parcel.content.2.protocol = arpProtocol →
      visit.parcel.content.2.packet.peekArpHeader = some header →
      header.isRequest = true →
      ∃ host : Host k, header.macSource = host.pmac.convertTo)
    {output : Message k} (member : output ∈ visit.outputs) : Veiled output := by
  have admits := admits_of_output wired port isEdge makes (List.ne_nil_of_mem member)
  rcases exists_host_of_sourcePmac wired coherent isEdge admits.source with
    ⟨sender, sourceIs⟩
  rcases (handle_ingress_cases wired port isEdge admits.passes makes).2.2 with
    nothing | ⟨-, missed, flood⟩ | ⟨dstPmac, outPort, -, -, found, -, up⟩
  · dsimp only at nothing
    rw [nothing] at member
    cases member
  · dsimp only at flood
    rw [flood] at member
    have frame := frame_of_mem_floodOutputs member
    apply veiled_of_isPmac
    · rw [frame]
      exact ⟨sender, sourceIs⟩
    · rw [frame]
      intro _ header parsed
      rw [floodFrame, Packet.peekArpHeader_ofArpHeader _ rfl rfl] at parsed
      cases parsed
      exact ⟨sender, congrArg Mac48Address.convertTo sourceIs⟩
  · dsimp only at up
    rw [up] at member
    have frame := (mem_onPort.mp member).1
    have known : lookupAt fabric id index
        (visit.parcel.content.2.metadata visit.choice.unset) ≠
        none := by
      rw [lookupAt, found]
      exact Option.some_ne_none dstPmac
    apply veiled_of_isPmac
    · rw [frame]
      exact ⟨sender, sourceIs⟩
    · rw [frame]
      intro arp header parsed
      have arpBefore : visit.parcel.content.2.protocol = arpProtocol :=
        (metadataFromPacket_protocolNumber _ _ _ _ _).symm.trans arp
      rcases header_of_rewritten arpBefore parsed rfl rfl with
        ⟨original, request⟩ | ⟨sourceSame, -⟩
      · exact masked ⟨admits, known⟩ header arpBefore original request
      · exact ⟨sender, sourceSame.trans (congrArg Mac48Address.convertTo sourceIs)⟩

/-- A switch keeps a frame from elsewhere veiled. -/
theorem Veiled.relayed (veiled : Veiled visit.parcel.content)
    (wired : Wired getAddress fabric)
    (makes : Makes (handle getAddress) fabric visit next) {fromUpper : Bool}
    (port : visit.parcel.content.1.port = some (id, fromUpper, index))
    (inner : ¬ (fromUpper = false ∧ id.deviceType = .edge))
    {output : Message k} (member : output ∈ visit.outputs) : Veiled output := by
  have legal : (wiring getAddress).Legal (handle getAddress) [] fabric visit next :=
    ⟨wired, trivial, makes⟩
  have lower := (spread_of_legal legal).rank_lt output member
  have src : IsPmac k visit.parcel.content.2.src := veiled.between (by simp [port])
  have relay := relay_of_handle wired port makes member
  rcases output with ⟨device, frame⟩
  simp only at relay lower
  cases relay with
  | forwarded inner => exact veiled_of_isPmac src veiled.names.sender
  | translated isEdge descends unicast known =>
      apply veiled_of_isPmac
      · simpa [egressFrame] using src
      · intro arp header parsed
        have arpBefore : visit.parcel.content.2.protocol = arpProtocol :=
          (metadataFromPacket_protocolNumber _ _ _ _ _).symm.trans arp
        rcases header_of_rewritten arpBefore parsed rfl rfl with
          ⟨original, -⟩ | ⟨sourceSame, -⟩
        · exact veiled.names.sender arpBefore header original
        · rcases src with ⟨host, pmac⟩
          refine ⟨host, sourceSame.trans ?_⟩
          rw [← pmac]
          exact congrArg Mac48Address.convertTo (metadataFromPacket_srcAmac _ _ _ _ _)
  | broadcast isEdge descends toAll source sourceIs =>
      have last : visit.parcel.content.1.rank = 1 := by
        rw [Device.rank_of_port port, isEdge, descends]
        rfl
      constructor
      · constructor
        · rcases sourceIs with rfl | rfl
          · exact .inl src
          · exact .inr rfl
        · intro arp header parsed
          exact veiled.names.sender
            ((metadataFromPacket_protocolNumber _ _ _ _ _).symm.trans arp) header parsed
      · intro inside
        have positive : 0 < device.rank := Device.rank_pos inside
        omega
  | resolved isEdge ascends dstPmac destination source found =>
      exact absurd ⟨ascends, isEdge⟩ inner
  | flooded isEdge ascends source => exact absurd ⟨ascends, isEdge⟩ inner

end Visits

/-- Whatever is in flight comes from a host or is veiled. -/
structure Veil (getAddress : Device k → Mac48Address)
    (state : Courier.State (Fabric (SwitchId k) (Device k)) (Message k) Draw
      (Delivery k)) : Prop where
  wired : Wired getAddress state.system
  coherent : state.system.Coherent
  inFlight : ∀ parcel ∈ state.inFlight, AtHost parcel.content ∨ Veiled parcel.content
  delivered : ∀ parcel ∈ state.delivered, NamesByPmac k parcel.content.2

section Runs

variable {getAddress : Device k → Mac48Address}
  {state : Courier.State (Fabric (SwitchId k) (Device k)) (Message k) Draw (Delivery k)}

theorem veil_start (getAddress : Device k → Mac48Address) :
    Veil getAddress (start getAddress) where
  wired := wired_portlandSetup getAddress
  coherent := (fresh_portlandSetup getAddress).coherent
  inFlight := by simp [start]
  delivered := by simp [start]

theorem Veil.post (veil : Veil getAddress state) {message : Message k}
    (enters : AtHost message) :
    Veil getAddress (state.post message) where
  wired := veil.wired
  coherent := veil.coherent
  inFlight parcel member := by
    rcases List.mem_append.mp member with earlier | new
    · exact veil.inFlight parcel earlier
    · rw [List.mem_singleton.mp new]
      exact .inl enters
  delivered := veil.delivered

theorem AtHost.port_ne_none {message : Message k} (atHost : AtHost message) :
    message.1.port ≠ none := by
  rcases atHost with ⟨host, atPort⟩
  rw [atPort, Host.port_accessPort]
  exact Option.some_ne_none _

theorem AtHost.ingress {message : Message k} (atHost : AtHost message) {id : SwitchId k}
    {fromUpper : Bool} {index : Nat}
    (port : message.1.port = some (id, fromUpper, index)) :
    fromUpper = false ∧ id.deviceType = .edge := by
  rcases atHost with ⟨host, atPort⟩
  rw [atPort, Host.port_accessPort] at port
  cases port
  exact ⟨rfl, rfl⟩

theorem Veil.record (veil : Veil getAddress state) {place : Nat}
    {visit : Visit (Message k) Draw (Delivery k)}
    {system : Fabric (SwitchId k) (Device k)}
    (present : state.inFlight[place]? = some visit.parcel)
    (makes : Makes (handle getAddress) state.system visit system)
    (masked : Masked getAddress state (.arrive place visit.choice)) :
    Veil getAddress (state.record place visit system) := by
  have before := veil.inFlight visit.parcel (List.mem_of_getElem? present)
  refine ⟨veil.wired.handle makes, veil.coherent.handle makes, ?_, ?_⟩
  · intro parcel member
    rcases List.mem_append.mp member with earlier | new
    · exact veil.inFlight parcel (List.mem_of_mem_eraseIdx earlier)
    · have sent := (Visit.mem_forwarded.mp new).2.2
      apply Or.inr
      cases port : visit.parcel.content.1.port with
      | none =>
          rcases makes_at_host makes port with ⟨-, -, -, outputs, -⟩
          rw [outputs] at sent
          cases sent
      | some at' =>
          rcases at' with ⟨id, fromUpper, index⟩
          by_cases ingress : fromUpper = false ∧ id.deviceType = .edge
          · rcases ingress with ⟨rfl, isEdge⟩
            exact veiled_of_ingress veil.wired veil.coherent makes port isEdge
              (masked visit.parcel present id index port isEdge) sent
          · have veiled := before.resolve_left fun atHost => ingress (atHost.ingress port)
            exact veiled.relayed veil.wired makes port ingress sent
  · intro parcel member
    rcases List.mem_append.mp member with earlier | new
    · exact veil.delivered parcel earlier
    · rcases List.mem_map.mp new with ⟨delivery, handed, rfl⟩
      cases port : visit.parcel.content.1.port with
      | none =>
          rcases makes_at_host makes port with ⟨host, -, -, -, deliveries⟩
          rw [deliveries, List.mem_singleton] at handed
          rw [handed]
          exact (before.resolve_left fun atHost => atHost.port_ne_none port).names
      | some at' =>
          have deliveries := (fate_of_handle veil.wired port makes).2
          dsimp only at deliveries
          rw [deliveries] at handed
          cases handed

theorem Veil.step {event : Event (Message k) Draw} (veil : Veil getAddress state)
    (permits : event.Permitted AtHost) (masked : Masked getAddress state event)
    {next : Courier.State (Fabric (SwitchId k) (Device k)) (Message k) Draw (Delivery k)}
    (stepped : Courier.step (handle getAddress) state event = some next) :
    Veil getAddress next := by
  rcases step_cases stepped with
    ⟨message, rfl, rfl⟩ | ⟨place, visit, system, rfl, present, makes, rfl⟩
  · exact veil.post permits
  · exact veil.record present makes masked

/-- In every state of the network, an edge switch hides the source address of a frame
from below, if it is no PMAC, exactly if it does not expose it.  In a run where no
request is sent on whose sender is not a PMAC, every frame that a host gets names its
sender by PMAC. -/
theorem amac_concealed_iff {events : List (Event (Message k) Draw)}
    {final : Courier.State (Fabric (SwitchId k) (Device k)) (Message k) Draw (Delivery k)}
    (fromHosts : ∀ event ∈ events, event.Permitted AtHost)
    (ran : (Courier.step (handle getAddress)).run (start getAddress) events =
      some final) :
    (∀ id device index frame draw handling, device.port = some (id, false, index) →
      id.deviceType = .edge → ¬ IsPmac k frame.src →
      handle getAddress final.system (device, frame) draw = some handling →
      ((∀ output ∈ handling.outputs, output.2.Hides frame.src) ↔
        ¬ Exposes getAddress final.system id device index frame draw)) ∧
    ((Courier.step (handle getAddress)).EveryStep (Masked getAddress) (start getAddress)
      events → ∀ parcel ∈ final.delivered, NamesByPmac k parcel.content.2) := by
  constructor
  · intro id device index frame draw handling port isEdge actual handled
    rcases wired_coherent_of_reachable ⟨events, fromHosts, ran⟩ with ⟨wired, coherent⟩
    exact hides_iff_not_exposes wired coherent port isEdge actual handled
  · intro every
    have veil : Veil getAddress final := every.preserves (Veil getAddress)
      (fun _ _ _ permits masked veil stepped => veil.step permits masked stepped)
        fromHosts
      (veil_start getAddress) ran
    exact veil.delivered

theorem numbered_not_isPmac (fits : k * (k / 2) * (k / 2) ≤ 2 ^ 32) (host : Host k) :
    ¬ IsPmac k ((Addressing.numbered k fits).amac host) := by
  intro isPmac
  rcases isPmac with ⟨other, same⟩
  have first := congrArg Mac48Address.octet0 same
  cases first

/-- A datagram, which is no request, under the rule. -/
theorem amac_concealed_iff_datagram :
    let network := Addressing.numbered 4 (by norm_num)
    let host : Host 4 := ⟨0, 0, 0⟩
    let frame := network.datagram host .getBroadcast ⟨7⟩
    ∃ events final, (Courier.step (handle network.hardware)).run (start network.hardware)
        events = some final ∧
      (∃ handling, handle network.hardware final.system (host.accessPort, frame) {} =
          some handling ∧ ∀ output ∈ handling.outputs,
            output.2.Hides (network.amac host)) ∧
      ∀ parcel ∈ final.delivered, NamesByPmac 4 parcel.content.2 := by
  intro network host frame
  have ipv4 : frame.protocol ≠ arpProtocol := arpProtocol_ne_ipv4Protocol.symm
  have wired := wired_portlandSetup network.hardware
  rcases exists_handling wired (host.accessPort, frame) {} with ⟨handling, handled⟩
  let message : Message 4 := (host.accessPort, frame)
  let visit : Visit (Message 4) Draw (Delivery 4) :=
    { parcel := { tag := 0, hops := 0, content := message }
      choice := {}
      outputs := handling.outputs
      deliveries := handling.deliveries }
  let posted := (start network.hardware).post message
  have makes : Makes (handle network.hardware) posted.system visit handling.system :=
    handled
  have present : posted.inFlight[0]? = some visit.parcel := rfl
  have stepped := step_arrive present makes
  have ran : (Courier.step (handle network.hardware)).run (start network.hardware)
      [.send message, .arrive 0 {}] = some (posted.record 0 visit handling.system) := by
    rw [PartialStep.run_cons_eq_some]
    refine ⟨posted, rfl, ?_⟩
    rw [PartialStep.run_singleton]
    exact stepped
  have fromHosts :
      ∀ event ∈ ([.send message, .arrive 0 {}] : List (Event (Message 4) Draw)),
      event.Permitted AtHost := by
    intro event member
    rcases List.mem_cons.mp member with rfl | later
    · exact ⟨host, rfl⟩
    · rw [List.mem_singleton.mp later]
      trivial
  have concealed := amac_concealed_iff fromHosts ran
  rcases exists_handling (wired.handle handled) (host.accessPort, frame) {} with
    ⟨again, handledAgain⟩
  have hides := concealed.1 host.edge host.accessPort host.port frame {} again
    host.port_accessPort rfl (numbered_not_isPmac (by norm_num) host) handledAgain
  refine ⟨[.send message, .arrive 0 {}], posted.record 0 visit handling.system, ran,
    ⟨again, handledAgain, hides.mpr ?_⟩, concealed.2 ?_⟩
  · intro exposes
    cases exposes with
    | request forwards names => exact ipv4 names.1
    | flood admits missed everyone => exact network.amac_ne_broadcast host everyone
  · intro next sent
    have same : posted = next := Option.some.inj sent
    subst same
    refine ⟨trivial, ?_⟩
    intro _ arrived
    refine ⟨?_, trivial⟩
    intro parcel present id index port isEdge forwards header arp
    have only :
        posted.inFlight[0]? = some { tag := 0, hops := 0, content := message } := rfl
    rw [only] at present
    rw [← Option.some.inj present] at arp
    exact absurd arp ipv4

/-- A host in one pod asks for one in another that has been heard: its edge switch sends
the request on with the AMAC of the host in it, and the other gets it so. -/
theorem request_exposes_amac :
    let network := Addressing.numbered 4 (by norm_num)
    let asking : Host 4 := ⟨0, 0, 0⟩
    let asked : Host 4 := ⟨3, 1, 1⟩
    let request := network.sendArpRequest asking (network.ip asked)
    ∃ state, (Courier.step (handle network.hardware)).Reachable
        (Event.Permitted network.FromHost) (start network.hardware) state ∧
      ¬ IsPmac 4 (network.amac asking) ∧ request.src = network.amac asking ∧
      (∃ handling output,
        handle network.hardware state.system (asking.accessPort, request) {} =
        some handling ∧ output ∈ handling.outputs ∧
          ¬ output.2.Hides (network.amac asking)) ∧
      ∃ events final, (Courier.step (handle network.hardware)).run
          (state.post (asking.accessPort, request)) events = some final ∧
        ∃ parcel ∈ final.delivered, parcel.content.1 = asked ∧
          ¬ NamesByPmac 4 parcel.content.2 := by
  intro network asking asked request
  have unclaimed : network.Unclaimed .getBroadcast :=
    Addressing.numbered_unclaimed_broadcast _ _
  have asks := network.sentBy_sendArpRequest asking unclaimed (network.ip asked)
  have actual := numbered_not_isPmac (by norm_num) asking
  rcases first_frame_wins asks (network.sentBy_sendArpRequest asked unclaimed ⟨7⟩) with
    ⟨state, reached, heard, -⟩
  have holds :=
    (hostTraffic_kept network).holds_of_reachable (hostTraffic_start network) reached
  have knows : Knows network (HeardIn state.visits) state.system := holds.good
  have isHeard : HeardIn state.visits asked := (heard asked).mpr (.inr rfl)
  have registered := (knows.isIPRegistered_iff asked).mpr isHeard
  have parsed : request.packet.peekArpHeader =
      some (.setRequest (network.amac asking).convertTo
      (network.ip asking) Mac48Address.getBroadcast.convertTo (network.ip asked)) :=
    Packet.peekArpHeader_ofArpHeader _ rfl rfl
  have destination : (request.metadata false).dstIp = network.ip asked := by
    rw [Frame.metadata_of_arp rfl parsed]
    rfl
  have apart (host : Host 4) : host.pmac ≠ network.amac asking :=
    fun same => actual ⟨host, same.symm⟩
  refine ⟨state, reached, actual, rfl,
    ⟨_, _, handle_up_at_edge knows asks destination isHeard,
    List.mem_singleton_self _, ?_⟩, ?_⟩
  · rw [carried, hides_ingressFrame_iff (apart asking) (apart asked), not_not]
    exact ⟨rfl, _, parsed, rfl, .inl rfl⟩
  · have fromHost : (Event.send (asking.accessPort, request) :
        Event (Message 4) Draw).Permitted network.FromHost := ⟨asking, rfl, asks⟩
    have once := delivered_of_registered (by norm_num)
      ((hostTraffic_kept network).holds_step holds fromHost rfl)
      (holds.tagged.unspent_post (asking.accessPort, request)) asks destination registered
    rcases (once [] _ (by simp) rfl).2 with ⟨more, final, -, ran, arrived⟩
    have received :=
      List.mem_of_mem_filter (arrived.received ▸ List.mem_singleton.mpr rfl)
    refine ⟨more, final, ran, _, received, rfl, ?_⟩
    intro names
    rw [handedOver_of_request rfl parsed rfl] at names
    rcases names.sender rfl _ parsed with ⟨host, same⟩
    exact apart host (Mac48Address.convertTo_inj.mp same).symm

end Runs

end DataCenter.Portland
