import DataCenter.Portland.Hops
import DataCenter.Portland.Traffic
import DataCenter.Portland.Translation

/-! # Frames from below an edge switch

In every state of the network, the address that an edge switch puts for the source of a
frame and the one that it finds for the destination are PMACs of hosts, and a frame whose
source has an address leaves the switch or has a flood made for it. -/

namespace DataCenter.Portland

open Courier PortlandSwitchNetDevice

variable {k : Nat}

/-! ## Coherence in the network -/

theorem Fabric.Coherent.handle {getAddress : Device k → Mac48Address}
    {fabric : Fabric (SwitchId k) (Device k)} (coherent : fabric.Coherent)
    {message : Message k} {draw : Draw}
    {handling : Handling (Fabric (SwitchId k) (Device k)) (Message k) (Delivery k)}
    (handled : Portland.handle getAddress fabric message draw = some handling) :
    handling.system.Coherent := by
  rw [Portland.handle] at handled
  split at handled
  · cases handled
    exact coherent
  · split at handled
    · next received =>
        cases handled
        exact coherent.step received
    · cases handled

/-- In every state of the network, whatever was sent, the switches are wired and
their tables coherent. -/
theorem wired_coherent_of_reachable {getAddress : Device k → Mac48Address}
    {permitted : Message k → Prop}
    {state : Courier.State (Fabric (SwitchId k) (Device k)) (Message k) Draw (Delivery k)}
    (reached : (step (handle getAddress)).Reachable (Event.Permitted permitted)
      (start getAddress) state) :
    Wired getAddress state.system ∧ state.system.Coherent := by
  apply reached.invariant
    (fun state => Wired getAddress state.system ∧ state.system.Coherent) ?_
    ⟨wired_portlandSetup getAddress, (fresh_portlandSetup getAddress).coherent⟩
  intro state event next _ both stepped
  rcases step_cases stepped with
    ⟨message, rfl, rfl⟩ | ⟨index, visit, system, rfl, present, makes, rfl⟩
  · exact both
  · exact ⟨both.1.handle makes, both.2.handle makes⟩

/-! ## Addresses of hosts -/

section Addresses

variable {getAddress : Device k → Mac48Address} {fabric : Fabric (SwitchId k) (Device k)}
  {id : SwitchId k}

/-- An edge switch assigns the PMACs of its hosts. -/
theorem exists_host_of_assignedPmac (wired : Wired getAddress fabric)
    (isEdge : id.deviceType = .edge) {inPort : UInt8}
    (inRange : inPort.toNat < (fabric.switches id).lowerPorts.length) :
    ∃ host : Host k, (fabric.switches id).assignedPmac inPort = host.pmac := by
  rw [wired.length_lowerPorts] at inRange
  cases id with
  | edge pod position =>
      have bound : inPort.toNat < k / 2 := by simpa [SwitchId.lower] using inRange
      refine ⟨⟨pod, position, ⟨inPort.toNat, bound⟩⟩, ?_⟩
      rw [assignedPmac_eq, wired.pod, wired.position]
      simp [Host.pmac, SwitchId.pod, SwitchId.position]
  | aggregation pod position => cases isEdge
  | core group position => cases isEdge

theorem exists_host_of_stored (wired : Wired getAddress fabric)
    (coherent : fabric.Coherent) {pmac : Mac48Address} {entry : PMACEntry}
    (stored : (fabric.switches id).table.mapping[pmac]? = some entry) :
    ∃ host : Host k, pmac = host.pmac := by
  rcases coherent.entry id pmac entry stored with ⟨isEdge, keyIs, inRange⟩
  rw [wired.deviceType] at isEdge
  rw [keyIs]
  exact exists_host_of_assignedPmac wired isEdge inRange

/-- Every address that a lookup answers is the PMAC of a host. -/
theorem exists_host_of_resolve (wired : Wired getAddress fabric)
    (coherent : fabric.Coherent) {ip : Ipv4Address} {pmac : Mac48Address}
    (resolved : (fabric.switches id).resolve fabric.manager ip = some pmac) :
    ∃ host : Host k, pmac = host.pmac := by
  rcases coherent.exists_of_resolve resolved with ⟨other, entry, stored⟩
  exact exists_host_of_stored wired coherent stored

/-- So is every address that an edge switch puts for a source. -/
theorem exists_host_of_sourcePmac (wired : Wired getAddress fabric)
    (coherent : fabric.Coherent)
    (isEdge : id.deviceType = .edge) {metadata : SwitchPacketMetadata} {inPort : UInt8}
    (source : (fabric.switches id).sourcePmac metadata inPort ≠ .getBroadcast) :
    ∃ host : Host k, (fabric.switches id).sourcePmac metadata inPort = host.pmac := by
  rw [sourcePmac] at source ⊢
  rw [newEntry] at source ⊢
  split
  · next entry registers =>
      split at registers
      · next fresh =>
          cases registers
          exact exists_host_of_assignedPmac wired isEdge fresh.1
      · cases registers
  · next registers =>
      rw [registers] at source
      dsimp only at source
      split at source
      · next inRange =>
          rw [if_pos inRange]
          rcases (fabric.switches id).table.findPMACOfAmac_cases metadata.srcAmac with
            ⟨entry, stored, -⟩ | ⟨missing, -⟩
          · exact exists_host_of_stored wired coherent stored
          · exact absurd missing source
      · exact absurd rfl source

end Addresses

/-! ## What an edge switch sends -/

section Ingress

variable {getAddress : Device k → Mac48Address} {fabric : Fabric (SwitchId k) (Device k)}
  {device : Device k} {frame : Frame} {draw : Draw} {id : SwitchId k} {index : Nat}

theorem floodOutputs_ne_nil (wired : Wired getAddress fabric)
    (isEdge : id.deviceType = .edge)
    (frame : Frame) : floodOutputs fabric.manager.switches frame ≠ [] := by
  cases id with
  | edge i j =>
      have pods : 0 < k := Nat.lt_of_le_of_lt (Nat.zero_le _) i.isLt
      have sends : ((Link.aggregationCore j j ⟨0, pods⟩).get 0, frame) ∈
          floodOutputs fabric.manager.switches frame := by
        apply mem_floodOutputs.mpr
        refine ⟨.core j j, wired.member _, rfl,
          0, by simpa [SwitchId.lower] using pods, ?_⟩
        exact mem_onPort.mpr ⟨rfl, rfl⟩
      exact List.ne_nil_of_mem sends
  | aggregation i j => cases isEdge
  | core i j => cases isEdge

/-- What an edge switch finds for the destination of a frame, once it has learned the
source. -/
abbrev lookupAt (fabric : Fabric (SwitchId k) (Device k)) (id : SwitchId k) (index : Nat)
    (metadata : SwitchPacketMetadata) : Option Mac48Address :=
  ((fabric.switches id).learn ((fabric.switches id).newEntry metadata
    (UInt8.ofNat index))).resolve
      (fabric.manager.learn ((fabric.switches id).newEntry metadata
      (UInt8.ofNat index))) metadata.dstIp

theorem exists_host_of_lookup (wired : Wired getAddress fabric)
    (coherent : fabric.Coherent)
    (port : device.port = some (id, false, index)) (isEdge : id.deviceType = .edge)
    (passes : PassesAt getAddress fabric id device frame) {dstPmac : Mac48Address}
    (found : lookupAt fabric id index (frame.metadata draw.unset) = some dstPmac) :
    ∃ host : Host k, dstPmac = host.pmac := by
  rcases exists_handling wired (device, frame) draw with ⟨handling, handled⟩
  have system := (handle_ingress_cases wired port isEdge passes handled).1
  have again : (handling.system.switches id).resolve handling.system.manager
      (frame.metadata draw.unset).dstIp = some dstPmac := by
    rw [system, Fabric.registered]
    simp only [Function.update_self, learn_withReceived, resolve_withReceived]
    exact found
  exact exists_host_of_resolve (wired.handle handled) (coherent.handle handled) again

/-- A frame whose source has an address is sent up or has a flood made for it. -/
theorem outputs_ne_nil (wired : Wired getAddress fabric) (coherent : fabric.Coherent)
    (port : device.port = some (id, false, index)) (isEdge : id.deviceType = .edge)
    (passes : PassesAt getAddress fabric id device frame)
    (source : (fabric.switches id).sourcePmac (frame.metadata draw.unset)
      (UInt8.ofNat index) ≠ .getBroadcast)
    {handling : Handling (Fabric (SwitchId k) (Device k)) (Message k) (Delivery k)}
    (handled : handle getAddress fabric (device, frame) draw = some handling) :
    handling.outputs ≠ [] := by
  cases resolved : lookupAt fabric id index (frame.metadata draw.unset) with
  | none =>
      rw [handle_ingress_missed wired port isEdge passes source resolved] at handled
      cases handled
      exact floodOutputs_ne_nil wired isEdge _
  | some dstPmac =>
      rcases exists_host_of_lookup wired coherent port isEdge passes resolved with
        ⟨target, rfl⟩
      cases id with
      | edge pod position =>
          have output := wired.outPort_edge pod position draw.rand target
          rw [handle_ingress_resolved wired port isEdge passes source resolved
            target.pmac_ne_broadcast ((getOutputPort_learn _ _ _ _).trans output)
            (Int.natCast_nonneg _)] at handled
          cases handled
          rw [toUInt8_natCast, onPort_edge_upper]
          exact List.cons_ne_nil _ _
      | aggregation pod position => cases isEdge
      | core group position => cases isEdge

end Ingress

end DataCenter.Portland
