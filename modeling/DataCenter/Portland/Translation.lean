import DataCenter.Portland.Fabric

/-! # Translation at the destination edge

Every PMAC that a lookup answers with is a key of the table of the edge switch
that it names, and stays one. -/

namespace DataCenter.Portland.Fabric

open PortlandSwitchNetDevice

variable {ι δ : Type}

/-- No two edge switches have one pod and position. -/
def DistinctEdges (fabric : Fabric ι δ) : Prop :=
  ∀ i j, (fabric.switches i).deviceType = .edge → (fabric.switches j).deviceType = .edge →
    (fabric.switches i).pod = (fabric.switches j).pod →
    (fabric.switches i).position = (fabric.switches j).position → i = j

/-- The edge switch whose pod and position a PMAC encodes, with a lower port of
that switch in the port octet. -/
structure Owns (fabric : Fabric ι δ) (i : ι) (pmac : Mac48Address) : Prop where
  deviceType : (fabric.switches i).deviceType = .edge
  encodes : pmac = (fabric.switches i).assignedPmac pmac.octet3
  port : pmac.octet3.toNat < (fabric.switches i).lowerPorts.length

theorem Owns.eq {fabric : Fabric ι δ} (distinct : fabric.DistinctEdges) {i j : ι}
    {pmac : Mac48Address} (first : fabric.Owns i pmac) (second : fabric.Owns j pmac) :
    i = j := by
  have same := first.encodes.symm.trans second.encodes
  rw [assignedPmac_eq, assignedPmac_eq, pseudo_inj] at same
  exact distinct i j first.deviceType second.deviceType same.1 same.2.1

theorem DistinctEdges.congr {left right : Fabric ι δ} (same : left.SameConfig right)
    (distinct : right.DistinctEdges) : left.DistinctEdges := by
  intro i j iEdge jEdge samePod samePosition
  rw [same.deviceType] at iEdge jEdge
  have pods (i : ι) : (left.switches i).pod = (right.switches i).pod :=
    congrArg SwitchConfig.pod (same i)
  have positions (i : ι) : (left.switches i).position = (right.switches i).position :=
    congrArg SwitchConfig.position (same i)
  rw [pods, pods] at samePod
  rw [positions, positions] at samePosition
  exact distinct i j iEdge jEdge samePod samePosition

theorem lone_distinctEdges : lone.DistinctEdges := fun _ _ _ _ _ _ => rfl

theorem Coherent.owns {fabric : Fabric ι δ} (coherent : fabric.Coherent) {i : ι}
    {pmac : Mac48Address} {entry : PMACEntry}
    (stored : (fabric.switches i).table.mapping[pmac]? = some entry) :
    fabric.Owns i pmac := by
  rcases coherent.entry i pmac entry stored with ⟨isEdge, keyIs, bound⟩
  have portIs : pmac.octet3 = entry.port := by
    rw [keyIs]
    rfl
  exact ⟨isEdge, by rw [portIs]; exact keyIs, by rw [portIs]; exact bound⟩

/-- A lookup answers with a key of some table. -/
theorem Coherent.exists_of_resolve {fabric : Fabric ι δ} (coherent : fabric.Coherent)
    {j : ι} {ip : Ipv4Address} {pmac : Mac48Address}
    (resolved : (fabric.switches j).resolve fabric.manager ip = some pmac) :
    ∃ i entry, (fabric.switches i).table.mapping[pmac]? = some entry := by
  rw [resolve] at resolved
  split at resolved
  · next known =>
      have holds := (PMACTable.findPortOfIp_ne_neg_one_iff _ _).mp known
      rcases PMACTable.exists_of_holdsIp holds with ⟨entry, stored, -⟩
      cases resolved
      exact ⟨j, entry, stored⟩
  · split at resolved
    · next registered =>
        rcases (fabric.manager.isIPRegistered_iff ip).mp registered with ⟨held, stored⟩
        rw [FabricManager.getPMACforIP_of_getElem? stored] at resolved
        cases resolved
        exact coherent.held ip pmac stored
    · cases resolved

variable [DecidableEq ι] [DecidableEq δ]

/-- A frame that comes down to a switch for the PMAC, and that neither the port
device nor the switch takes for its own, leaves for the AMAC on the port of the
PMAC.  A switch that has the broadcast address for the AMAC does not send it. -/
def Translates (switch : PortlandSwitchNetDevice δ) (pmac amac : Mac48Address) : Prop :=
  ∀ (manager : FabricManager ι) (surroundings : Surroundings ι) (netdev : δ)
    (inPort : UInt8) (frame : Frame) (packetType : PacketType),
    switch.findInPort netdev = some (true, inPort) → switch.Passes frame packetType →
    frame.dst = pmac →
      ∃ card, switch.config.port false pmac.octet3 = some card ∧
        switch.receiveFromDevice manager surroundings netdev frame packetType = .ok
          { switch := switch.withReceived netdev frame.packet
            fabricManager := manager
            actions := (if packetType = .otherhost then [toNode frame] else []) ++
              if amac = .getBroadcast then []
              else [.sendFrom false pmac.octet3 card
                (egressFrame (metadataFromPacket surroundings.unset frame.packet frame.src
                  frame.dst frame.protocol) amac frame.packet) (surroundings.isSent 0)] }

omit [DecidableEq ι] [DecidableEq δ] in
/-- The switch that a PMAC names computes the port in the PMAC. -/
theorem Owns.getOutputPort_eq {fabric : Fabric ι δ} {i : ι} {pmac : Mac48Address}
    (owner : fabric.Owns i pmac) (rand : Nat) :
    (fabric.switches i).getOutputPort rand pmac = .ok pmac.octet3.toNat := by
  conv_lhs => rw [owner.encodes, assignedPmac_eq, getOutputPort_pseudo]
  simp [owner.deviceType]

omit [DecidableEq ι] [DecidableEq δ] in
theorem Owns.exists_port {fabric : Fabric ι δ} {i : ι} {pmac : Mac48Address}
    (owner : fabric.Owns i pmac) :
    ∃ card, (fabric.switches i).config.port false pmac.octet3 = some card :=
  ⟨((fabric.switches i).lowerPorts.get ⟨pmac.octet3.toNat, owner.port⟩).netdev,
    by simp [SwitchConfig.port, config, owner.port]⟩

omit [DecidableEq ι] [DecidableEq δ] in
/-- A frame that comes down for a PMAC of the switch, with what the table says of it. -/
theorem receiveAtEdgeFromUpper_of_lookup {switch : PortlandSwitchNetDevice δ}
    {metadata : SwitchPacketMetadata} {surroundings : Surroundings ι}
    {pmac amac : Mac48Address} {card : δ} (addressed : metadata.dstPmac = pmac)
    (unicast : pmac ≠ .getBroadcast) (recorded : switch.table.findAMACOfPmac pmac = amac)
    (output : switch.getOutputPort surroundings.rand pmac = .ok pmac.octet3.toNat)
    (port : switch.config.port false pmac.octet3 = some card) (manager : FabricManager ι)
    (packet : Packet) :
    switch.receiveAtEdgeFromUpper manager surroundings metadata packet = .ok
      { switch
        fabricManager := manager
        actions := if amac = .getBroadcast then []
          else [.sendFrom false pmac.octet3 card (egressFrame metadata amac packet)
            (surroundings.isSent 0)] } := by
  subst addressed
  by_cases unknown : amac = .getBroadcast
  · rw [receiveAtEdgeFromUpper_eq unicast]
    simp [recorded, unknown]
  · rw [receiveAtEdgeFromUpper_of_known unicast (recorded.trans_ne unknown) output,
      recorded, toUInt8_toNat, SwitchConfig.transmit, port, if_neg unknown]

/-- The owner of a PMAC puts the AMAC that it recorded into a frame that comes
down to it. -/
theorem Owns.translates {fabric : Fabric ι δ} {i : ι} {pmac : Mac48Address}
    {entry : PMACEntry} (owner : fabric.Owns i pmac)
    (stored : (fabric.switches i).table.mapping[pmac]? = some entry) :
    Translates (ι := ι) (fabric.switches i) pmac entry.amac := by
  intro manager surroundings netdev inPort frame packetType found passes addressed
  rcases owner.exists_port with ⟨card, port⟩
  refine ⟨card, port, ?_⟩
  have layer : ((fabric.switches i).withReceived netdev frame.packet).deviceType =
      .edge :=
    owner.deviceType
  have target :=
    (metadataFromPacket_dstPmac surroundings.unset frame.packet frame.src frame.dst
    frame.protocol).trans addressed
  have unicast : pmac ≠ .getBroadcast := by
    rw [owner.encodes]
    exact pseudo_ne_broadcast _ _ _
  have recorded :
      ((fabric.switches i).withReceived netdev frame.packet).table.findAMACOfPmac
      pmac = entry.amac := PMACTable.findAMACOfPmac_of_getElem? stored
  have output := (getOutputPort_withReceived (fabric.switches i) netdev frame.packet
    surroundings.rand pmac).trans (owner.getOutputPort_eq _)
  have portThen : ((fabric.switches i).withReceived netdev frame.packet).config.port false
      pmac.octet3 = some card := by
    rw [config_withReceived]
    exact port
  rw [receiveFromDevice_eq found, if_pos passes]
  simp only [receiveParsed, layer]
  rw [receiveAtEdgeFromUpper_of_lookup target unicast recorded output portThen]
  rfl

/-- A PMAC that the manager stores or that any switch's lookup answers with is a
key of the table of the one edge switch that it names, now and for ever after.
A frame that goes through the pipeline of that switch on its way down is sent on
the port of the PMAC, unless the AMAC on record is the broadcast address. -/
theorem answered_pmac_is_translated {initial fabric later : Fabric ι δ}
    (fresh : initial.Fresh) (distinct : initial.DistinctEdges)
    (reached : step.Reachable (fun _ => True) initial fabric)
    (after : step.Reachable (fun _ => True) fabric later) {pmac : Mac48Address}
    (answered : (∃ ip : Ipv4Address, fabric.manager.ipPMACTable[ip]? = some pmac) ∨
      ∃ j ip, (fabric.switches j).resolve fabric.manager ip = some pmac) :
    ∃ i entry, (fabric.switches i).table.mapping[pmac]? = some entry ∧
      (later.switches i).table.mapping[pmac]? = some entry ∧
      later.Owns i pmac ∧ (∀ j, later.Owns j pmac → j = i) ∧
      Translates (ι := ι) (later.switches i) pmac entry.amac := by
  rcases coherent_of_reachable fresh.coherent reached with ⟨coherent, -⟩
  rcases coherent_of_reachable fresh.coherent (reached.trans after) with
    ⟨laterCoherent, same⟩
  have found : ∃ i entry, (fabric.switches i).table.mapping[pmac]? = some entry := by
    rcases answered with ⟨ip, held⟩ | ⟨j, ip, resolved⟩
    · exact coherent.held ip pmac held
    · exact coherent.exists_of_resolve resolved
  rcases found with ⟨i, entry, stored⟩
  have still := stored_of_reachable after stored
  have owner := laterCoherent.owns still
  refine ⟨i, entry, stored, still, owner, ?_, owner.translates still⟩
  intro j other
  exact other.eq (distinct.congr same) owner

/-- The lone switch translates the PMAC of a host it has heard. -/
theorem answered_pmac_is_translated_lone :
    ∃ fabric, step.run lone [datagram false 1 ⟨2, 0, 0, 0, 0, 1⟩ ⟨2, 0, 0, 0, 0, 2⟩] =
        some fabric ∧
      ∃ i entry, (fabric.switches i).table.mapping[pseudo 0 0 0]? = some entry ∧
        (fabric.switches i).table.mapping[pseudo 0 0 0]? = some entry ∧
        fabric.Owns i (pseudo 0 0 0) ∧ (∀ j, fabric.Owns j (pseudo 0 0 0) → j = i) ∧
        Translates (ι := Unit) (fabric.switches i) (pseudo 0 0 0) entry.amac := by
  have ends :
      ((step.run lone [datagram false 1 ⟨2, 0, 0, 0, 0, 1⟩ ⟨2, 0, 0, 0, 0, 2⟩]).map
      fun fabric => fabric.manager.ipPMACTable[(⟨0x0a000001⟩ : Ipv4Address)]?) =
      some (some (pseudo 0 0 0)) := by decide
  rcases Option.map_eq_some_iff.mp ends with ⟨fabric, ran, held⟩
  exact ⟨fabric, ran, answered_pmac_is_translated lone_fresh lone_distinctEdges
    ⟨_, by simp, ran⟩ (.refl _ _ _) (.inl ⟨_, held⟩)⟩

/-- A frame with the broadcast address as its source gives its IP a PMAC whose
frames the owner drops: it only hands them to its own node. -/
theorem broadcast_amac_is_dropped :
    ∃ fabric next,
      step.run lone [datagram false 1 .getBroadcast ⟨2, 0, 0, 0, 0, 2⟩] = some fabric ∧
      fabric.manager.ipPMACTable[(⟨0x0a000001⟩ : Ipv4Address)]? = some (pseudo 0 0 0) ∧
      fabric.Owns () (pseudo 0 0 0) ∧
      fabric.receive (datagram true 3 ⟨2, 0, 0, 0, 0, 3⟩ (pseudo 0 0 0)) =
        .ok (next,
          [((), toNode (datagram true 3 ⟨2, 0, 0, 0, 0, 3⟩ (pseudo 0 0 0)).frame)]) := by
  have ends :
      ((step.run lone [datagram false 1 .getBroadcast ⟨2, 0, 0, 0, 0, 2⟩]).map
        fun fabric =>
      (fabric.manager.ipPMACTable[(⟨0x0a000001⟩ : Ipv4Address)]?,
        (fabric.receive (datagram true 3 ⟨2, 0, 0, 0, 0, 3⟩ (pseudo 0 0 0))).toOption.map
          Prod.snd)) =
      some (some (pseudo 0 0 0), some
        [((), toNode (datagram true 3 ⟨2, 0, 0, 0, 0, 3⟩ (pseudo 0 0 0)).frame)]) := by
    decide
  rcases Option.map_eq_some_iff.mp ends with ⟨fabric, ran, results⟩
  have held := congrArg Prod.fst results
  have sent := congrArg Prod.snd results
  have coherent := coherent_of_run lone_fresh.coherent ran
  rcases coherent.held _ _ held with ⟨i, entry, stored⟩
  cases received : fabric.receive (datagram true 3 ⟨2, 0, 0, 0, 0, 3⟩ (pseudo 0 0 0)) with
  | error fault => simp [received, Except.toOption] at sent
  | ok result =>
      have actionsAre : result.2 =
          [((), toNode (datagram true 3 ⟨2, 0, 0, 0, 0, 3⟩ (pseudo 0 0 0)).frame)] := by
        simpa [received, Except.toOption] using sent
      exact ⟨fabric, result.1, ran, held,
        coherent.owns stored, by rw [received, ← actionsAre]⟩

end DataCenter.Portland.Fabric
