import DataCenter.Portland.Fabric
import DataCenter.Portland.Replication

/-! # The address that a frame gets on entry

`GetSourcePMAC` asks its table for the source IP and then, if it is there, for the
source AMAC.  The answer is the address of the ingress port only as long as the
two agree with what the first frame at that port said. -/

namespace DataCenter.Portland

open Std PortlandSwitchNetDevice

variable {δ ι : Type}

/-- PMACs of one edge switch are ordered by their ports. -/
theorem compare_pseudo_lt_iff (pod position port other : UInt8) :
    compare (pseudo pod position port) (pseudo pod position other) = .lt ↔
      port < other := by
  change ((compare (0 : UInt8) 0).then <| (compare pod pod).then <|
    (compare position position).then <| (compare port other).then <|
      (compare (0 : UInt8) 0).then (compare (1 : UInt8) 1)) = .lt ↔ port < other
  simp only [compare_self, Ordering.then_eq, Ordering.eq_then]
  exact compare_eq_lt

namespace PortlandSwitchNetDevice

/-- The entry of a lower port. -/
def portEntry (switch : PortlandSwitchNetDevice δ) (port : UInt8) : Option PMACEntry :=
  switch.table.mapping[switch.assignedPmac port]?

/-- Neither the IP nor the port is taken yet, and there is a manager to register
with. -/
structure Newcomer (switch : PortlandSwitchNetDevice δ) (ip : Ipv4Address)
    (port : UInt8) : Prop where
  connected : switch.hasFabricManager = true
  unknown : ¬ switch.table.HoldsIp ip
  free : switch.portEntry port = none

/-- The entry of the port is for the AMAC and the IP, and no port before it has one
for the AMAC. -/
structure Resident (switch : PortlandSwitchNetDevice δ) (amac : Mac48Address)
    (ip : Ipv4Address) (port : UInt8) : Prop where
  own : ∃ entry, switch.portEntry port = some entry ∧ entry.amac = amac ∧
    entry.ipAddress = ip
  first : ∀ other < port, ∀ entry, switch.portEntry other = some entry → entry.amac ≠ amac

end PortlandSwitchNetDevice

/-- A PMAC names the switch and a lower port of it, and the table maps it to the
source of a frame and that port. -/
structure NamesIngress (switch : PortlandSwitchNetDevice δ)
    (metadata : SwitchPacketMetadata)
    (port : Nat) (srcPmac : Mac48Address) (table : PMACTable) : Prop where
  unicast : srcPmac ≠ .getBroadcast
  port : ∃ octet : UInt8, octet.toNat = port ∧
    srcPmac = pseudo switch.pod switch.position octet ∧
    ∃ entry, table.mapping[srcPmac]? = some entry ∧ entry.amac = metadata.srcAmac ∧
      entry.ipAddress = metadata.srcIp ∧ entry.port = octet

/-- `GetSourcePMAC` answers with a PMAC that names the port, as the table then
does. -/
def AddressedByPort [DecidableEq ι] (switch : PortlandSwitchNetDevice δ)
    (manager : FabricManager ι) (surroundings : Surroundings ι)
    (metadata : SwitchPacketMetadata) (port : Nat) : Prop :=
  ∃ srcPmac next informed,
    switch.getSourcePMAC manager surroundings metadata (UInt8.ofNat port) false =
      .ok (srcPmac, next, informed) ∧
    NamesIngress switch metadata port srcPmac next.table

section

variable {switch : PortlandSwitchNetDevice δ} {metadata : SwitchPacketMetadata}
  {port : Nat}

theorem addressedByPort_iff [DecidableEq ι] {manager : FabricManager ι}
    {surroundings : Surroundings ι} :
    AddressedByPort switch manager surroundings metadata port ↔
      ((switch.newEntry metadata (UInt8.ofNat port)).isSome →
        switch.hasFabricManager = true) ∧
        NamesIngress switch metadata port (switch.sourcePmac metadata (UInt8.ofNat port))
          (switch.learn (switch.newEntry metadata (UInt8.ofNat port))).table := by
  rw [AddressedByPort]
  rw [getSourcePMAC_eq]
  constructor
  · intro admits
    rcases admits with ⟨srcPmac, next, informed, answered, names⟩
    split at answered
    · cases answered
    · next connected =>
        cases answered
        refine ⟨?_, names⟩
        simpa using connected
  · intro both
    rcases both with ⟨connected, names⟩
    rw [if_neg (by simpa using connected)]
    exact ⟨_, _, _, rfl, names⟩

/-- The port octet of a PMAC that names an ingress port. -/
theorem NamesIngress.octet {srcPmac : Mac48Address} {table : PMACTable}
    (names : NamesIngress switch metadata port srcPmac table) :
    port < 256 ∧ srcPmac = switch.assignedPmac (UInt8.ofNat port) := by
  rcases names.port with ⟨octet, rfl, srcIs, -⟩
  have bound := octet.toNat_lt
  exact ⟨bound, by rw [srcIs, assignedPmac_eq, UInt8.ofNat_toNat]⟩

theorem newEntry_of_unknown (inRange : port < switch.lowerPorts.length)
    (unknown : ¬ switch.table.HoldsIp metadata.srcIp) :
    switch.newEntry metadata (UInt8.ofNat port) =
      some { pmac := switch.assignedPmac (UInt8.ofNat port), amac := metadata.srcAmac,
             ipAddress := metadata.srcIp, port := UInt8.ofNat port } := by
  have truncated : (UInt8.ofNat port).toNat ≤ port := by
    simpa using Nat.mod_le port 256
  have notFound := (PMACTable.findPortOfIp_eq_neg_one_iff _ _).mpr unknown
  exact if_pos ⟨Nat.lt_of_le_of_lt truncated inRange, notFound⟩

theorem newEntry_of_known (known : switch.table.HoldsIp metadata.srcIp) (inPort : UInt8) :
    switch.newEntry metadata inPort = none := by
  have found := (PMACTable.findPortOfIp_ne_neg_one_iff _ _).mpr known
  exact if_neg fun both => found both.2

/-- A source IP that is new gets the key of its port if that is free. -/
theorem namesIngress_of_unknown (inRange : port < switch.lowerPorts.length)
    (unknown : ¬ switch.table.HoldsIp metadata.srcIp) :
    NamesIngress switch metadata port (switch.sourcePmac metadata (UInt8.ofNat port))
        (switch.learn (switch.newEntry metadata (UInt8.ofNat port))).table ↔
      port < 256 ∧ switch.portEntry (UInt8.ofNat port) = none := by
  have entryIs := newEntry_of_unknown inRange unknown
  have srcIs : switch.sourcePmac metadata (UInt8.ofNat port) =
      switch.assignedPmac (UInt8.ofNat port) := by
    rw [sourcePmac, entryIs]
  rw [srcIs, entryIs]
  constructor
  · intro names
    refine ⟨names.octet.1, ?_⟩
    rcases names.port with ⟨octet, -, -, entry, stored, -, ip, -⟩
    cases taken : switch.portEntry (UInt8.ofNat port) with
    | none => rfl
    | some old =>
        -- an entry of the port from before has an IP that the table held
        simp only [learn, Option.elim_some, PMACTable.getElem?_record] at stored
        have held : switch.table.mapping[switch.assignedPmac (UInt8.ofNat port)]? =
            some old := taken
        rw [held] at stored
        simp only [reduceCtorEq, and_false, if_false, Option.some.injEq] at stored
        subst stored
        exact absurd ⟨_, old, taken, ip⟩ unknown
  · intro both
    rcases both with ⟨bound, free⟩
    have portIs : (UInt8.ofNat port).toNat = port := by
      simp
      omega
    have key : switch.table.mapping[switch.assignedPmac (UInt8.ofNat port)]? =
        none := free
    refine ⟨?_, UInt8.ofNat port, portIs, rfl, ?_⟩
    · rw [assignedPmac_eq]
      exact pseudo_ne_broadcast _ _ _
    · simp only [learn, Option.elim_some, PMACTable.getElem?_record, key]
      simp

/-- A source IP that the table holds gets the first key of its AMAC. -/
theorem namesIngress_of_known (inRange : port < switch.lowerPorts.length)
    (keys : ∀ (key : Mac48Address) (entry : PMACEntry),
      switch.table.mapping[key]? = some entry → key = switch.assignedPmac entry.port)
    (known : switch.table.HoldsIp metadata.srcIp) :
    NamesIngress switch metadata port (switch.sourcePmac metadata (UInt8.ofNat port))
        (switch.learn (switch.newEntry metadata (UInt8.ofNat port))).table ↔
      port < 256 ∧
        switch.Resident metadata.srcAmac metadata.srcIp (UInt8.ofNat port) := by
  have truncated : (UInt8.ofNat port).toNat ≤ port := by
    simpa using Nat.mod_le port 256
  have noEntry := newEntry_of_known known (UInt8.ofNat port)
  have srcIs : switch.sourcePmac metadata (UInt8.ofNat port) =
      switch.table.findPMACOfAmac metadata.srcAmac := by
    rw [sourcePmac, noEntry]
    exact if_pos (Nat.lt_of_le_of_lt truncated inRange)
  have unicast : switch.assignedPmac (UInt8.ofNat port) ≠ .getBroadcast := by
    rw [assignedPmac_eq]
    exact pseudo_ne_broadcast _ _ _
  rw [srcIs, noEntry]
  constructor
  · intro names
    rcases names.octet with ⟨bound, assigned⟩
    rcases names.port with ⟨octet, -, -, entry, stored, amac, ip, -⟩
    rw [assigned] at stored
    refine ⟨bound, ⟨entry, stored, amac, ip⟩, ?_⟩
    intro other smaller entry' otherStored
    have least := ((PMACTable.findPMACOfAmac_eq_iff unicast).mp assigned).2
    exact least _ entry' otherStored ((compare_pseudo_lt_iff _ _ _ _).mpr smaller)
  · intro own
    rcases own with ⟨bound, ⟨entry, stored, amac, ip⟩, first⟩
    have portIs : (UInt8.ofNat port).toNat = port := by
      simp
      omega
    have assigned : switch.table.findPMACOfAmac metadata.srcAmac =
        switch.assignedPmac (UInt8.ofNat port) := by
      apply (PMACTable.findPMACOfAmac_eq_iff unicast).mpr
      refine ⟨⟨entry, stored, amac⟩, ?_⟩
      intro key found keyStored smaller
      have keyIs := keys key found keyStored
      rw [keyIs] at smaller keyStored
      exact first found.port ((compare_pseudo_lt_iff _ _ _ _).mp smaller) found keyStored
    have entryPort : entry.port = UInt8.ofNat port := by
      have same := keys _ entry stored
      simp only [assignedPmac_eq, pseudo_inj] at same
      exact same.2.2.symm
    rw [assigned]
    exact ⟨unicast, UInt8.ofNat port, portIs, rfl, entry, stored, amac, ip, entryPort⟩

end

namespace Fabric

variable [DecidableEq ι] [DecidableEq δ]

/-- In every state that frames can lead to, a frame is addressed by the port it
comes in at exactly if octets number that port, and either the IP and the port are
both new to the switch or the port's entry is for just this source and no port
before it has an entry for the AMAC. -/
theorem addressedByPort_iff_admitted {initial fabric : Fabric ι δ} (fresh : initial.Fresh)
    (reached : step.Reachable (fun _ => True) initial fabric) (i : ι) {port : Nat}
    (inRange : port < (fabric.switches i).lowerPorts.length) (frame : Frame)
    (surroundings : Surroundings ι) :
    let metadata := metadataFromPacket surroundings.unset frame.packet frame.src frame.dst
      frame.protocol
    AddressedByPort (fabric.switches i) fabric.manager surroundings metadata port ↔
      port < 256 ∧ ((fabric.switches i).Newcomer metadata.srcIp (UInt8.ofNat port) ∨
        (fabric.switches i).Resident frame.src metadata.srcIp (UInt8.ofNat port)) := by
  intro metadata
  have coherent := (coherent_of_reachable fresh.coherent reached).1
  have keys (key : Mac48Address) (entry : PMACEntry)
      (stored : (fabric.switches i).table.mapping[key]? = some entry) :=
    (coherent.entry i key entry stored).2.1
  have source : metadata.srcAmac = frame.src := metadataFromPacket_srcAmac _ _ _ _ _
  rw [addressedByPort_iff]
  by_cases known : (fabric.switches i).table.HoldsIp metadata.srcIp
  · rw [namesIngress_of_known inRange keys known, newEntry_of_known known, source]
    constructor
    · intro both
      rcases both with ⟨-, bound, resident⟩
      exact ⟨bound, .inr resident⟩
    · intro either
      rcases either with ⟨bound, newcomer | resident⟩
      · exact absurd known newcomer.unknown
      · exact ⟨by simp, bound, resident⟩
  · rw [namesIngress_of_unknown inRange known, newEntry_of_unknown inRange known]
    constructor
    · intro both
      rcases both with ⟨connected, bound, free⟩
      exact ⟨bound, .inl ⟨connected rfl, known, free⟩⟩
    · intro either
      rcases either with ⟨bound, newcomer | resident⟩
      · exact ⟨fun _ => newcomer.connected, bound, newcomer.free⟩
      · rcases resident.own with ⟨entry, stored, -, ip⟩
        exact absurd ⟨_, entry, stored, ip⟩ known

/-- A host of the lone switch that gets a new network card gets no address any
more: its IP is known, its AMAC is not. -/
theorem new_card_gets_no_address :
    ∃ fabric, step.run lone [datagram false 1 ⟨2, 0, 0, 0, 0, 1⟩ ⟨2, 0, 0, 0, 0, 2⟩] =
        some fabric ∧
      let surroundings : Surroundings Unit :=
        { self := (), deviceType := fun _ => .edge, rand := 0, isSent := fun _ => true,
          unset := false }
      let metadata := (datagram false 1 ⟨2, 0, 0, 0, 0, 9⟩ ⟨2, 0, 0, 0, 0, 2⟩).metadata
      (∃ next informed, (fabric.switches ()).getSourcePMAC fabric.manager surroundings
        metadata 0 false = .ok (.getBroadcast, next, informed)) ∧
      ¬ AddressedByPort (fabric.switches ()) fabric.manager surroundings metadata 0 := by
  have ends :
      ((step.run lone [datagram false 1 ⟨2, 0, 0, 0, 0, 1⟩ ⟨2, 0, 0, 0, 0, 2⟩]).map
      fun fabric => ((fabric.switches ()).getSourcePMAC fabric.manager
        { self := (), deviceType := fun _ => .edge, rand := 0, isSent := fun _ => true,
          unset := false }
        (datagram false 1 ⟨2, 0, 0, 0, 0, 9⟩ ⟨2, 0, 0, 0, 0, 2⟩).metadata 0
        false).toOption.map Prod.fst) = some (some .getBroadcast) := by decide
  rcases Option.map_eq_some_iff.mp ends with ⟨fabric, ran, result⟩
  rcases Option.map_eq_some_iff.mp result with ⟨⟨srcPmac, next, informed⟩, answer, rfl⟩
  refine ⟨fabric, ran, ?_⟩
  intro surroundings metadata
  have answered : (fabric.switches ()).getSourcePMAC fabric.manager surroundings
      metadata 0 false = .ok (.getBroadcast, next, informed) := by
    cases computed : (fabric.switches ()).getSourcePMAC fabric.manager surroundings
        metadata 0 false with
    | error fault =>
        rw [computed] at answer
        cases answer
    | ok value =>
        rw [computed] at answer
        rw [Option.some.inj answer]
  refine ⟨⟨next, informed, answered⟩, ?_⟩
  intro admits
  rcases admits with ⟨srcPmac, next', informed', other, names⟩
  have same : (⟨.getBroadcast, next, informed⟩ : Mac48Address × _ × _) =
      (srcPmac, next', informed') := Except.ok.inj (answered.symm.trans other)
  cases same
  exact names.unicast rfl

/-- The host that the lone switch has heard is addressed by its port again. -/
theorem addressedByPort_iff_admitted_heard :
    ∃ fabric, step.run lone [datagram false 1 ⟨2, 0, 0, 0, 0, 1⟩ ⟨2, 0, 0, 0, 0, 2⟩] =
        some fabric ∧
      let surroundings : Surroundings Unit :=
        { self := (), deviceType := fun _ => .edge, rand := 0, isSent := fun _ => true,
          unset := false }
      let metadata := (datagram false 1 ⟨2, 0, 0, 0, 0, 1⟩ ⟨2, 0, 0, 0, 0, 3⟩).metadata
      (fabric.switches ()).Resident ⟨2, 0, 0, 0, 0, 1⟩ metadata.srcIp 0 ∧
        AddressedByPort (fabric.switches ()) fabric.manager surroundings metadata 0 := by
  have ends :
      ((step.run lone [datagram false 1 ⟨2, 0, 0, 0, 0, 1⟩ ⟨2, 0, 0, 0, 0, 2⟩]).map
      fun fabric =>
        ((fabric.switches ()).portEntry 0, (fabric.switches ()).lowerPorts.length)) =
        some (some ⟨pseudo 0 0 0, ⟨2, 0, 0, 0, 0, 1⟩, ⟨0x0a000001⟩, 0⟩, 1) := by decide
  rcases Option.map_eq_some_iff.mp ends with ⟨fabric, ran, results⟩
  simp only [Prod.mk.injEq] at results
  rcases results with ⟨stored, ports⟩
  refine ⟨fabric, ran, ?_⟩
  intro surroundings metadata
  have resident : (fabric.switches ()).Resident ⟨2, 0, 0, 0, 0, 1⟩ metadata.srcIp 0 :=
    { own := ⟨_, stored, rfl, by decide⟩
      first := by
        intro other below
        exact absurd below UInt8.not_lt_zero }
  exact ⟨resident, (addressedByPort_iff_admitted lone_fresh ⟨_, by simp, ran⟩ ()
    (by rw [ports]; decide) (datagram false 1 ⟨2, 0, 0, 0, 0, 1⟩ ⟨2, 0, 0, 0, 0, 3⟩).frame
    surroundings).mpr ⟨by decide, .inr resident⟩⟩

end Fabric

end DataCenter.Portland
