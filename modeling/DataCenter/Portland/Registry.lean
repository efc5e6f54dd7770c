import DataCenter.Portland.Hosts
import DataCenter.Portland.LoopFreedom
import DataCenter.Portland.Relay

/-! # What the network knows of its hosts

When hosts send with their own addresses only, the tables and the manager hold
the hosts that have been heard, each under its PMAC. -/

namespace DataCenter.Portland

open Courier PortlandSwitchNetDevice

variable {k : Nat}

/-- The tables and the manager hold exactly the hosts that have been heard.  An
edge switch that numbers its ports with one octet keeps an entry for every one of
them. -/
structure Knows (network : Addressing k) (heard : Host k → Prop)
    (fabric : Fabric (SwitchId k) (Device k)) : Prop where
  wired : Wired network.hardware fabric
  entry : ∀ (id : SwitchId k) (key : Mac48Address) (entry : PMACEntry),
    (fabric.switches id).table.mapping[key]? = some entry →
      ∃ host, heard host ∧ host.edge = id ∧ key = host.pmac ∧ entry = network.entry host
  held : ∀ (ip : Ipv4Address) (pmac : Mac48Address),
    fabric.manager.ipPMACTable[ip]? = some pmac →
      ∃ host, heard host ∧ ip = network.ip host ∧ pmac = host.pmac
  known : ∀ host, heard host →
    fabric.manager.ipPMACTable[network.ip host]? = some host.pmac
  stored : k ≤ 512 → ∀ host, heard host →
    (fabric.switches host.edge).table.mapping[host.pmac]? = some (network.entry host)

theorem knows_portlandSetup (network : Addressing k) :
    Knows network (fun _ => False) (portlandSetup network.hardware) where
  wired := wired_portlandSetup network.hardware
  entry id key entry stored := by
    simp [(fresh_portlandSetup network.hardware).table id] at stored
  held ip pmac stored := by
    simp [(fresh_portlandSetup network.hardware).manager] at stored
  known _ heard := heard.elim
  stored _ _ heard := heard.elim

theorem toNat_ofNat_le (value : Nat) : (UInt8.ofNat value).toNat ≤ value := by
  simpa using Nat.mod_le value 256

theorem ofNat_inj_of_lt {first second : Nat} (firstFits : first < 256)
    (secondFits : second < 256) :
    UInt8.ofNat first = UInt8.ofNat second ↔ first = second := by
  constructor
  · intro same
    have values := congrArg UInt8.toNat same
    rw [UInt8.toNat_ofNat_of_lt' firstFits, UInt8.toNat_ofNat_of_lt' secondFits] at values
    exact values
  · intro same
    subst same
    rfl

/-- One octet tells apart the hosts of one edge switch. -/
theorem Host.eq_of_edge_of_pmac (fits : k ≤ 512) {first second : Host k}
    (sameEdge : first.edge = second.edge) (samePmac : first.pmac = second.pmac) :
    first = second := by
  rcases first with ⟨pod, position, port⟩
  rcases second with ⟨pod', position', port'⟩
  simp only [Host.edge, SwitchId.edge.injEq] at sameEdge
  rcases sameEdge with ⟨rfl, rfl⟩
  have samePort : port = port' :=
    Fin.ext ((ofNat_inj_of_lt (by omega) (by omega)).mp (pseudo_inj.mp samePmac).2.2)
  rw [samePort]

theorem Wired.port_lt {getAddress : Device k → Mac48Address}
    {fabric : Fabric (SwitchId k) (Device k)} (wired : Wired getAddress fabric)
    (host : Host k) :
    (UInt8.ofNat host.port).toNat < (fabric.switches host.edge).lowerPorts.length := by
  have ports : host.edge.lower.length = k / 2 := by simp [Host.edge, SwitchId.lower]
  rw [wired.length_lowerPorts, ports]
  exact Nat.lt_of_le_of_lt (toNat_ofNat_le _) host.port.isLt

/-- The PMAC that an edge switch has for a lower port is that of the host there. -/
theorem Wired.assignedPmac_eq {getAddress : Device k → Mac48Address}
    {fabric : Fabric (SwitchId k) (Device k)} (wired : Wired getAddress fabric)
    (host : Host k) :
    (fabric.switches host.edge).assignedPmac (UInt8.ofNat host.port) = host.pmac := by
  rw [PortlandSwitchNetDevice.assignedPmac_eq, wired.pod, wired.position]
  rfl

namespace Knows

variable {network : Addressing k} {heard : Host k → Prop}
  {fabric : Fabric (SwitchId k) (Device k)}

/-- An entry with the IP of a host is that host's. -/
theorem stored_of_holdsIp (knows : Knows network heard fabric) {id : SwitchId k}
    {host : Host k} (holds : (fabric.switches id).table.HoldsIp (network.ip host)) :
    heard host ∧ host.edge = id ∧
      (fabric.switches id).table.mapping[host.pmac]? = some (network.entry host) := by
  rcases holds with ⟨key, entry, stored, sameIp⟩
  rcases knows.entry id key entry stored with ⟨other, otherHeard, edge, rfl, rfl⟩
  have same : other = host := Addressing.ip_eq_iff.mp sameIp
  subst same
  exact ⟨otherHeard, edge, stored⟩

/-! ## Source and destination -/

section Source

variable {host : Host k} {frame : Frame} (unset : Bool)

/-- A host that its edge switch does not know yet is registered. -/
theorem newEntry_eq (knows : Knows network heard fabric)
    (sent : network.SentBy host frame) :
    (fabric.switches host.edge).newEntry (frame.metadata unset) (UInt8.ofNat host.port) =
      if (fabric.switches host.edge).table.findPortOfIp (network.ip host) = -1 then
        some (network.entry host)
      else none := by
  rw [newEntry]
  simp only [knows.wired.port_lt host, sent.srcIp unset, sent.srcAmac unset,
    knows.wired.assignedPmac_eq host, true_and]
  rfl

/-- Whether it is registered or found, the source address is the host's PMAC. -/
theorem sourcePmac_eq (knows : Knows network heard fabric)
    (sent : network.SentBy host frame) :
    (fabric.switches host.edge).sourcePmac (frame.metadata unset)
      (UInt8.ofNat host.port) = host.pmac := by
  rw [sourcePmac]
  rw [knows.newEntry_eq unset sent]
  by_cases unknown : (fabric.switches host.edge).table.findPortOfIp (network.ip host) = -1
  · simp only [unknown, if_true]
    rfl
  · have holds := (PMACTable.findPortOfIp_ne_neg_one_iff _ _).mp unknown
    have stored := (knows.stored_of_holdsIp holds).2.2
    simp only [unknown, if_false, knows.wired.port_lt host, if_true, sent.srcAmac unset]
    apply PMACTable.findPMACOfAmac_eq_of_unique stored rfl
    intro key entry present sameAmac
    rcases knows.entry _ key entry present with ⟨other, -, -, rfl, rfl⟩
    rw [Addressing.amac_eq_iff.mp sameAmac]

end Source

/-- A registered IP is that of a host that has been heard. -/
theorem isIPRegistered_iff (knows : Knows network heard fabric) (host : Host k) :
    fabric.manager.isIPRegistered (network.ip host) = true ↔ heard host := by
  rw [FabricManager.isIPRegistered_iff]
  constructor
  · intro known
    rcases known with ⟨pmac, held⟩
    rcases knows.held _ pmac held with ⟨other, otherHeard, sameIp, -⟩
    rwa [Addressing.ip_eq_iff.mp sameIp]
  · intro isHeard
    exact ⟨_, knows.known host isHeard⟩

/-- Whoever answers for a host that has been heard, answers with its PMAC. -/
theorem resolve_eq (knows : Knows network heard fabric) (id : SwitchId k) {host : Host k}
    (isHeard : heard host) :
    (fabric.switches id).resolve fabric.manager (network.ip host) = some host.pmac := by
  rw [resolve]
  by_cases holds : (fabric.switches id).table.findPortOfIp (network.ip host) = -1
  · have registered := (knows.isIPRegistered_iff host).mpr isHeard
    simp [holds, registered,
      FabricManager.getPMACforIP_of_getElem? (knows.known host isHeard)]
  · rcases PMACTable.exists_of_holdsIp
      ((PMACTable.findPortOfIp_ne_neg_one_iff _ _).mp holds) with
      ⟨entry, stored, sameIp⟩
    rcases knows.entry _ _ entry stored with ⟨other, -, -, keyIs, rfl⟩
    have same : other = host := Addressing.ip_eq_iff.mp sameIp
    rw [if_pos holds, keyIs, same]

/-- Nothing is answered for any other IP. -/
theorem resolve_eq_none (knows : Knows network heard fabric) (id : SwitchId k)
    {ip : Ipv4Address} (unheard : ∀ host, heard host → ip ≠ network.ip host) :
    (fabric.switches id).resolve fabric.manager ip = none := by
  rw [resolve]
  have absent : ¬ (fabric.switches id).table.HoldsIp ip := by
    intro known
    rcases known with ⟨key, entry, stored, rfl⟩
    rcases knows.entry _ key entry stored with ⟨host, isHeard, -, -, rfl⟩
    exact unheard host isHeard rfl
  have unregistered : ¬ fabric.manager.isIPRegistered ip = true := by
    rw [FabricManager.isIPRegistered_iff]
    intro known
    rcases known with ⟨pmac, held⟩
    rcases knows.held ip pmac held with ⟨host, isHeard, sameIp, -⟩
    exact unheard host isHeard sameIp
  have notFound := (PMACTable.findPortOfIp_eq_neg_one_iff _ ip).mpr absent
  simp [notFound, unregistered]

/-! ## Learning -/

/-- Nothing but tables and the manager matters. -/
theorem of_same_tables (knows : Knows network heard fabric)
    {next : Fabric (SwitchId k) (Device k)} (wired : Wired network.hardware next)
    (tables : ∀ id, (next.switches id).table = (fabric.switches id).table)
    (manager : next.manager.ipPMACTable = fabric.manager.ipPMACTable) :
    Knows network heard next where
  wired := wired
  entry id key entry stored := knows.entry id key entry (by rwa [tables id] at stored)
  held ip pmac stored := knows.held ip pmac (by rwa [manager] at stored)
  known host isHeard := by
    rw [manager]
    exact knows.known host isHeard
  stored fits host isHeard := by
    rw [tables]
    exact knows.stored fits host isHeard

theorem congr (knows : Knows network heard fabric) {other : Host k → Prop}
    (same : ∀ host, heard host ↔ other host) : Knows network other fabric := by
  have equal : heard = other := funext fun host => propext (same host)
  exact equal ▸ knows

/-- Once a host is in the table of its edge switch, it has been heard. -/
theorem learn_known (knows : Knows network heard fabric) {host : Host k}
    (known : (fabric.switches host.edge).table.findPortOfIp (network.ip host) ≠ -1) :
    Knows network (fun other => heard other ∨ other = host) fabric := by
  have holds := (PMACTable.findPortOfIp_ne_neg_one_iff _ _).mp known
  have isHeard := (knows.stored_of_holdsIp holds).1
  refine knows.congr fun other => ?_
  constructor
  · exact .inl
  · intro either
    rcases either with already | rfl
    · exact already
    · exact isHeard

/-- Registering a host with its edge switch and the manager. -/
theorem learn_new (knows : Knows network heard fabric) (host : Host k)
    {next : Fabric (SwitchId k) (Device k)} (wired : Wired network.hardware next)
    (here : (next.switches host.edge).table =
      (fabric.switches host.edge).table.record (network.entry host))
    (elsewhere : ∀ id ≠ host.edge, (next.switches id).table = (fabric.switches id).table)
    (manager : next.manager.ipPMACTable =
      (fabric.manager.addPMACToTable (network.ip host) host.pmac).ipPMACTable) :
    Knows network (fun other => heard other ∨ other = host) next where
  wired := wired
  entry id key entry stored := by
    have earlier (before : (fabric.switches id).table.mapping[key]? = some entry) :
        ∃ other, (heard other ∨ other = host) ∧ other.edge = id ∧ key = other.pmac ∧
          entry = network.entry other := by
      rcases knows.entry id key entry before with ⟨other, otherHeard, is⟩
      exact ⟨other, .inl otherHeard, is⟩
    by_cases atEdge : id = host.edge
    · subst atEdge
      rw [here, PMACTable.getElem?_record] at stored
      split at stored
      · next free =>
          cases stored
          exact ⟨host, .inr rfl, rfl, free.1.symm, rfl⟩
      · exact earlier stored
    · rw [elsewhere id atEdge] at stored
      exact earlier stored
  held ip pmac stored := by
    rw [manager, FabricManager.getElem?_addPMACToTable] at stored
    split at stored
    · next sameIp =>
        cases stored
        exact ⟨host, .inr rfl, sameIp.symm, rfl⟩
    · rcases knows.held ip pmac stored with ⟨other, otherHeard, is⟩
      exact ⟨other, .inl otherHeard, is⟩
  known other isHeard := by
    rw [manager, FabricManager.getElem?_addPMACToTable]
    split
    · next sameIp => rw [Addressing.ip_eq_iff.mp sameIp]
    · next differentIp =>
        rcases isHeard with already | rfl
        · exact knows.known other already
        · exact absurd rfl differentIp
  stored fits other isHeard := by
    rcases isHeard with already | rfl
    · have before := knows.stored fits other already
      by_cases atEdge : other.edge = host.edge
      · rw [atEdge] at before ⊢
        rw [here]
        exact PMACTable.getElem?_record_of_getElem? before _
      · rw [elsewhere _ atEdge]
        exact before
    · rw [here, PMACTable.getElem?_record]
      cases taken : (fabric.switches other.edge).table.mapping[other.pmac]? with
      | none => simp [Addressing.entry]
      | some entry =>
          rcases knows.entry _ _ entry taken with ⟨same, -, sameEdge, samePmac, rfl⟩
          have equal := Host.eq_of_edge_of_pmac fits sameEdge samePmac.symm
          simp [equal]

end Knows

end DataCenter.Portland
