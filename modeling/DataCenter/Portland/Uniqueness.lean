import DataCenter.Portland.Provenance
import DataCenter.Portland.Translation

/-! # Whose PMAC it is

A PMAC names a lower port of an edge switch, not a host.  Two hosts have
different PMACs unless both have been heard on one port. -/

namespace DataCenter.Portland.Fabric

open PortlandSwitchNetDevice

variable {ι δ η : Type} [DecidableEq δ]

/-- An edge switch assigns one PMAC to one port. -/
theorem Entered.assignedPmac_inj {initial : Fabric ι δ} (distinct : initial.DistinctEdges)
    {arrivals : List (Arrival ι δ)} {i j : ι} {inPort otherPort : UInt8}
    {first second : Arrival ι δ} (firstEntered : initial.Entered arrivals i inPort first)
    (secondEntered : initial.Entered arrivals j otherPort second) :
    (initial.switches i).assignedPmac inPort =
      (initial.switches j).assignedPmac otherPort ↔
      i = j ∧ inPort = otherPort := by
  have firstEdge := deviceType_of_ingressPort firstEntered.port
  have secondEdge := deviceType_of_ingressPort secondEntered.port
  rw [firstEntered.switch] at firstEdge
  rw [secondEntered.switch] at secondEdge
  rw [assignedPmac_eq, assignedPmac_eq, pseudo_inj]
  constructor
  · intro same
    rcases same with ⟨samePod, samePosition, samePort⟩
    exact ⟨distinct i j firstEdge secondEdge samePod samePosition, samePort⟩
  · intro same
    rcases same with ⟨rfl, rfl⟩
    exact ⟨rfl, rfl, rfl⟩

/-- The hosts that send, each with one AMAC and one IP. -/
structure Population (η : Type) where
  amac : η → Mac48Address
  ip : η → Ipv4Address
  ip_injective : Function.Injective ip

namespace Population

/-- The frame of an arrival has the addresses of a host. -/
def Sends (hosts : Population η) (host : η) (arrival : Arrival ι δ) : Prop :=
  arrival.metadata.srcAmac = hosts.amac host ∧ arrival.metadata.srcIp = hosts.ip host

/-- Every frame that enters the fabric comes from one of the hosts. -/
def SendAll (hosts : Population η) (initial : Fabric ι δ)
    (arrivals : List (Arrival ι δ)) : Prop :=
  ∀ i inPort arrival, initial.Entered arrivals i inPort arrival →
    ∃ host, hosts.Sends host arrival

/-- In a run a frame of the host entered at a port. -/
def HeardAt (hosts : Population η) (initial : Fabric ι δ) (arrivals : List (Arrival ι δ))
    (host : η) (i : ι) (inPort : UInt8) : Prop :=
  ∃ arrival, initial.Entered arrivals i inPort arrival ∧ hosts.Sends host arrival

/-- The PMAC that the manager holds for a host is that of a port at which the
host was heard. -/
theorem heardAt_of_held {hosts : Population η} {initial final : Fabric ι δ}
    {arrivals : List (Arrival ι δ)} (sendAll : hosts.SendAll initial arrivals)
    (provenance : initial.Provenance arrivals final) {host : η} {pmac : Mac48Address}
    (held : final.manager.ipPMACTable[hosts.ip host]? = some pmac) :
    ∃ i inPort, hosts.HeardAt initial arrivals host i inPort ∧
      pmac = (initial.switches i).assignedPmac inPort := by
  rcases provenance.held _ _ held with ⟨i, inPort, arrival, entered, pmacIs, ipIs⟩
  rcases sendAll i inPort arrival entered with ⟨sender, sends⟩
  have senderIs : sender = host := hosts.ip_injective (sends.2.symm.trans ipIs.symm)
  exact ⟨i, inPort, ⟨arrival, entered, senderIs ▸ sends⟩, pmacIs⟩

/-- The switch that assigned a PMAC translates it to the AMAC of a host that was
heard on the port of the PMAC. -/
theorem heardAt_of_translated {hosts : Population η} {initial final : Fabric ι δ}
    {arrivals : List (Arrival ι δ)} (distinct : initial.DistinctEdges)
    (sendAll : hosts.SendAll initial arrivals)
    (provenance : initial.Provenance arrivals final)
    (coherent : final.Coherent) {ip : Ipv4Address} {host : η} {i : ι} {inPort : UInt8}
    (heard : hosts.HeardAt initial arrivals host i inPort)
    (held : final.manager.ipPMACTable[ip]? =
      some ((initial.switches i).assignedPmac inPort)) :
    final.Owns i ((initial.switches i).assignedPmac inPort) ∧
      ∃ first, hosts.HeardAt initial arrivals first i inPort ∧
        (final.switches i).table.findAMACOfPmac
          ((initial.switches i).assignedPmac inPort) = hosts.amac first := by
  rcases coherent.held _ _ held with ⟨j, entry, stored⟩
  rcases provenance.entry j _ entry stored with
    ⟨⟨recorded, recordedEntered, keyIs, amacIs, -⟩, -⟩
  rcases heard with ⟨arrival, entered, -⟩
  rcases (entered.assignedPmac_inj distinct recordedEntered).mp keyIs with ⟨rfl, rfl⟩
  rcases sendAll _ _ recorded recordedEntered with ⟨first, sends⟩
  refine ⟨coherent.owns stored, first, ⟨recorded, recordedEntered, sends⟩, ?_⟩
  rw [PMACTable.findAMACOfPmac_of_getElem? stored, amacIs, sends.1]

end Population

variable [DecidableEq ι]

/-- The PMACs of two registered hosts are those assigned to ports at which they
were heard, so they are equal exactly if these ports are.  The owner of a PMAC
translates it to the AMAC of a host heard on its port: of the very host, if no
other was heard there. -/
theorem pmac_eq_iff_port_eq {initial final : Fabric ι δ} {arrivals : List (Arrival ι δ)}
    (fresh : initial.Fresh) (distinct : initial.DistinctEdges) (hosts : Population η)
    (sendAll : hosts.SendAll initial arrivals)
    (ran : step.run initial arrivals = some final)
    {first second : η} {firstPmac secondPmac : Mac48Address}
    (firstHeld : final.manager.ipPMACTable[hosts.ip first]? = some firstPmac)
    (secondHeld : final.manager.ipPMACTable[hosts.ip second]? = some secondPmac) :
    ∃ i inPort j otherPort,
      hosts.HeardAt initial arrivals first i inPort ∧
      firstPmac = (initial.switches i).assignedPmac inPort ∧
      hosts.HeardAt initial arrivals second j otherPort ∧
      secondPmac = (initial.switches j).assignedPmac otherPort ∧
      (firstPmac = secondPmac ↔ i = j ∧ inPort = otherPort) ∧
      final.Owns i firstPmac ∧
      (∃ host, hosts.HeardAt initial arrivals host i inPort ∧
        (final.switches i).table.findAMACOfPmac firstPmac = hosts.amac host) ∧
      ((∀ host, hosts.HeardAt initial arrivals host i inPort → host = first) →
        (final.switches i).table.findAMACOfPmac firstPmac = hosts.amac first) := by
  have provenance := provenance_of_run fresh ran
  have coherent := coherent_of_run fresh.coherent ran
  rcases Population.heardAt_of_held sendAll provenance firstHeld with
    ⟨i, inPort, heard, rfl⟩
  rcases Population.heardAt_of_held sendAll provenance secondHeld with
    ⟨j, otherPort, otherHeard, rfl⟩
  rcases Population.heardAt_of_translated distinct sendAll provenance coherent heard
    firstHeld with ⟨owner, host, hostHeard, translated⟩
  refine ⟨i, inPort, j, otherPort, heard, rfl, otherHeard, rfl, ?_, owner,
    ⟨host, hostHeard, translated⟩, ?_⟩
  · rcases heard with ⟨arrival, entered, -⟩
    rcases otherHeard with ⟨other, otherEntered, -⟩
    exact entered.assignedPmac_inj distinct otherEntered
  · intro alone
    rw [translated, alone host hostHeard]

/-- Two hosts, 10.0.0.1 and 10.0.0.2. -/
def neighbours : Population Bool where
  amac host := ⟨2, 0, 0, 0, 0, if host then 2 else 1⟩
  ip host := if host then ⟨0x0a000002⟩ else ⟨0x0a000001⟩
  ip_injective := by decide

/-- Each of the two sends a frame through the one lower port of the lone switch. -/
def fromNeighbours : List (Arrival Unit Bool) :=
  [datagram false 1 (neighbours.amac false) (neighbours.amac true),
    datagram false 2 (neighbours.amac true) (neighbours.amac false)]

theorem neighbours_sendAll : neighbours.SendAll lone fromNeighbours := by
  intro i inPort arrival entered
  have member := entered.member
  simp only [fromNeighbours, List.mem_cons, List.not_mem_nil, or_false] at member
  rcases member with rfl | rfl
  · exact ⟨false, by decide, by decide⟩
  · exact ⟨true, by decide, by decide⟩

theorem run_fromNeighbours :
    ∃ final, step.run lone fromNeighbours = some final ∧
      final.manager.ipPMACTable[neighbours.ip false]? = some (pseudo 0 0 0) ∧
      final.manager.ipPMACTable[neighbours.ip true]? = some (pseudo 0 0 0) ∧
      (final.switches ()).table.findAMACOfPmac (pseudo 0 0 0) =
        neighbours.amac false := by
  have ends : ((step.run lone fromNeighbours).map fun final =>
      (final.manager.ipPMACTable[neighbours.ip false]?,
        final.manager.ipPMACTable[neighbours.ip true]?,
        (final.switches ()).table.findAMACOfPmac (pseudo 0 0 0))) =
      some (some (pseudo 0 0 0), some (pseudo 0 0 0), neighbours.amac false) := by decide
  rcases Option.map_eq_some_iff.mp ends with ⟨final, ran, results⟩
  simp only [Prod.mk.injEq] at results
  exact ⟨final, ran, results⟩

/-- Two hosts that share a port share their PMAC, which is translated to the
AMAC of the one that was heard first. -/
theorem neighbours_share_pmac :
    lone.Fresh ∧ lone.DistinctEdges ∧ neighbours.SendAll lone fromNeighbours ∧
      neighbours.amac false ≠ neighbours.amac true ∧
      ∃ final pmac, step.run lone fromNeighbours = some final ∧
        final.manager.ipPMACTable[neighbours.ip false]? = some pmac ∧
        final.manager.ipPMACTable[neighbours.ip true]? = some pmac ∧
        final.Owns () pmac ∧
        (final.switches ()).table.findAMACOfPmac pmac ≠ neighbours.amac true := by
  rcases run_fromNeighbours with ⟨final, ran, firstHeld, secondHeld, translated⟩
  have coherent := coherent_of_run lone_fresh.coherent ran
  rcases coherent.held _ _ firstHeld with ⟨i, entry, stored⟩
  refine ⟨lone_fresh, lone_distinctEdges,
    neighbours_sendAll, by decide, final, pseudo 0 0 0, ran,
    firstHeld, secondHeld, coherent.owns stored, ?_⟩
  rw [translated]
  decide

/-- The rule for the two hosts on one port. -/
theorem pmac_eq_iff_port_eq_neighbours :
    ∃ final, step.run lone fromNeighbours = some final ∧
      ∃ i inPort j otherPort,
        neighbours.HeardAt lone fromNeighbours false i inPort ∧
        pseudo 0 0 0 = (lone.switches i).assignedPmac inPort ∧
        neighbours.HeardAt lone fromNeighbours true j otherPort ∧
        pseudo 0 0 0 = (lone.switches j).assignedPmac otherPort ∧
        (pseudo 0 0 0 = pseudo 0 0 0 ↔ i = j ∧ inPort = otherPort) ∧
        final.Owns i (pseudo 0 0 0) ∧
        (∃ host, neighbours.HeardAt lone fromNeighbours host i inPort ∧
          (final.switches i).table.findAMACOfPmac (pseudo 0 0 0) = neighbours.amac host) ∧
        ((∀ host, neighbours.HeardAt lone fromNeighbours host i inPort → host = false) →
          (final.switches i).table.findAMACOfPmac (pseudo 0 0 0) =
            neighbours.amac false) := by
  rcases run_fromNeighbours with ⟨final, ran, firstHeld, secondHeld, -⟩
  exact ⟨final, ran, pmac_eq_iff_port_eq lone_fresh lone_distinctEdges neighbours
    neighbours_sendAll ran firstHeld secondHeld⟩

end DataCenter.Portland.Fabric
