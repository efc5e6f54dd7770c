import DataCenter.Portland.Provenance

/-! # Local lookups and the fabric manager

As long as every source IP is used at one port, the first writer of a switch's
table and the last writer of the manager's table agree. -/

namespace DataCenter.Portland.Fabric

open PortlandSwitchNetDevice

variable {ι δ : Type} [DecidableEq δ]

/-- No two arrivals of a run enter with one source IP at two ports. -/
def EachIpAtOnePort (initial : Fabric ι δ) (arrivals : List (Arrival ι δ)) : Prop :=
  ∀ i j inPort otherPort first second,
    initial.Entered arrivals i inPort first →
      initial.Entered arrivals j otherPort second →
    first.metadata.srcIp = second.metadata.srcIp → i = j ∧ inPort = otherPort

/-- The manager holds the IP of every entry, under the key of the entry. -/
theorem Provenance.held_of_stored {initial fabric : Fabric ι δ}
    {arrivals : List (Arrival ι δ)} (provenance : initial.Provenance arrivals fabric)
    (atOnePort : initial.EachIpAtOnePort arrivals) {i : ι} {key : Mac48Address}
    {entry : PMACEntry} (stored : (fabric.switches i).table.mapping[key]? = some entry) :
    fabric.manager.ipPMACTable[entry.ipAddress]? = some key := by
  rcases provenance.entry i key entry stored with
    ⟨⟨arrival, entered, keyIs, -, ipIs⟩, pmac, held⟩
  rcases provenance.held entry.ipAddress pmac held with
    ⟨j, inPort, other, otherEntered, pmacIs, otherIp⟩
  have samePlace := atOnePort i j entry.port inPort arrival other entered otherEntered
    (ipIs.symm.trans otherIp)
  rcases samePlace with ⟨rfl, rfl⟩
  rw [held, pmacIs, keyIs]

theorem Provenance.findPMACOfIp_eq {initial fabric : Fabric ι δ}
    {arrivals : List (Arrival ι δ)} (provenance : initial.Provenance arrivals fabric)
    (atOnePort : initial.EachIpAtOnePort arrivals) {i : ι} {ip : Ipv4Address}
    (holds : (fabric.switches i).table.HoldsIp ip) :
    fabric.manager.isIPRegistered ip = true ∧
      (fabric.switches i).table.findPMACOfIp ip = fabric.manager.getPMACforIP ip := by
  rcases PMACTable.exists_of_holdsIp holds with ⟨entry, stored, rfl⟩
  have held := provenance.held_of_stored atOnePort stored
  exact ⟨FabricManager.isIPRegistered_of_getElem? held,
    (FabricManager.getPMACforIP_of_getElem? held).symm⟩

variable [DecidableEq ι]

/-- After any run in which every source IP is used at one port, a switch's own
table answers as the manager would: an IP that it contains is registered with
the same PMAC, and `GetDestinationPMAC` answers for every registered IP with the
PMAC that the manager has. -/
theorem local_lookup_agrees {initial final : Fabric ι δ} {arrivals : List (Arrival ι δ)}
    (fresh : initial.Fresh) (atOnePort : initial.EachIpAtOnePort arrivals)
    (ran : step.run initial arrivals = some final) {i : ι}
    (connected : (initial.switches i).hasFabricManager = true) :
    (∀ ip : Ipv4Address, (final.switches i).table.HoldsIp ip →
      final.manager.isIPRegistered ip = true ∧
        (final.switches i).table.findPMACOfIp ip = final.manager.getPMACforIP ip) ∧
    ∀ ip : Ipv4Address, final.manager.isIPRegistered ip = true →
      ∀ (surroundings : Surroundings ι) (srcIp : Ipv4Address) (srcPmac : Mac48Address),
        (final.switches i).getDestinationPMAC final.manager surroundings ip srcIp
          srcPmac = .ok (final.manager.getPMACforIP ip, final.manager, []) := by
  have provenance := provenance_of_run fresh ran
  have stillConnected : (final.switches i).hasFabricManager = true := by
    rw [← connected]
    exact congrArg SwitchConfig.hasFabricManager (provenance.config i)
  refine ⟨fun ip holds => provenance.findPMACOfIp_eq atOnePort holds, ?_⟩
  intro ip registered surroundings srcIp srcPmac
  rw [getDestinationPMAC]
  by_cases known : (final.switches i).table.findPortOfIp ip = -1
  · simp [known, queryFabricManager_eq, stillConnected, registered]
  · have holds := (PMACTable.findPortOfIp_ne_neg_one_iff _ _).mp known
    simp [known, (provenance.findPMACOfIp_eq atOnePort holds).2]

/-- Once the lone switch has heard a host, its own table answers for that host
as the manager does. -/
theorem local_lookup_agrees_lone :
    ∃ final, step.run lone [datagram false 1 ⟨2, 0, 0, 0, 0, 1⟩ ⟨2, 0, 0, 0, 0, 2⟩] =
        some final ∧
      (∀ ip : Ipv4Address, (final.switches ()).table.HoldsIp ip →
        final.manager.isIPRegistered ip = true ∧
          (final.switches ()).table.findPMACOfIp ip = final.manager.getPMACforIP ip) ∧
      ∀ ip : Ipv4Address, final.manager.isIPRegistered ip = true →
        ∀ (surroundings : Surroundings Unit) (srcIp : Ipv4Address)
          (srcPmac : Mac48Address),
          (final.switches ()).getDestinationPMAC final.manager surroundings ip srcIp
            srcPmac = .ok (final.manager.getPMACforIP ip, final.manager, []) := by
  have ends : (step.run lone
      [datagram false 1 ⟨2, 0, 0, 0, 0, 1⟩ ⟨2, 0, 0, 0, 0, 2⟩]).isSome = true := by decide
  rcases Option.isSome_iff_exists.mp ends with ⟨final, ran⟩
  have atOnePort : lone.EachIpAtOnePort
      [datagram false 1 ⟨2, 0, 0, 0, 0, 1⟩ ⟨2, 0, 0, 0, 0, 2⟩] := by
    intro i j inPort otherPort first second firstEntered secondEntered _
    have firstIs := List.mem_singleton.mp firstEntered.member
    have secondIs := List.mem_singleton.mp secondEntered.member
    have samePort := firstEntered.port.symm.trans
      ((congrArg lone.ingressPort (firstIs.trans secondIs.symm)).trans secondEntered.port)
    exact ⟨rfl, Option.some.inj samePort⟩
  exact ⟨final, ran, local_lookup_agrees lone_fresh atOnePort ran (i := ()) rfl⟩

end DataCenter.Portland.Fabric
