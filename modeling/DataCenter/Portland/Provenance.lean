import DataCenter.Portland.Fabric

/-! # Where the tables' contents come from

Over a whole run, whatever the tables hold can be traced to an arrival that
entered the fabric at a lower port of an edge switch. -/

namespace DataCenter.Portland.Fabric

variable {ι δ : Type} [DecidableEq δ]

/-- One of the arrivals of a run entered at a port of a switch. -/
structure Entered (initial : Fabric ι δ) (past : List (Arrival ι δ)) (i : ι)
    (inPort : UInt8) (arrival : Arrival ι δ) : Prop where
  member : arrival ∈ past
  switch : arrival.switch = i
  port : initial.ingressPort arrival = some inPort

theorem Entered.extend {initial : Fabric ι δ} {past : List (Arrival ι δ)} {i : ι}
    {inPort : UInt8} {arrival : Arrival ι δ}
    (entered : initial.Entered past i inPort arrival)
    (last : Arrival ι δ) : initial.Entered (past ++ [last]) i inPort arrival :=
  ⟨List.mem_append_left _ entered.member, entered.switch, entered.port⟩

/-- Every entry was made for an arrival at its switch, is known to the manager,
and every PMAC that the manager holds was assigned to an arrival. -/
structure Provenance (initial : Fabric ι δ) (past : List (Arrival ι δ))
    (fabric : Fabric ι δ) : Prop where
  config : fabric.SameConfig initial
  entry : ∀ (i : ι) (key : Mac48Address) (entry : PMACEntry),
    (fabric.switches i).table.mapping[key]? = some entry →
      (∃ arrival, initial.Entered past i entry.port arrival ∧
        key = (initial.switches i).assignedPmac entry.port ∧
        entry.amac = arrival.metadata.srcAmac ∧
        entry.ipAddress = arrival.metadata.srcIp) ∧
      ∃ held, fabric.manager.ipPMACTable[entry.ipAddress]? = some held
  held : ∀ (ip : Ipv4Address) (pmac : Mac48Address),
    fabric.manager.ipPMACTable[ip]? = some pmac →
      ∃ i inPort arrival, initial.Entered past i inPort arrival ∧
        pmac = (initial.switches i).assignedPmac inPort ∧ ip = arrival.metadata.srcIp

theorem Fresh.provenance {initial : Fabric ι δ} (fresh : initial.Fresh) :
    initial.Provenance [] initial where
  config _ := rfl
  entry i key entry stored := by simp [fresh.table i] at stored
  held ip pmac stored := by simp [fresh.manager] at stored

/-- The arrival that registers an entry enters at the port of the entry. -/
theorem entered_of_registration {initial fabric : Fabric ι δ}
    (same : fabric.SameConfig initial) {arrival : Arrival ι δ} {entry : PMACEntry}
    (registers : fabric.registration arrival = some entry) (past : List (Arrival ι δ)) :
    initial.Entered (past ++ [arrival]) arrival.switch entry.port arrival ∧
      entry = { pmac := (initial.switches arrival.switch).assignedPmac entry.port
                amac := arrival.metadata.srcAmac
                ipAddress := arrival.metadata.srcIp
                port := entry.port } := by
  rcases exists_ingressPort registers with ⟨inPort, enters, rfl⟩
  rw [ingressPort_congr same] at enters
  exact ⟨⟨by simp, rfl, enters⟩, by rw [same.assignedPmac]⟩

variable [DecidableEq ι]

theorem Provenance.step {initial fabric next : Fabric ι δ} {past : List (Arrival ι δ)}
    {arrival : Arrival ι δ} {actions : List (ι × Action δ)}
    (provenance : initial.Provenance past fabric)
    (received : fabric.receive arrival = .ok (next, actions)) :
    initial.Provenance (past ++ [arrival]) next where
  config := (receive_effect received).1.trans provenance.config
  entry i key entry stored := by
    rcases stored_cases received stored with earlier | ⟨rfl, registers, rfl⟩
    · rcases provenance.entry i key entry earlier with
        ⟨⟨source, entered, assigned⟩, held, known⟩
      refine ⟨⟨source, entered.extend arrival, assigned⟩, ?_⟩
      rw [getElem?_manager received]
      split
      · split
        · exact ⟨_, rfl⟩
        · exact ⟨held, known⟩
      · exact ⟨held, known⟩
    · rcases entered_of_registration provenance.config registers past with
        ⟨entered, entryIs⟩
      refine ⟨⟨arrival, entered, congrArg PMACEntry.pmac entryIs,
        congrArg PMACEntry.amac entryIs, congrArg PMACEntry.ipAddress entryIs⟩,
        entry.pmac, ?_⟩
      rw [getElem?_manager received, registers]
      simp
  held ip pmac stored := by
    have earlier (before : fabric.manager.ipPMACTable[ip]? = some pmac) :
        ∃ i inPort source, initial.Entered (past ++ [arrival]) i inPort source ∧
          pmac = (initial.switches i).assignedPmac inPort ∧
          ip = source.metadata.srcIp := by
      rcases provenance.held ip pmac before with ⟨i, inPort, source, entered, assigned⟩
      exact ⟨i, inPort, source, entered.extend arrival, assigned⟩
    rw [getElem?_manager received] at stored
    split at stored
    · next entry registers =>
        split at stored
        · next sameIp =>
            cases stored
            rcases entered_of_registration provenance.config registers past with
              ⟨entered, entryIs⟩
            exact ⟨arrival.switch, entry.port, arrival, entered,
              congrArg PMACEntry.pmac entryIs,
              sameIp ▸ congrArg PMACEntry.ipAddress entryIs⟩
        · exact earlier stored
    · exact earlier stored

theorem provenance_of_run {initial final : Fabric ι δ} {arrivals : List (Arrival ι δ)}
    (fresh : initial.Fresh) (ran : step.run initial arrivals = some final) :
    initial.Provenance arrivals final := by
  apply PartialStep.run_history fresh.provenance ?_ ran
  intro past arrival state next provenance stepped
  rcases receive_of_step stepped with ⟨actions, received⟩
  exact provenance.step received

end DataCenter.Portland.Fabric
