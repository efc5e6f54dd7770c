import DataCenter.Portland.Fabric

/-! # The shape of a PMAC table

The keys that `GetSourcePMAC` assembles octet by octet are read octet by octet in
`GetOutputPort`.  Whatever arrives, both ways to find the port of a key agree. -/

namespace DataCenter.Portland.Fabric

open PortlandSwitchNetDevice

variable {ι δ : Type}

/-- Every entry is at the PMAC of a lower port of its switch. -/
structure Shaped (fabric : Fabric ι δ) (i : ι) : Prop where
  pmac : ∀ (key : Mac48Address) (entry : PMACEntry),
    (fabric.switches i).table.mapping[key]? = some entry → entry.pmac = key
  key : ∀ (key : Mac48Address) (entry : PMACEntry),
    (fabric.switches i).table.mapping[key]? = some entry →
      key = ⟨0, (fabric.switches i).pod, (fabric.switches i).position, entry.port, 0, 1⟩
  port : ∀ (key : Mac48Address) (entry : PMACEntry),
    (fabric.switches i).table.mapping[key]? = some entry →
      entry.port.toNat < (fabric.switches i).lowerPorts.length

section OneSwitch

variable {fabric : Fabric ι δ} {i : ι}

theorem shaped_of_empty (empty : (fabric.switches i).table.mapping = ∅) :
    fabric.Shaped i where
  pmac key entry stored := by simp [empty] at stored
  key key entry stored := by simp [empty] at stored
  port key entry stored := by simp [empty] at stored

/-- A port has at most one entry. -/
theorem Shaped.key_inj (shaped : fabric.Shaped i) {key other : Mac48Address}
    {entry found : PMACEntry}
    (stored : (fabric.switches i).table.mapping[key]? = some entry)
    (otherStored : (fabric.switches i).table.mapping[other]? = some found)
    (samePort : entry.port = found.port) : key = other := by
  rw [shaped.key key entry stored, shaped.key other found otherStored, samePort]

/-- An edge switch sends a frame for one of its keys to the port that the table has for
it. -/
theorem Shaped.getOutputPort_eq (shaped : fabric.Shaped i)
    (isEdge : (fabric.switches i).deviceType = .edge) {key : Mac48Address}
    {entry : PMACEntry}
    (stored : (fabric.switches i).table.mapping[key]? = some entry) (rand : Nat) :
    (fabric.switches i).getOutputPort rand key =
      .ok ((fabric.switches i).table.findPortOfPmac key) := by
  have keyIs :
      key = pseudo (fabric.switches i).pod (fabric.switches i).position entry.port :=
    shaped.key key entry stored
  have found : (fabric.switches i).table.findPortOfPmac key = entry.port.toNat := by
    simp [PMACTable.findPortOfPmac, stored]
  rw [found, keyIs, getOutputPort_pseudo, isEdge]
  simp

variable [DecidableEq ι] [DecidableEq δ]

theorem Shaped.step (shaped : fabric.Shaped i) {arrival : Arrival ι δ} {next : Fabric ι δ}
    {actions : List (ι × Action δ)}
    (received : fabric.receive arrival = .ok (next, actions)) :
    next.Shaped i := by
  have same := (receive_effect received).1
  have samePod : (next.switches i).pod = (fabric.switches i).pod :=
    congrArg SwitchConfig.pod (same i)
  have samePosition : (next.switches i).position = (fabric.switches i).position :=
    congrArg SwitchConfig.position (same i)
  constructor
  · intro key entry stored
    rcases stored_cases received stored with earlier | ⟨-, -, sameKey⟩
    · exact shaped.pmac key entry earlier
    · exact sameKey
  · intro key entry stored
    rw [samePod, samePosition]
    rcases stored_cases received stored with earlier | ⟨rfl, registers, rfl⟩
    · exact shaped.key key entry earlier
    · rcases exists_ingressPort registers with ⟨inPort, enters, rfl⟩
      rfl
  · intro key entry stored
    rw [same.lowerPorts_length]
    rcases stored_cases received stored with earlier | ⟨rfl, registers, rfl⟩
    · exact shaped.port key entry earlier
    · rcases exists_ingressPort registers with ⟨inPort, enters, rfl⟩
      exact inPort_lt enters

end OneSwitch

section Runs

variable [DecidableEq ι] [DecidableEq δ] {initial middle final : Fabric ι δ} {i : ι}

/-- The shape of the table and the configuration that gives it survive every arrival. -/
theorem shaped_of_run (empty : (initial.switches i).table.mapping = ∅)
    {arrivals : List (Arrival ι δ)} (ran : step.run initial arrivals = some final) :
    final.Shaped i ∧ final.SameConfig initial := by
  have anything : ∀ arrival ∈ arrivals, (fun _ : Arrival ι δ => True) arrival := by
    intro arrival _
    trivial
  apply PartialStep.run_preserves
    (fun fabric => fabric.Shaped i ∧ fabric.SameConfig initial) _ anything
    ⟨shaped_of_empty empty, fun _ => rfl⟩ ran
  intro state arrival next _ holds stepped
  rcases receive_of_step stepped with ⟨actions, received⟩
  exact ⟨holds.1.step received, (receive_effect received).1.trans holds.2⟩

/-- Whatever an edge switch receives, its table has one entry at most for each lower
port, at the PMAC of the port, which is where the switch sends frames for that PMAC, and
it keeps what it has. -/
theorem pmac_table_shape (isEdge : (initial.switches i).deviceType = .edge)
    (empty : (initial.switches i).table.mapping = ∅) {before after : List (Arrival ι δ)}
    (ranBefore : step.run initial before = some middle)
    (ranAfter : step.run middle after = some final) :
    (∀ (key : Mac48Address) (entry : PMACEntry),
      (final.switches i).table.mapping[key]? = some entry →
        entry.pmac = key ∧
        key = ⟨0, (initial.switches i).pod, (initial.switches i).position, entry.port,
          0, 1⟩ ∧
        entry.port.toNat < (initial.switches i).lowerPorts.length ∧
        ∀ rand, (final.switches i).getOutputPort rand key =
          .ok ((final.switches i).table.findPortOfPmac key)) ∧
    (∀ (key other : Mac48Address) (entry found : PMACEntry),
      (final.switches i).table.mapping[key]? = some entry →
      (final.switches i).table.mapping[other]? = some found →
      entry.port = found.port → key = other ∧ entry = found) ∧
    ∀ (key : Mac48Address) (entry : PMACEntry),
      (middle.switches i).table.mapping[key]? = some entry →
        (final.switches i).table.mapping[key]? = some entry := by
  have ran : step.run initial (before ++ after) = some final := by
    rw [PartialStep.run_append, ranBefore]
    exact ranAfter
  rcases shaped_of_run empty ran with ⟨shaped, same⟩
  have samePod : (final.switches i).pod = (initial.switches i).pod :=
    congrArg SwitchConfig.pod (same i)
  have samePosition : (final.switches i).position = (initial.switches i).position :=
    congrArg SwitchConfig.position (same i)
  have stillEdge : (final.switches i).deviceType = .edge :=
    (same.deviceType i).trans isEdge
  refine ⟨?_, ?_, ?_⟩
  · intro key entry stored
    rw [← samePod, ← samePosition, ← same.lowerPorts_length i]
    exact ⟨shaped.pmac key entry stored, shaped.key key entry stored,
      shaped.port key entry stored, shaped.getOutputPort_eq stillEdge stored⟩
  · intro key other entry found stored otherStored samePort
    have sameKey := shaped.key_inj stored otherStored samePort
    subst sameKey
    exact ⟨rfl, Option.some.inj (stored.symm.trans otherStored)⟩
  · intro key entry stored
    have later : step.Reachable (fun _ => True) middle final := ⟨after, by simp, ranAfter⟩
    exact stored_of_reachable later stored

/-- The lone switch, before and after its host sends once more with another card. -/
theorem pmac_table_shape_lone :
    ∃ middle final,
        step.run lone [datagram false 1 ⟨2, 0, 0, 0, 0, 1⟩ ⟨2, 0, 0, 0, 0, 2⟩] =
        some middle ∧
      step.run middle [datagram false 3 ⟨2, 0, 0, 0, 0, 7⟩ ⟨2, 0, 0, 0, 0, 2⟩] =
        some final ∧
      ∀ (key : Mac48Address) (entry : PMACEntry),
        (middle.switches ()).table.mapping[key]? = some entry →
          (final.switches ()).table.mapping[key]? = some entry ∧ entry.pmac = key := by
  have ends : (step.run lone ([datagram false 1 ⟨2, 0, 0, 0, 0, 1⟩ ⟨2, 0, 0, 0, 0, 2⟩] ++
      [datagram false 3 ⟨2, 0, 0, 0, 0, 7⟩ ⟨2, 0, 0, 0, 0, 2⟩])).isSome = true := by
    decide
  rcases Option.isSome_iff_exists.mp ends with ⟨final, ran⟩
  rw [PartialStep.run_append] at ran
  rcases Option.bind_eq_some_iff.mp ran with ⟨middle, ranBefore, ranAfter⟩
  have shape := pmac_table_shape (i := ()) rfl (lone_fresh.table ()) ranBefore ranAfter
  refine ⟨middle, final, ranBefore, ranAfter, ?_⟩
  intro key entry stored
  have still := shape.2.2 key entry stored
  exact ⟨still, (shape.1 key entry still).1⟩

end Runs

end DataCenter.Portland.Fabric
