import DataCenter.Foundation.Run
import DataCenter.Portland.Reception

/-! # Switches and their fabric manager

A `Fabric` is a set of switches that share one fabric manager.  It is an open
system: an arrival is any frame at any port device of any switch, wherever the
frame came from. -/

namespace DataCenter.Portland

open Std

structure Fabric (ι δ : Type) where
  switches : ι → PortlandSwitchNetDevice δ
  manager : FabricManager ι

/-- One call of `ReceiveFromDevice`, with everything that it draws from outside
the fabric. -/
structure Arrival (ι δ : Type) where
  switch : ι
  netdev : δ
  frame : Frame
  packetType : PacketType
  rand : Nat := 0
  isSent : ι → Nat → Bool := fun _ _ => true
  unset : Bool := false

/-- The addresses that a switch reads from the frame. -/
def Arrival.metadata {ι δ : Type} (arrival : Arrival ι δ) : SwitchPacketMetadata :=
  metadataFromPacket arrival.unset arrival.frame.packet arrival.frame.src
    arrival.frame.dst arrival.frame.protocol

namespace Fabric

variable {ι δ : Type}

/-- Nothing has been received yet. -/
structure Fresh (fabric : Fabric ι δ) : Prop where
  table : ∀ i, (fabric.switches i).table.mapping = ∅
  manager : fabric.manager.ipPMACTable = ∅

/-- Two fabrics that differ in tables and counters only. -/
def SameConfig (left right : Fabric ι δ) : Prop :=
  ∀ i, (left.switches i).config = (right.switches i).config

theorem SameConfig.symm {left right : Fabric ι δ} (same : left.SameConfig right) :
    right.SameConfig left :=
  fun i => (same i).symm

theorem SameConfig.trans {first second third : Fabric ι δ}
    (left : first.SameConfig second)
    (right : second.SameConfig third) : first.SameConfig third :=
  fun i => (left i).trans (right i)

theorem SameConfig.assignedPmac {left right : Fabric ι δ} (same : left.SameConfig right)
    (i : ι) (inPort : UInt8) :
    (left.switches i).assignedPmac inPort = (right.switches i).assignedPmac inPort := by
  have samePod : (left.switches i).pod = (right.switches i).pod :=
    congrArg SwitchConfig.pod (same i)
  have samePosition : (left.switches i).position = (right.switches i).position :=
    congrArg SwitchConfig.position (same i)
  rw [PortlandSwitchNetDevice.assignedPmac, PortlandSwitchNetDevice.assignedPmac, samePod,
    samePosition]

theorem SameConfig.deviceType {left right : Fabric ι δ} (same : left.SameConfig right)
    (i : ι) :
    (left.switches i).deviceType = (right.switches i).deviceType :=
  congrArg SwitchConfig.deviceType (same i)

theorem SameConfig.lowerPorts_length {left right : Fabric ι δ}
    (same : left.SameConfig right) (i : ι) :
    (left.switches i).lowerPorts.length = (right.switches i).lowerPorts.length := by
  have sameLower := congrArg (fun config => config.lower.length) (same i)
  simpa [PortlandSwitchNetDevice.config] using sameLower

/-! ## Coherence of the two kinds of table -/

/-- The keys of every table have the shape that its switch assigns, and every
PMAC that the manager holds is a key of some table. -/
structure Coherent (fabric : Fabric ι δ) : Prop where
  entry : ∀ (i : ι) (key : Mac48Address) (entry : PMACEntry),
    (fabric.switches i).table.mapping[key]? = some entry →
      (fabric.switches i).deviceType = .edge ∧
        key = (fabric.switches i).assignedPmac entry.port ∧
        entry.port.toNat < (fabric.switches i).lowerPorts.length
  held : ∀ (ip : Ipv4Address) (pmac : Mac48Address),
    fabric.manager.ipPMACTable[ip]? = some pmac →
      ∃ i entry, (fabric.switches i).table.mapping[pmac]? = some entry

theorem Fresh.coherent {fabric : Fabric ι δ} (fresh : fabric.Fresh) :
    fabric.Coherent where
  entry i key entry stored := by simp [fresh.table i] at stored
  held ip pmac stored := by simp [fresh.manager] at stored

/-! ## Registrations -/

section Registration

variable [DecidableEq δ]

/-- The lower port at which an arrival enters the fabric: that of the edge
switch which takes its source for one of its hosts. -/
def ingressPort (fabric : Fabric ι δ) (arrival : Arrival ι δ) : Option UInt8 :=
  match (fabric.switches arrival.switch).findInPort arrival.netdev with
  | some (false, inPort) =>
      if (fabric.switches arrival.switch).deviceType = .edge ∧
          (fabric.switches arrival.switch).Passes arrival.frame arrival.packetType then
        some inPort
      else none
  | _ => none

/-- The entry that an arrival registers, if any. -/
def registration (fabric : Fabric ι δ) (arrival : Arrival ι δ) : Option PMACEntry :=
  (fabric.ingressPort arrival).bind fun inPort =>
    (fabric.switches arrival.switch).newEntry arrival.metadata inPort

theorem ingressPort_congr {left right : Fabric ι δ} (same : left.SameConfig right)
    (arrival : Arrival ι δ) : left.ingressPort arrival = right.ingressPort arrival := by
  have config := same arrival.switch
  have sameType : (left.switches arrival.switch).deviceType =
      (right.switches arrival.switch).deviceType :=
    congrArg SwitchConfig.deviceType config
  have sameAddress : (left.switches arrival.switch).address =
      (right.switches arrival.switch).address := congrArg SwitchConfig.address config
  unfold ingressPort
  rw [PortlandSwitchNetDevice.findInPort_congr config]
  split
  · next inPort =>
      apply if_congr ?_ rfl rfl
      rw [PortlandSwitchNetDevice.Passes, PortlandSwitchNetDevice.Passes, sameType,
        sameAddress]
  · rfl

/-- A frame never enters at a port that its edge switch does not have. -/
theorem inPort_lt {fabric : Fabric ι δ} {arrival : Arrival ι δ} {inPort : UInt8}
    (enters : fabric.ingressPort arrival = some inPort) :
    inPort.toNat < (fabric.switches arrival.switch).lowerPorts.length := by
  rw [ingressPort, PortlandSwitchNetDevice.findInPort] at enters
  cases upper : PortlandSwitchNetDevice.lastIndexOf arrival.netdev
      (fabric.switches arrival.switch).upperPorts with
  | some index => simp [upper] at enters
  | none =>
      cases lower : PortlandSwitchNetDevice.lastIndexOf arrival.netdev
          (fabric.switches arrival.switch).lowerPorts with
      | none => simp [upper, lower] at enters
      | some index =>
          have bound := (List.getElem?_eq_some_iff.mp
            (PortlandSwitchNetDevice.getElem?_of_lastIndexOf lower)).1
          rw [List.length_map] at bound
          have portIs : index.toUInt8 = inPort := by
            simp only [upper, lower, Option.map_some] at enters
            split at enters <;> simp_all
          have truncated : index.toUInt8.toNat ≤ index := Nat.mod_le index 256
          rw [← portIs]
          exact Nat.lt_of_le_of_lt truncated bound

theorem deviceType_of_ingressPort {fabric : Fabric ι δ} {arrival : Arrival ι δ}
    {inPort : UInt8} (enters : fabric.ingressPort arrival = some inPort) :
    (fabric.switches arrival.switch).deviceType = .edge := by
  rw [ingressPort] at enters
  split at enters
  · split at enters
    · next passes => exact passes.1
    · cases enters
  · cases enters

/-- A frame that enters is registered unless the edge switch knows its source
IP already. -/
theorem registration_of_ingressPort {fabric : Fabric ι δ} {arrival : Arrival ι δ}
    {inPort : UInt8} (enters : fabric.ingressPort arrival = some inPort) :
    fabric.registration arrival =
      if (fabric.switches arrival.switch).table.findPortOfIp arrival.metadata.srcIp =
        -1 then
        some { pmac := (fabric.switches arrival.switch).assignedPmac inPort
               amac := arrival.metadata.srcAmac
               ipAddress := arrival.metadata.srcIp
               port := inPort }
      else none := by
  simp [registration, enters, PortlandSwitchNetDevice.newEntry, inPort_lt enters]

theorem exists_ingressPort {fabric : Fabric ι δ} {arrival : Arrival ι δ}
    {entry : PMACEntry} (registers : fabric.registration arrival = some entry) :
    ∃ inPort, fabric.ingressPort arrival = some inPort ∧
      entry = { pmac := (fabric.switches arrival.switch).assignedPmac inPort
                amac := arrival.metadata.srcAmac
                ipAddress := arrival.metadata.srcIp
                port := inPort } := by
  cases enters : fabric.ingressPort arrival with
  | none => simp [registration, enters] at registers
  | some inPort =>
      refine ⟨inPort, rfl, ?_⟩
      rw [registration_of_ingressPort enters] at registers
      split at registers
      · exact (Option.some.inj registers).symm
      · cases registers

/-- The switch that receives registers what the fabric says is registered. -/
theorem registration_eq (fabric : Fabric ι δ) (arrival : Arrival ι δ) :
    fabric.registration arrival =
      (fabric.switches arrival.switch).registration arrival.unset
      arrival.netdev arrival.frame arrival.packetType := by
  rw [registration, ingressPort, PortlandSwitchNetDevice.registration]
  cases (fabric.switches arrival.switch).findInPort arrival.netdev with
  | none => rfl
  | some ingress =>
      rcases ingress with ⟨fromUpper, inPort⟩
      cases fromUpper with
      | true => rfl
      | false =>
          dsimp only
          split <;> rfl

end Registration

/-! ## Arrivals -/

variable [DecidableEq ι] [DecidableEq δ]

/-- The fabric after an arrival, and what its switches did: first the receiving
switch, then those that the manager told to flood. -/
def receive (fabric : Fabric ι δ) (arrival : Arrival ι δ) :
    Except Fault (Fabric ι δ × List (ι × Action δ)) := do
  let surroundings : Surroundings ι :=
    { self := arrival.switch
      deviceType := fun other => (fabric.switches other).deviceType
      rand := arrival.rand
      isSent := arrival.isSent arrival.switch
      unset := arrival.unset }
  let outcome ← (fabric.switches arrival.switch).receiveFromDevice fabric.manager
    surroundings arrival.netdev arrival.frame arrival.packetType
  let switches := Function.update fabric.switches arrival.switch outcome.switch
  let flooded := outcome.toSwitches.flatMap fun told =>
    ((switches told.1).receiveBufferFromFabricManager (arrival.isSent told.1) told.2).map
      fun action => (told.1, action)
  return ({ switches, manager := outcome.fabricManager },
    outcome.actions.map (fun action => (arrival.switch, action)) ++ flooded)

/-- An arrival that has a defined behaviour. -/
def step : PartialStep (Fabric ι δ) (Arrival ι δ) := fun fabric arrival =>
  match fabric.receive arrival with
  | .ok (next, _) => some next
  | .error _ => none

/-- What one arrival does to a fabric: it registers at most one entry, at the
switch it arrives at and with the manager. -/
theorem receive_effect {fabric next : Fabric ι δ} {arrival : Arrival ι δ}
    {actions : List (ι × Action δ)}
    (received : fabric.receive arrival = .ok (next, actions)) :
    next.SameConfig fabric ∧
      next.manager = fabric.manager.learn (fabric.registration arrival) ∧
      ∀ i, (next.switches i).table = if i = arrival.switch then
        ((fabric.switches i).learn (fabric.registration arrival)).table
        else (fabric.switches i).table := by
  rw [receive] at received
  rcases bind_eq_ok.mp received with ⟨outcome, happened, rest⟩
  cases rest
  rcases PortlandSwitchNetDevice.receiveFromDevice_effect happened with
    ⟨switchIs, managerIs⟩
  rw [registration_eq]
  refine ⟨?_, managerIs, ?_⟩
  · intro i
    by_cases here : i = arrival.switch
    · subst here
      simp [switchIs]
    · simp [here]
  · intro i
    by_cases here : i = arrival.switch
    · subst here
      simp only [Function.update_self, if_true, switchIs]
      cases (fabric.switches arrival.switch).registration arrival.unset arrival.netdev
        arrival.frame arrival.packetType <;> rfl
    · simp [here]

theorem receive_of_step {fabric next : Fabric ι δ} {arrival : Arrival ι δ}
    (stepped : step fabric arrival = some next) :
    ∃ actions, fabric.receive arrival = .ok (next, actions) := by
  rw [step] at stepped
  split at stepped
  · next received =>
      cases stepped
      exact ⟨_, received⟩
  · cases stepped

section OneArrival

variable {fabric next : Fabric ι δ} {arrival : Arrival ι δ}
  {actions : List (ι × Action δ)}

/-- What is in a table after an arrival was there before, or the arrival
registered it. -/
theorem stored_cases (received : fabric.receive arrival = .ok (next, actions)) {i : ι}
    {key : Mac48Address} {entry : PMACEntry}
    (stored : (next.switches i).table.mapping[key]? = some entry) :
    (fabric.switches i).table.mapping[key]? = some entry ∨
      (i = arrival.switch ∧ fabric.registration arrival = some entry ∧
        entry.pmac = key) := by
  rw [(receive_effect received).2.2 i] at stored
  split at stored
  · next here =>
      cases registers : fabric.registration arrival with
      | none =>
          exact .inl (by simpa [registers, PortlandSwitchNetDevice.learn] using stored)
      | some added =>
          simp only [registers, PortlandSwitchNetDevice.learn, Option.elim_some,
            PMACTable.getElem?_record] at stored
          split at stored
          · next free =>
              cases stored
              exact .inr ⟨here, rfl, free.1⟩
          · exact .inl stored
  · exact .inl stored

/-- An entry is never overwritten or removed. -/
theorem stored_after (received : fabric.receive arrival = .ok (next, actions)) {i : ι}
    {key : Mac48Address} {entry : PMACEntry}
    (stored : (fabric.switches i).table.mapping[key]? = some entry) :
    (next.switches i).table.mapping[key]? = some entry := by
  rw [(receive_effect received).2.2 i]
  split
  · cases fabric.registration arrival with
    | none => exact stored
    | some added => exact PMACTable.getElem?_record_of_getElem? stored added
  · exact stored

/-- The key of a registration is taken afterwards. -/
theorem exists_stored_of_registration
    (received : fabric.receive arrival = .ok (next, actions))
    {entry : PMACEntry} (registers : fabric.registration arrival = some entry) :
    ∃ stored, (next.switches arrival.switch).table.mapping[entry.pmac]? =
      some stored := by
  rw [(receive_effect received).2.2, if_pos rfl, registers]
  exact PMACTable.exists_getElem?_record _ entry

theorem getElem?_manager (received : fabric.receive arrival = .ok (next, actions))
    (ip : Ipv4Address) :
    next.manager.ipPMACTable[ip]? =
      match fabric.registration arrival with
      | some entry =>
          if entry.ipAddress = ip then some entry.pmac
          else fabric.manager.ipPMACTable[ip]?
      | none => fabric.manager.ipPMACTable[ip]? := by
  rw [(receive_effect received).2.1]
  cases fabric.registration arrival with
  | none => rfl
  | some entry =>
      exact fabric.manager.getElem?_addPMACToTable entry.ipAddress ip entry.pmac

end OneArrival

/-! ## Coherence over runs -/

theorem Coherent.step {fabric next : Fabric ι δ} {arrival : Arrival ι δ}
    {actions : List (ι × Action δ)} (coherent : fabric.Coherent)
    (received : fabric.receive arrival = .ok (next, actions)) : next.Coherent where
  entry i key entry stored := by
    have same := (receive_effect received).1
    rw [same.deviceType, same.assignedPmac, same.lowerPorts_length]
    rcases stored_cases received stored with earlier | ⟨rfl, registers, rfl⟩
    · exact coherent.entry i key entry earlier
    · rcases exists_ingressPort registers with ⟨inPort, enters, rfl⟩
      exact ⟨deviceType_of_ingressPort enters, rfl, inPort_lt enters⟩
  held ip pmac stored := by
    rw [getElem?_manager received] at stored
    have earlier (held : fabric.manager.ipPMACTable[ip]? = some pmac) :
        ∃ i entry, (next.switches i).table.mapping[pmac]? = some entry := by
      rcases coherent.held ip pmac held with ⟨i, entry, present⟩
      exact ⟨i, entry, stored_after received present⟩
    split at stored
    · next entry registers =>
        split at stored
        · cases stored
          exact ⟨arrival.switch, exists_stored_of_registration received registers⟩
        · exact earlier stored
    · exact earlier stored

/-- Every fabric that arrivals can lead to is coherent and has the
configuration it started with. -/
theorem coherent_of_reachable {initial fabric : Fabric ι δ} {allowed : Arrival ι δ → Prop}
    (coherent : initial.Coherent) (reached : step.Reachable allowed initial fabric) :
    fabric.Coherent ∧ fabric.SameConfig initial := by
  apply reached.invariant (fun fabric => fabric.Coherent ∧ fabric.SameConfig initial)
    ?_ ⟨coherent, fun _ => rfl⟩
  intro state arrival next _ holds stepped
  rcases holds with ⟨stateCoherent, same⟩
  rcases receive_of_step stepped with ⟨actions, received⟩
  exact ⟨stateCoherent.step received, (receive_effect received).1.trans same⟩

theorem coherent_of_run {initial fabric : Fabric ι δ} {arrivals : List (Arrival ι δ)}
    (coherent : initial.Coherent) (ran : step.run initial arrivals = some fabric) :
    fabric.Coherent := by
  have reached : step.Reachable (fun _ => True) initial fabric :=
    ⟨arrivals, fun _ _ => trivial, ran⟩
  exact (coherent_of_reachable coherent reached).1

/-- What a table holds, it holds for ever. -/
theorem stored_of_reachable {fabric later : Fabric ι δ} {allowed : Arrival ι δ → Prop}
    (reached : step.Reachable allowed fabric later) {i : ι} {key : Mac48Address}
    {entry : PMACEntry} (stored : (fabric.switches i).table.mapping[key]? = some entry) :
    (later.switches i).table.mapping[key]? = some entry := by
  apply reached.invariant
    (fun fabric => (fabric.switches i).table.mapping[key]? = some entry) ?_ stored
  intro state arrival next _ present stepped
  rcases receive_of_step stepped with ⟨actions, received⟩
  exact stored_after received present

/-! ## One edge switch -/

/-- A lone edge switch with one lower port (`false`) and one upper port
(`true`). -/
def lone : Fabric Unit Bool where
  switches _ :=
    { lowerPorts := [{ netdev := false }], upperPorts := [{ netdev := true }],
      hasFabricManager := true }
  manager := { switches := [()] }

/-- An IPv4 frame from 10.0.0.`host` to 10.0.0.2 that comes in at a port device of
the lone switch. -/
def datagram (netdev : Bool) (host : UInt8) (src dst : Mac48Address) :
    Arrival Unit Bool where
  switch := ()
  netdev := netdev
  frame :=
    { packet := ⟨[0x45, 0, 0, 20, 0, 0, 0, 0, 64, 17, 0, 0, 10, 0, 0, host, 10, 0, 0, 2]⟩
      src
      dst
      protocol := ipv4Protocol }
  packetType := .otherhost

theorem lone_fresh : lone.Fresh where
  table _ := rfl
  manager := rfl

end Fabric

end DataCenter.Portland
