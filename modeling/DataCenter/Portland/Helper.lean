import DataCenter.Portland.Wiring

/-! # What the helper builds

The overloads of `PortlandSwitchHelper::Install`, and which of the switches that
they build can take every frame. -/

namespace DataCenter.Portland

open PortlandSwitchNetDevice

/-- A call of `PortlandSwitchHelper::Install`: with a node or its name, with a
fabric manager as well, and with everything that a switch has. -/
inductive Installation (δ : Type) where
  | bare (c : List δ)
  | managed (c : List δ)
  | complete (lowerDevices upperDevices : List δ) (deviceType : PortlandSwitchType)
      (pod position : UInt8)

namespace Installation

variable {δ : Type}

def lowerDevices : Installation δ → List δ
  | bare c => c
  | managed c => c
  | complete lowerDevices _ _ _ _ => lowerDevices

def upperDevices : Installation δ → List δ
  | bare _ => []
  | managed _ => []
  | complete _ upperDevices _ _ _ => upperDevices

def deviceType : Installation δ → PortlandSwitchType
  | complete _ _ deviceType _ _ => deviceType
  | _ => .edge

def pod : Installation δ → UInt8
  | complete _ _ _ pod _ => pod
  | _ => 0

def position : Installation δ → UInt8
  | complete _ _ _ _ position => position
  | _ => 0

def hasFabricManager : Installation δ → Bool
  | bare _ => false
  | _ => true

/-- The switch that the call adds to the node. -/
def dev (getAddress : δ → Mac48Address) : Installation δ → PortlandSwitchNetDevice δ
  | bare c => c.foldl (fun dev i => dev.addSwitchPort getAddress i false) {}
  | managed c =>
      let dev := setFabricManager {}
      c.foldl (fun dev i => dev.addSwitchPort getAddress i false) dev
  | complete lowerDevices upperDevices deviceType pod position =>
      let dev : PortlandSwitchNetDevice δ := { deviceType, pod, position }
      let dev := dev.setFabricManager
      let dev :=
        lowerDevices.foldl (fun dev i => dev.addSwitchPort getAddress i false) dev
      upperDevices.foldl (fun dev i => dev.addSwitchPort getAddress i true) dev

/-- The switch has what its type needs for frames from below, or no lower port. -/
def Equipped : Installation δ → Prop
  | bare c => c = []
  | managed c => c = []
  | complete lowerDevices upperDevices deviceType _ _ =>
      lowerDevices = [] ∨ deviceType = .core ∨ upperDevices ≠ []

end Installation

/-- The same for the switch itself. -/
def SwitchConfig.Equipped {δ : Type} (config : SwitchConfig δ) : Prop :=
  config.lower = [] ∨ config.deviceType = .core ∨
    (config.upper ≠ [] ∧ (config.deviceType = .edge → config.hasFabricManager = true))

/-! ## The switch that a call builds -/

section Construction

variable {δ : Type} (getAddress : δ → Mac48Address)

theorem exists_foldl_lower (devices : List δ) (dev : PortlandSwitchNetDevice δ) :
    ∃ address, devices.foldl (fun dev i => dev.addSwitchPort getAddress i false) dev =
      { dev with
        address
        lowerPorts := dev.lowerPorts ++ devices.map fun netdev => { netdev } } := by
  induction devices generalizing dev with
  | nil => exact ⟨dev.address, by simp⟩
  | cons device devices induction =>
      rcases induction (dev.addSwitchPort getAddress device false) with ⟨address, rest⟩
      refine ⟨address, ?_⟩
      rw [List.foldl_cons, rest, addSwitchPort_lower]
      simp

theorem exists_foldl_upper (devices : List δ) (dev : PortlandSwitchNetDevice δ) :
    ∃ address, devices.foldl (fun dev i => dev.addSwitchPort getAddress i true) dev =
      { dev with
        address
        upperPorts := dev.upperPorts ++ devices.map fun netdev => { netdev } } := by
  induction devices generalizing dev with
  | nil => exact ⟨dev.address, by simp⟩
  | cons device devices induction =>
      rcases induction (dev.addSwitchPort getAddress device true) with ⟨address, rest⟩
      refine ⟨address, ?_⟩
      rw [List.foldl_cons, rest, addSwitchPort_upper]
      simp

/-- What the three overloads leave in a switch. -/
theorem Installation.exists_dev_eq (installation : Installation δ) :
    ∃ address, installation.dev getAddress =
      { deviceType := installation.deviceType
        pod := installation.pod
        position := installation.position
        hasFabricManager := installation.hasFabricManager
        address
        lowerPorts := installation.lowerDevices.map fun netdev => { netdev }
        upperPorts := installation.upperDevices.map fun netdev => { netdev } } := by
  cases installation with
  | bare c =>
      rcases exists_foldl_lower getAddress c {} with ⟨address, built⟩
      exact ⟨address, built⟩
  | managed c =>
      rcases exists_foldl_lower getAddress c (setFabricManager {}) with
        ⟨address, built⟩
      exact ⟨address, built⟩
  | complete lowerDevices upperDevices deviceType pod position =>
      let empty : PortlandSwitchNetDevice δ :=
        setFabricManager { deviceType, pod, position }
      rcases exists_foldl_lower getAddress lowerDevices empty with
        ⟨lowerAddress, lowerBuilt⟩
      rcases exists_foldl_upper getAddress upperDevices
        (lowerDevices.foldl (fun dev i => dev.addSwitchPort getAddress i false)
          empty) with
        ⟨address, built⟩
      refine ⟨address, built.trans ?_⟩
      rw [lowerBuilt]
      rfl

/-- A call equips its switch or not. -/
theorem Installation.equipped_dev_iff (installation : Installation δ) :
    (installation.dev getAddress).config.Equipped ↔ installation.Equipped := by
  rcases Installation.exists_dev_eq getAddress installation with ⟨address, built⟩
  rw [built]
  cases installation <;>
    simp [SwitchConfig.Equipped, Installation.Equipped, config, Installation.lowerDevices,
      Installation.upperDevices, Installation.deviceType, Installation.hasFabricManager]

theorem Installation.lower_dev (installation : Installation δ) :
    (installation.dev getAddress).config.lower = installation.lowerDevices := by
  rcases Installation.exists_dev_eq getAddress installation with ⟨address, built⟩
  rw [built]
  simp [config, Function.comp_def]

theorem Installation.upper_dev (installation : Installation δ) :
    (installation.dev getAddress).config.upper = installation.upperDevices := by
  rcases Installation.exists_dev_eq getAddress installation with ⟨address, built⟩
  rw [built]
  simp [config, Function.comp_def]

theorem Installation.upperDevices_of_not_equipped {installation : Installation δ}
    (unequipped : ¬ installation.Equipped) : installation.upperDevices = [] := by
  cases installation with
  | bare c => rfl
  | managed c => rfl
  | complete lowerDevices upperDevices deviceType pod position =>
      by_contra some
      exact unequipped (.inr (.inr some))

theorem Installation.lowerDevices_of_not_equipped {installation : Installation δ}
    (unequipped : ¬ installation.Equipped) : installation.lowerDevices ≠ [] := by
  cases installation with
  | bare c => exact unequipped
  | managed c => exact unequipped
  | complete lowerDevices upperDevices deviceType pod position =>
      intro none
      exact unequipped (.inl none)

end Construction

/-! ## What a switch meets -/

/-- A frame at a port device, or the registration of a host of another switch
with the manager they share. -/
inductive Encounter (δ : Type) where
  | frame (netdev : δ) (frame : Frame) (packetType : PacketType) (rand : Nat)
      (isSent : Nat → Bool) (unset : Bool)
  | registration (hostIP : Ipv4Address) (pod position port : UInt8)

/-- Frames come in on ports of the switch. -/
def Encounter.IsAt {δ : Type} (installation : Installation δ) : Encounter δ → Prop
  | frame netdev _ _ _ _ _ =>
      netdev ∈ installation.lowerDevices ++ installation.upperDevices
  | registration _ _ _ _ => True

section Encounters

variable {δ ι : Type} [DecidableEq δ] [DecidableEq ι] (self : ι)
  (types : ι → PortlandSwitchType)

/-- The switch and the manager after an encounter. -/
def encounter (state : PortlandSwitchNetDevice δ × FabricManager ι) :
    Encounter δ → Except Fault (PortlandSwitchNetDevice δ × FabricManager ι)
  | .frame netdev frame packetType rand isSent unset => do
      let outcome ← state.1.receiveFromDevice state.2
        { self, deviceType := types, rand, isSent, unset } netdev frame packetType
      return (outcome.switch, outcome.fabricManager)
  | .registration hostIP pod position port =>
      let reply :=
        state.2.pmacRegisterHandler { hostIP, pmacAddress := pseudo pod position port }
      .ok (state.1, reply.fabricManager)

/-- No sequence of encounters evaluates `rand ()` modulo zero or uses a response that no
manager produced. -/
def NeverFaults (getAddress : δ → Mac48Address) (installation : Installation δ)
    (manager : FabricManager ι) : Prop :=
  ∀ encounters : List (Encounter δ), (∀ event ∈ encounters, event.IsAt installation) →
    let run :=
      encounters.foldlM (encounter self types) (installation.dev getAddress, manager)
    run ≠ .error .moduloByZero ∧ run ≠ .error .noResponse

end Encounters

/-! ## Equipped switches -/

section Equipped

variable {δ ι : Type} {switch : PortlandSwitchNetDevice δ}

theorem exists_getOutputPort (ports : switch.deviceType = .core ∨ switch.upperPorts ≠ [])
    (rand : Nat) (dst : Mac48Address) :
    ∃ outPort, switch.getOutputPort rand dst = .ok outPort := by
  rw [getOutputPort]
  cases layer : switch.deviceType with
  | core => exact ⟨_, rfl⟩
  | aggregation =>
      have some : switch.upperPorts.length ≠ 0 := by
        simpa [layer, List.length_eq_zero_iff] using ports
      simp only [some, if_false]
      split <;> exact ⟨_, rfl⟩
  | edge =>
      have some : switch.upperPorts.length ≠ 0 := by
        simpa [layer, List.length_eq_zero_iff] using ports
      simp only [some, if_false]
      split <;> exact ⟨_, rfl⟩

variable [DecidableEq ι]

/-- A frame from above needs only that there are ports above. -/
theorem exists_receiveParsed_upper (some : switch.upperPorts ≠ [])
    (manager : FabricManager ι)
    (surroundings : Surroundings ι) (metadata : SwitchPacketMetadata) (packet : Packet)
    (inPort : UInt8) :
    ∃ outcome, switch.receiveParsed manager surroundings metadata packet inPort true =
      .ok outcome := by
  rcases exists_getOutputPort (.inr some) surroundings.rand metadata.dstPmac with
    ⟨outPort, output⟩
  unfold receiveParsed
  cases switch.deviceType with
  | core => exact ⟨_, rfl⟩
  | aggregation =>
      simp only [forward_eq, output]
      exact ⟨_, rfl⟩
  | edge =>
      by_cases broadcast : metadata.dstPmac = .getBroadcast
      · exact ⟨_, receiveAtEdgeFromUpper_broadcast broadcast manager surroundings packet⟩
      · simp only [receiveAtEdgeFromUpper_eq broadcast, output]
        split <;> exact ⟨_, rfl⟩

/-- A frame from below needs what its switch is equipped with. -/
theorem exists_receiveParsed_lower (lower : switch.lowerPorts ≠ [])
    (equipped : switch.config.Equipped) (manager : FabricManager ι)
    (surroundings : Surroundings ι) (metadata : SwitchPacketMetadata) (packet : Packet)
    (inPort : UInt8) :
    ∃ outcome, switch.receiveParsed manager surroundings metadata packet inPort false =
      .ok outcome := by
  have able : switch.deviceType = .core ∨ (switch.upperPorts ≠ [] ∧
      (switch.deviceType = .edge → switch.hasFabricManager = true)) := by
    simpa [SwitchConfig.Equipped, config, lower] using equipped
  have ports (dst : Mac48Address) :
      ∃ outPort, switch.getOutputPort surroundings.rand dst = .ok outPort :=
    exists_getOutputPort (able.imp_right And.left) surroundings.rand dst
  rcases ports metadata.dstPmac with ⟨outPort, output⟩
  unfold receiveParsed
  cases layer : switch.deviceType with
  | core =>
      simp only [forward_eq, output]
      exact ⟨_, rfl⟩
  | aggregation =>
      simp only [forward_eq, output]
      exact ⟨_, rfl⟩
  | edge =>
      have connected : switch.hasFabricManager = true := by
        simpa [layer] using (able.resolve_left (by simp [layer])).2
      exact exists_receiveAtEdgeFromLower connected manager surroundings ports metadata
        packet inPort

variable [DecidableEq δ]

theorem toUInt8_lt_of_lastIndexOf {netdev : δ} {ports : List (Port δ)} {index : Nat}
    (found : lastIndexOf netdev ports = some index) :
    index.toUInt8.toNat < ports.length := by
  have bound := (List.getElem?_eq_some_iff.mp (getElem?_of_lastIndexOf found)).1
  rw [List.length_map] at bound
  exact Nat.lt_of_le_of_lt (Nat.mod_le index 256) bound

/-- A port device of the switch is found, on a side that has this port. -/
theorem exists_findInPort {netdev : δ}
    (own : netdev ∈ switch.config.lower ++ switch.config.upper) :
    ∃ fromUpper inPort, switch.findInPort netdev = some (fromUpper, inPort) ∧
      inPort.toNat <
        (if fromUpper then switch.upperPorts else switch.lowerPorts).length := by
  rw [findInPort]
  cases upper : lastIndexOf netdev switch.upperPorts with
  | some index => exact ⟨true, index.toUInt8, rfl, toUInt8_lt_of_lastIndexOf upper⟩
  | none =>
      cases lower : lastIndexOf netdev switch.lowerPorts with
      | some index => exact ⟨false, index.toUInt8, rfl, toUInt8_lt_of_lastIndexOf lower⟩
      | none =>
          have notUpper := lastIndexOf_eq_none_iff.mp upper
          have notLower := lastIndexOf_eq_none_iff.mp lower
          rcases List.mem_append.mp own with inLower | inUpper
          · exact absurd inLower notLower
          · exact absurd inUpper notUpper

theorem exists_receiveFromDevice {netdev : δ}
    (own : netdev ∈ switch.config.lower ++ switch.config.upper)
    (equipped : switch.config.Equipped) (manager : FabricManager ι)
    (surroundings : Surroundings ι) (frame : Frame) (packetType : PacketType) :
    ∃ outcome, switch.receiveFromDevice manager surroundings netdev frame packetType =
      .ok outcome := by
  rcases exists_findInPort own with ⟨fromUpper, inPort, found, side⟩
  have counted : (switch.withReceived netdev frame.packet).config.Equipped := by
    rwa [config_withReceived]
  have parsed : ∃ outcome, (switch.withReceived netdev frame.packet).receiveParsed manager
      surroundings (metadataFromPacket surroundings.unset frame.packet frame.src frame.dst
        frame.protocol) frame.packet inPort fromUpper = .ok outcome := by
    cases fromUpper with
    | true =>
        have some := List.ne_nil_of_length_pos (Nat.zero_lt_of_lt side)
        exact exists_receiveParsed_upper (by simpa [withReceived] using some) _ _ _ _ _
    | false =>
        have some := List.ne_nil_of_length_pos (Nat.zero_lt_of_lt side)
        exact exists_receiveParsed_lower (by simpa [withReceived] using some) counted _
          _ _ _ _
  rcases parsed with ⟨outcome, received⟩
  rw [receiveFromDevice_eq found, received]
  split <;> exact ⟨_, rfl⟩

/-- An encounter leaves the ports and the equipment of a switch alone. -/
theorem config_of_encounter {self : ι} {types : ι → PortlandSwitchType}
    {state next : PortlandSwitchNetDevice δ × FabricManager ι} {event : Encounter δ}
    (met : encounter self types state event = .ok next) :
    next.1.config = state.1.config := by
  cases event with
  | frame netdev frame packetType rand isSent unset =>
      rcases bind_eq_ok.mp met with ⟨outcome, received, result⟩
      cases result
      rw [(receiveFromDevice_effect received).1, config_learn, config_withReceived]
  | registration hostIP pod position port =>
      cases met
      rfl

theorem exists_encounter {self : ι} {types : ι → PortlandSwitchType}
    {installation : Installation δ} {state : PortlandSwitchNetDevice δ × FabricManager ι}
    (ports : state.1.config.lower ++ state.1.config.upper =
      installation.lowerDevices ++ installation.upperDevices)
    (equipped : state.1.config.Equipped) {event : Encounter δ}
    (own : event.IsAt installation) :
    ∃ next, encounter self types state event = .ok next := by
  cases event with
  | frame netdev frame packetType rand isSent unset =>
      have member : netdev ∈ state.1.config.lower ++ state.1.config.upper := ports ▸ own
      rcases exists_receiveFromDevice member equipped state.2
        { self, deviceType := types, rand, isSent, unset } frame packetType with
        ⟨outcome, received⟩
      refine ⟨(outcome.switch, outcome.fabricManager), ?_⟩
      rw [encounter, received]
      rfl
  | registration hostIP pod position port => exact ⟨_, rfl⟩

/-- A run of an equipped switch goes through, whatever it meets. -/
theorem exists_run (self : ι) (types : ι → PortlandSwitchType)
    {installation : Installation δ} {encounters : List (Encounter δ)}
    (own : ∀ event ∈ encounters, event.IsAt installation)
    (state : PortlandSwitchNetDevice δ × FabricManager ι)
    (ports : state.1.config.lower ++ state.1.config.upper =
      installation.lowerDevices ++ installation.upperDevices)
    (equipped : state.1.config.Equipped) :
    ∃ final, encounters.foldlM (encounter self types) state = .ok final := by
  induction encounters generalizing state with
  | nil => exact ⟨state, rfl⟩
  | cons event encounters induction =>
      rcases exists_encounter ports equipped (own event List.mem_cons_self) with
        ⟨next, met⟩
      have same := config_of_encounter met
      rcases induction (fun later member =>
        own later (List.mem_cons_of_mem _ member)) next
        (same ▸ ports) (same ▸ equipped) with ⟨final, rest⟩
      refine ⟨final, ?_⟩
      rw [List.foldlM_cons, met]
      exact rest

end Equipped

/-! ## Other switches -/

/-- An ARP request of a host. -/
def requestFrame : Frame where
  packet := .ofArpHeader <| .setRequest (Mac48Address.mk 2 0 0 0 0 1).convertTo ⟨1⟩
    Mac48Address.getBroadcast.convertTo ⟨2⟩
  src := ⟨2, 0, 0, 0, 0, 1⟩
  dst := .getBroadcast
  protocol := arpProtocol

section Unequipped

variable {δ ι : Type} [DecidableEq ι] {switch : PortlandSwitchNetDevice δ}
  {manager : FabricManager ι} {surroundings : Surroundings ι}
  {metadata : SwitchPacketMetadata} {packet : Packet} {inPort : UInt8}

theorem receiveAtEdgeFromLower_of_alone (alone : switch.hasFabricManager = false)
    (registers : (switch.newEntry metadata inPort).isSome) :
    switch.receiveAtEdgeFromLower manager surroundings metadata packet inPort =
      .error .noResponse := by
  simp [receiveAtEdgeFromLower, getSourcePMAC_eq, alone, registers, bind, Except.bind]

theorem receiveAtEdgeFromLower_of_fault {dstPmac : Mac48Address} {fault : Fault}
    (connected : switch.hasFabricManager = true)
    (source : switch.sourcePmac metadata inPort ≠ .getBroadcast)
    (resolved : (switch.learn (switch.newEntry metadata inPort)).resolve
      (manager.learn (switch.newEntry metadata inPort)) metadata.dstIp = some dstPmac)
    (destination : dstPmac ≠ .getBroadcast)
    (output : (switch.learn (switch.newEntry metadata inPort)).getOutputPort
      surroundings.rand dstPmac = .error fault) :
    switch.receiveAtEdgeFromLower manager surroundings metadata packet inPort =
      .error fault := by
  have stillConnected :
      (switch.learn (switch.newEntry metadata inPort)).hasFabricManager = true := by
    rw [← connected]
    exact congrArg SwitchConfig.hasFabricManager (config_learn switch _)
  simp [receiveAtEdgeFromLower, getSourcePMAC_eq, getDestinationPMAC_eq, connected,
    stillConnected, source, resolved, destination, output, bind, Except.bind]

/-- An edge switch without ports above cannot send to another switch. -/
theorem moduloByZero_of_resolved (isEdge : switch.deviceType = .edge)
    (noUpper : switch.upperPorts = []) (connected : switch.hasFabricManager = true)
    (empty : switch.table.mapping = ∅) (inRange : inPort.toNat < switch.lowerPorts.length)
    (apart : metadata.srcIp ≠ metadata.dstIp) {pod position port : UInt8}
    (elsewhere : switch.pod ≠ pod) (registered : manager.ipPMACTable[metadata.dstIp]? =
      some (pseudo pod position port)) :
    switch.receiveAtEdgeFromLower manager surroundings metadata packet inPort =
      .error .moduloByZero := by
  have source : switch.sourcePmac metadata inPort ≠ .getBroadcast := by
    rw [sourcePmac_of_empty empty inRange]
    exact pseudo_ne_broadcast _ _ _
  have resolved := resolve_of_registered empty inRange apart registered
  apply receiveAtEdgeFromLower_of_fault connected source resolved
    (pseudo_ne_broadcast _ _ _)
  rw [getOutputPort_learn, getOutputPort_pseudo, isEdge]
  simp [elsewhere, randomUpperPort, noUpper]

/-- What a switch reads from the request. -/
def requestMetadata : SwitchPacketMetadata where
  packet := requestFrame.packet
  protocolNumber := arpProtocol
  srcAmac := requestFrame.src
  dstPmac := .getBroadcast
  srcIp := ⟨1⟩
  dstIp := ⟨2⟩
  isArpRequest := true

theorem metadataFromPacket_requestFrame (unset : Bool) :
    metadataFromPacket unset requestFrame.packet requestFrame.src requestFrame.dst
      requestFrame.protocol = requestMetadata := by
  cases unset <;> decide

variable [DecidableEq δ]

/-- A request that comes in on a lower port fails as its parsed form does. -/
theorem receiveFromDevice_of_fault (noUpper : switch.upperPorts = []) {netdev : δ}
    (own : netdev ∈ switch.config.lower) {fault : Fault}
    (faults : ∀ inPort : UInt8, inPort.toNat < switch.lowerPorts.length →
      (switch.withReceived netdev requestFrame.packet).receiveParsed manager surroundings
        requestMetadata requestFrame.packet inPort false = .error fault) :
    switch.receiveFromDevice manager surroundings netdev requestFrame .broadcast =
      .error fault := by
  rcases exists_findInPort (List.mem_append_left switch.config.upper own) with
    ⟨fromUpper, inPort, found, inRange⟩
  cases fromUpper with
  | true => simp [noUpper] at inRange
  | false =>
      have passes : switch.Passes requestFrame .broadcast := by simp [Passes]
      rw [receiveFromDevice_eq found, if_pos passes, metadataFromPacket_requestFrame,
        faults inPort inRange]
      rfl

/-- A switch that is not equipped fails at the first request from below, if a host of
another switch is asked for. -/
theorem exists_fault_of_not_equipped (surroundings : Surroundings ι)
    (unequipped : ¬ switch.config.Equipped)
    (noUpper : switch.upperPorts = []) (empty : switch.table.mapping = ∅) {netdev : δ}
    (own : netdev ∈ switch.config.lower) {pod position port : UInt8}
    (elsewhere : switch.pod ≠ pod)
    (registered : manager.ipPMACTable[requestMetadata.dstIp]? =
      some (pseudo pod position port)) :
    ∃ fault, (fault = .moduloByZero ∨ fault = .noResponse) ∧
      switch.receiveFromDevice manager surroundings netdev requestFrame .broadcast =
        .error fault := by
  let counted := switch.withReceived netdev requestFrame.packet
  have length : counted.lowerPorts.length = switch.lowerPorts.length := by
    simp [counted, withReceived]
  have noneAbove : counted.upperPorts = [] := by simp [counted, withReceived, noUpper]
  have sameType : counted.deviceType = switch.deviceType := rfl
  cases layer : switch.deviceType with
  | core => exact absurd (.inr (.inl layer)) unequipped
  | aggregation =>
      refine ⟨.moduloByZero, .inl rfl, receiveFromDevice_of_fault noUpper own ?_⟩
      intro inPort inRange
      have output :
          counted.getOutputPort surroundings.rand .getBroadcast =
            .error .moduloByZero := by
        rw [getOutputPort_broadcast (sameType.trans layer)]
        simp [randomUpperPort, noneAbove]
      simp only [receiveParsed, counted, sameType, layer, forward_eq, requestMetadata]
        at output ⊢
      rw [output]
      rfl
  | edge =>
      have parsed (inPort : UInt8) :
          counted.receiveParsed manager surroundings requestMetadata requestFrame.packet
            inPort
            false = counted.receiveAtEdgeFromLower manager surroundings requestMetadata
              requestFrame.packet inPort := by
        rw [receiveParsed]
        rw [sameType, layer]
      cases managed : switch.hasFabricManager with
      | false =>
          refine ⟨.noResponse, .inr rfl, receiveFromDevice_of_fault noUpper own ?_⟩
          intro inPort inRange
          have registers : counted.newEntry requestMetadata inPort = some _ :=
            newEntry_of_empty empty (length ▸ inRange)
          rw [parsed]
          exact receiveAtEdgeFromLower_of_alone managed (by rw [registers]; rfl)
      | true =>
          refine ⟨.moduloByZero, .inl rfl, receiveFromDevice_of_fault noUpper own ?_⟩
          intro inPort inRange
          rw [parsed]
          exact moduloByZero_of_resolved (sameType.trans layer) noneAbove managed empty
            (length ▸ inRange) (by decide) elsewhere registered

end Unequipped

/-! ## Which calls build a switch that never faults -/

section Calls

variable {δ ι : Type} [DecidableEq δ] [DecidableEq ι]

/-- The switch that a call of the helper builds never evaluates `rand ()` modulo zero
and never uses a response that no manager produced, whatever the shared manager knows
and whatever comes in, exactly if the call equips it. -/
theorem neverFaults_iff_equipped (self : ι) (types : ι → PortlandSwitchType)
    (getAddress : δ → Mac48Address) (installation : Installation δ)
    (manager : FabricManager ι) :
    NeverFaults self types getAddress installation manager ↔ installation.Equipped := by
  have lower := Installation.lower_dev getAddress installation
  have upper := Installation.upper_dev getAddress installation
  constructor
  · intro never
    by_contra unequipped
    have noUpper : (installation.dev getAddress).upperPorts = [] := by
      rw [Installation.upperDevices_of_not_equipped unequipped] at upper
      exact List.map_eq_nil_iff.mp upper
    have empty : (installation.dev getAddress).table.mapping = ∅ := by
      rcases Installation.exists_dev_eq getAddress installation with ⟨address, built⟩
      rw [built]
    rcases List.exists_mem_of_ne_nil _
      (Installation.lowerDevices_of_not_equipped unequipped) with
      ⟨netdev, member⟩
    let other := (installation.dev getAddress).pod + 1
    have elsewhere : (installation.dev getAddress).pod ≠ other := by simp [other]
    have registered : (manager.addPMACToTable requestMetadata.dstIp
        (pseudo other 0 0)).ipPMACTable[requestMetadata.dstIp]? =
          some (pseudo other 0 0) :=
      (manager.getElem?_addPMACToTable _ _ _).trans (if_pos rfl)
    let surroundings : Surroundings ι :=
      { self, deviceType := types, rand := 0, isSent := fun _ => true, unset := false }
    rcases exists_fault_of_not_equipped surroundings
        (unequipped ∘ (Installation.equipped_dev_iff getAddress installation).mp)
          noUpper empty
        (lower ▸ member) elsewhere registered with ⟨fault, undefined, faults⟩
    have faulted := never [.registration requestMetadata.dstIp other 0 0,
        .frame netdev requestFrame .broadcast 0 (fun _ => true) false]
      (by simp [Encounter.IsAt, member])
    have ran : [Encounter.registration requestMetadata.dstIp other 0 0,
        .frame netdev requestFrame .broadcast 0 (fun _ => true) false].foldlM
          (encounter self types) (installation.dev getAddress, manager) =
            .error fault := by
      simp only [List.foldlM_cons, encounter, FabricManager.pmacRegisterHandler]
      simp [surroundings, faults, bind, Except.bind]
    rcases undefined with rfl | rfl
    · exact faulted.1 ran
    · exact faulted.2 ran
  · intro equipped encounters own
    have same : (installation.dev getAddress).config.lower ++
        (installation.dev getAddress).config.upper =
          installation.lowerDevices ++ installation.upperDevices := by
      rw [lower, upper]
    rcases exists_run self types own (installation.dev getAddress, manager) same
      ((Installation.equipped_dev_iff getAddress installation).mpr equipped) with
        ⟨final, ran⟩
    simp [ran]

/-- A switch that was installed without a manager, and a first frame. -/
theorem bare_switch_faults :
    ¬ NeverFaults () (fun _ => .edge) (fun _ => ⟨4, 0, 0, 0, 0, 0⟩) (.bare [()])
      ({} : FabricManager Unit) := by
  intro never
  have faulted := never [.frame () requestFrame .broadcast 0 (fun _ => true) false]
    (by simp [Encounter.IsAt, Installation.lowerDevices])
  exact faulted.2 rfl

end Calls

end DataCenter.Portland
