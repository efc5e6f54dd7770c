import DataCenter.Portland.Network

/-! # What becomes of a frame

The two decisions of `ReceiveFromDevice`: whether a frame is for the switch itself, which
compares types that the port devices assign with the address of one port, and on which
port a frame goes out, where an `int` ends up in an octet. -/

namespace DataCenter.Portland

open PortlandSwitchNetDevice

variable {δ ι : Type}

/-- The side and the number of the port that an action sends on. -/
def Action.place : Action δ → Option (Bool × Nat)
  | .sendFrom isUpper outPort _ _ _ => some (isUpper, outPort.toNat)
  | .rxCallback _ _ _ => none

/-- The ports that a reception sends on. -/
def Outcome.sends (outcome : Outcome δ ι) : List (Bool × Nat) :=
  outcome.actions.filterMap Action.place

namespace PortlandSwitchNetDevice

def portCount (switch : PortlandSwitchNetDevice δ) (isUpper : Bool) : Nat :=
  if isUpper then switch.upperPorts.length else switch.lowerPorts.length

/-! ## Output ports -/

section Sending

variable {switch : PortlandSwitchNetDevice δ}

theorem length_config_side (switch : PortlandSwitchNetDevice δ) (isUpper : Bool) :
    (if isUpper then switch.config.upper else switch.config.lower).length =
      switch.portCount isUpper := by
  cases isUpper <;> simp [config, portCount]

/-- A frame leaves on a port that the switch has, and on no other. -/
theorem sends_transmit (isUpper : Bool) (outPort : UInt8) (frame : Frame) (sent : Bool) :
    (switch.config.transmit isUpper outPort frame sent).filterMap Action.place =
      if outPort.toNat < switch.portCount isUpper then [(isUpper, outPort.toNat)]
      else [] := by
  rw [SwitchConfig.transmit, SwitchConfig.port]
  by_cases inRange : outPort.toNat < switch.portCount isUpper
  · have bound := inRange
    rw [← length_config_side] at bound
    rw [List.getElem?_eq_getElem bound, if_pos inRange]
    rfl
  · have outside := Nat.le_of_not_lt inRange
    rw [← length_config_side] at outside
    rw [List.getElem?_eq_none outside, if_neg inRange]
    rfl

variable [DecidableEq ι]

/-- The side on which a switch forwards a frame to a single port, and the destination
for which it computes the port. -/
def unicastRoute (switch : PortlandSwitchNetDevice δ) (manager : FabricManager ι)
    (metadata : SwitchPacketMetadata) (inPort : UInt8) (fromUpper : Bool) :
    Option (Bool × Mac48Address) :=
  match fromUpper, switch.deviceType with
  | false, .edge =>
      let entry := switch.newEntry metadata inPort
      let found := (switch.learn entry).resolve (manager.learn entry) metadata.dstIp
      if switch.sourcePmac metadata inPort = .getBroadcast ∨
        found = some .getBroadcast then none
      else found.map fun dstPmac => (true, dstPmac)
  | false, .aggregation => some (true, metadata.dstPmac)
  | false, .core => some (false, metadata.dstPmac)
  | true, .edge =>
      if metadata.dstPmac = .getBroadcast ∨
          switch.table.findAMACOfPmac metadata.dstPmac = .getBroadcast then none
      else some (false, metadata.dstPmac)
  | true, .aggregation => some (false, metadata.dstPmac)
  | true, .core => none

variable {manager : FabricManager ι} {surroundings : Surroundings ι}
  {metadata : SwitchPacketMetadata} {packet : Packet} {inPort : UInt8}
  {fromUpper side : Bool} {dst : Mac48Address} {outcome : Outcome δ ι}

omit [DecidableEq ι] in
theorem transmit_of_forward
    (forwarded : switch.forward manager surroundings metadata packet side = .ok outcome) :
    ∃ outPort frame, switch.getOutputPort surroundings.rand metadata.dstPmac =
      .ok outPort ∧
      outcome.actions = switch.config.transmit side (toUInt8 outPort) frame
        (surroundings.isSent 0) := by
  rw [forward_eq] at forwarded
  rcases bind_eq_ok.mp forwarded with ⟨outPort, output, rest⟩
  cases rest
  exact ⟨outPort, _, output, outputPacket_actions _ _ _ _ _⟩

/-- A frame that has a route is sent on the port that is computed for it, cut to an
octet. -/
theorem transmit_of_route
    (parsed : switch.receiveParsed manager surroundings metadata packet inPort fromUpper =
      .ok outcome)
    (routed : switch.unicastRoute manager metadata inPort fromUpper = some (side, dst)) :
    ∃ outPort frame, switch.getOutputPort surroundings.rand dst = .ok outPort ∧
      outcome.actions = switch.config.transmit side (toUInt8 outPort) frame
        (surroundings.isSent 0) := by
  unfold receiveParsed at parsed
  unfold unicastRoute at routed
  cases fromUpper with
  | false =>
      cases layer : switch.deviceType with
      | edge =>
          simp only [layer] at parsed routed
          split at routed
          · cases routed
          · next addressed =>
              rcases Option.map_eq_some_iff.mp routed with ⟨dstPmac, found, same⟩
              cases same
              rcases (receiveAtEdgeFromLower_cases parsed).2.2 with
                ⟨-, -, source | destination⟩ | ⟨-, missed, -⟩ |
                  ⟨other, outPort, -, -, resolved, output, -, sends⟩
              · exact absurd (.inl source) addressed
              · exact absurd (.inr destination) addressed
              · rw [missed] at found
                cases found
              · rw [resolved] at found
                cases found
                exact ⟨outPort, _, (getOutputPort_learn _ _ _ _).symm.trans output, sends⟩
      | aggregation =>
          simp only [layer] at parsed routed
          cases routed
          exact transmit_of_forward parsed
      | core =>
          simp only [layer] at parsed routed
          cases routed
          exact transmit_of_forward parsed
  | true =>
      cases layer : switch.deviceType with
      | edge =>
          simp only [layer] at parsed routed
          split at routed
          · cases routed
          · next known =>
              cases routed
              rw [receiveAtEdgeFromUpper_eq fun broadcast => known (.inl broadcast)]
                at parsed
              dsimp only at parsed
              rw [if_neg fun unknown => known (.inr unknown)] at parsed
              rcases bind_eq_ok.mp parsed with ⟨outPort, output, rest⟩
              cases rest
              exact ⟨outPort, _, output, outputPacket_actions _ _ _ _ _⟩
      | aggregation =>
          simp only [layer] at parsed routed
          cases routed
          exact transmit_of_forward parsed
      | core =>
          simp only [layer] at routed
          cases routed

end Sending

section Reception

variable [DecidableEq ι] [DecidableEq δ] {switch : PortlandSwitchNetDevice δ}
  {manager : FabricManager ι} {surroundings : Surroundings ι} {netdev : δ} {frame : Frame}
  {packetType : PacketType} {fromUpper side : Bool} {inPort : UInt8} {dst : Mac48Address}
  {outcome : Outcome δ ι}

theorem pipeline_of_passes
    (found : switch.findInPort netdev = some (fromUpper, inPort))
    (passes : switch.Passes frame packetType)
    (received : switch.receiveFromDevice manager surroundings netdev frame packetType =
      .ok outcome) :
    ∃ inner, (switch.withReceived netdev frame.packet).receiveParsed manager surroundings
        (metadataFromPacket surroundings.unset frame.packet frame.src frame.dst
          frame.protocol)
        frame.packet inPort fromUpper = .ok inner ∧
      outcome = { inner with actions :=
        (if packetType = .otherhost then [toNode frame] else []) ++ inner.actions } := by
  rw [receiveFromDevice_eq found, if_pos passes] at received
  rcases bind_eq_ok.mp received with ⟨inner, parsed, rest⟩
  cases rest
  exact ⟨inner, parsed, rfl⟩

omit [DecidableEq ι] in
@[simp] theorem portCount_withReceived (switch : PortlandSwitchNetDevice δ) (netdev : δ)
    (packet : Packet) (isUpper : Bool) :
    (switch.withReceived netdev packet).portCount isUpper = switch.portCount isUpper := by
  cases isUpper <;> simp [portCount, withReceived]

omit [DecidableEq ι] in
theorem unicastRoute_withReceived (switch : PortlandSwitchNetDevice δ) (netdev : δ)
    (packet : Packet) (manager : FabricManager ι) (metadata : SwitchPacketMetadata)
    (inPort : UInt8) (fromUpper : Bool) :
    (switch.withReceived netdev packet).unicastRoute manager metadata inPort fromUpper =
      switch.unicastRoute manager metadata inPort fromUpper := by
  have sameType :
      (switch.withReceived netdev packet).deviceType = switch.deviceType := rfl
  simp only [unicastRoute, sameType, newEntry_withReceived, sourcePmac_withReceived,
    learn_withReceived, resolve_withReceived, table_withReceived]
  rfl

/-- A frame with a route goes out on the low octet of the computed port, if there is
such a port. -/
theorem sends_of_route {port : Int}
    (found : switch.findInPort netdev = some (fromUpper, inPort))
    (passes : switch.Passes frame packetType)
    (routed : switch.unicastRoute manager
      (metadataFromPacket surroundings.unset frame.packet frame.src frame.dst
        frame.protocol)
      inPort fromUpper = some (side, dst))
    (output : switch.getOutputPort surroundings.rand dst = .ok port)
    (received : switch.receiveFromDevice manager surroundings netdev frame packetType =
      .ok outcome) :
    outcome.sends = if (toUInt8 port).toNat < switch.portCount side then
      [(side, (toUInt8 port).toNat)] else [] := by
  rcases pipeline_of_passes found passes received with ⟨inner, parsed, rfl⟩
  rw [← unicastRoute_withReceived switch netdev frame.packet] at routed
  rcases transmit_of_route parsed routed with ⟨outPort, sentFrame, computed, actions⟩
  rw [getOutputPort_withReceived, output] at computed
  cases computed
  rw [Outcome.sends, List.filterMap_append, actions, sends_transmit,
    portCount_withReceived]
  split <;> rfl

/-- A frame that is forwarded to a single port goes out on the computed port, or is
dropped as there is no such port, exactly if that number fits in an octet or its low
octet is no port either. -/
theorem sends_computed_port_iff {port : Int}
    (found : switch.findInPort netdev = some (fromUpper, inPort))
    (passes : switch.Passes frame packetType)
    (routed : switch.unicastRoute manager
      (metadataFromPacket surroundings.unset frame.packet frame.src frame.dst
        frame.protocol)
      inPort fromUpper = some (side, dst))
    (output : switch.getOutputPort surroundings.rand dst = .ok port)
    (received : switch.receiveFromDevice manager surroundings netdev frame packetType =
      .ok outcome) :
    outcome.sends =
        (if port < 0 ∨ (switch.portCount side : Int) ≤ port then []
          else [(side, port.toNat)]) ↔
      port < 256 ∨ (switch.portCount side : Int) ≤ port % 256 := by
  rcases exists_nat_of_getOutputPort output with ⟨number, rfl⟩
  have octet : (toUInt8 (number : Int)).toNat = number % 256 := by
    rw [toUInt8_natCast]
    simp
  rw [sends_of_route found passes routed output received, octet, Int.toNat_natCast]
  by_cases low : number % 256 < switch.portCount side
  · by_cases inRange : number < switch.portCount side
    · have computed :
          ¬ ((number : Int) < 0 ∨ (switch.portCount side : Int) ≤ number) := by omega
      rw [if_pos low, if_neg computed]
      simp only [List.cons.injEq, Prod.mk.injEq, true_and, and_true]
      omega
    · have noPort : (number : Int) < 0 ∨
          (switch.portCount side : Int) ≤ number := by omega
      rw [if_pos low, if_pos noPort]
      simp only [reduceCtorEq, false_iff]
      omega
  · have noPort : (number : Int) < 0 ∨ (switch.portCount side : Int) ≤ number := by omega
    rw [if_neg low, if_pos noPort]
    simp only [true_iff]
    omega

end Reception

theorem exists_outcome_of_actions {received : Except Fault (Outcome δ ι)}
    {actions : List (Action δ)}
    (seen : received.toOption.map Outcome.actions = some actions) :
    ∃ outcome, received = .ok outcome ∧ outcome.actions = actions := by
  cases received with
  | error fault => cases seen
  | ok outcome => exact ⟨outcome, rfl, Option.some.inj seen⟩

/-- A core switch with a port to one pod. -/
def onePod : PortlandSwitchNetDevice Bool where
  deviceType := .core
  address := ⟨4, 0, 0, 0, 0, 1⟩
  lowerPorts := [{ netdev := false }]

/-- What a lone switch finds outside itself. -/
def nothingElse : Surroundings Unit where
  self := ()
  deviceType _ := .core
  rand := 0
  isSent _ := true
  unset := false

/-- A datagram for a hardware address. -/
def frameTo (dst : Mac48Address) : Frame where
  packet := ipv4Packet ⟨0x0a000001⟩ ⟨0x0a000002⟩
  src := ⟨2, 0, 0, 0, 0, 9⟩
  dst := dst
  protocol := ipv4Protocol

/-- A frame for pod 512 goes to pod 0, although the switch has a port to one pod only. -/
theorem large_pod_is_cut :
    let frame := frameTo ⟨2, 0, 0, 0, 0, 1⟩
    let metadata :=
      metadataFromPacket false frame.packet frame.src frame.dst frame.protocol
    ∃ outcome : Outcome Bool Unit, onePod.findInPort false = some (false, 0) ∧
      onePod.Passes frame .otherhost ∧
      onePod.unicastRoute ({} : FabricManager Unit) metadata 0 false =
        some (false, frame.dst) ∧
      onePod.getOutputPort nothingElse.rand frame.dst = .ok 512 ∧
      onePod.portCount false = 1 ∧
      onePod.receiveFromDevice {} nothingElse false frame .otherhost = .ok outcome ∧
      outcome.sends = [(false, 0)] := by
  intro frame metadata
  have seen : (onePod.receiveFromDevice ({} : FabricManager Unit) nothingElse false frame
      .otherhost).toOption.map Outcome.actions =
        some [toNode frame, .sendFrom false 0 false frame true] := by decide
  rcases exists_outcome_of_actions seen with ⟨outcome, received, actions⟩
  refine ⟨outcome, rfl, by decide, rfl, by decide, rfl, received, ?_⟩
  rw [Outcome.sends, actions]
  rfl

/-- A frame for pod 7 is dropped there. -/
theorem sends_computed_port_iff_dropped :
    let frame := frameTo (pseudo 7 0 0)
    ∃ outcome : Outcome Bool Unit,
      onePod.receiveFromDevice {} nothingElse false frame .otherhost = .ok outcome ∧
        outcome.sends = [] := by
  intro frame
  have seen : (onePod.receiveFromDevice ({} : FabricManager Unit) nothingElse false frame
      .otherhost).toOption.map Outcome.actions = some [toNode frame] := by decide
  rcases exists_outcome_of_actions seen with ⟨outcome, received, -⟩
  have found : onePod.findInPort false = some (false, 0) := rfl
  have passes : onePod.Passes frame .otherhost := by decide
  have routed : onePod.unicastRoute ({} : FabricManager Unit) (metadataFromPacket
      nothingElse.unset frame.packet frame.src frame.dst frame.protocol) 0 false =
        some (false, frame.dst) := rfl
  have output : onePod.getOutputPort nothingElse.rand frame.dst = .ok 7 := by decide
  have computed := (sends_computed_port_iff found passes routed output received).mpr
    (.inl (by decide))
  exact ⟨outcome, received, computed⟩

section Reception

variable [DecidableEq ι] [DecidableEq δ] {switch : PortlandSwitchNetDevice δ}
  {manager : FabricManager ι} {surroundings : Surroundings ι} {netdev : δ} {frame : Frame}
  {fromUpper : Bool} {inPort : UInt8} {outcome : Outcome δ ι}

/-! ## The switch itself -/

/-- A frame for the switch is handed to its node, once, and nothing else happens; any
other goes through the pipeline of the switch and not to its node. -/
structure ProperlyDisposed (switch : PortlandSwitchNetDevice δ)
    (manager : FabricManager ι)
    (surroundings : Surroundings ι) (netdev : δ) (frame : Frame) (packetType : PacketType)
    (fromUpper : Bool) (inPort : UInt8) (outcome : Outcome δ ι) : Prop where
  own : frame.dst = switch.address → outcome =
    { switch := switch.withReceived netdev frame.packet, fabricManager := manager,
      actions := [toNode frame] }
  pipeline : frame.dst ≠ switch.address → switch.Passes frame packetType ∧
    (switch.withReceived netdev frame.packet).receiveParsed manager surroundings
      (metadataFromPacket surroundings.unset frame.packet frame.src frame.dst
        frame.protocol)
      frame.packet inPort fromUpper = .ok outcome
  outside : frame.dst ≠ switch.address → ∀ packet protocol src,
    Action.rxCallback packet protocol src ∉ outcome.actions

/-- A port device takes a unicast frame for its own or for another host's. -/
theorem classify_of_unicast {own dst : Mac48Address} (single : dst.isBroadcast = false)
    (notGroup : dst.isGroup = false) :
    classify own dst = if dst = own then .host else .otherhost := by
  simp [classify, single, notGroup]

/-- Of the unicast frames, those for the address of the switch are properly disposed of,
and no others: the rest is handed to the node of the switch too, or is for another of
its ports and vanishes. -/
theorem properly_disposed_iff {getAddress : δ → Mac48Address}
    (found : switch.findInPort netdev = some (fromUpper, inPort))
    (single : frame.dst.isBroadcast = false) (notGroup : frame.dst.isGroup = false)
    (received : switch.receiveFromDevice manager surroundings netdev frame
      (classify (getAddress netdev) frame.dst) = .ok outcome) :
    ProperlyDisposed switch manager surroundings netdev frame
        (classify (getAddress netdev) frame.dst) fromUpper inPort outcome ↔
      frame.dst = switch.address := by
  have classified : classify (getAddress netdev) frame.dst = _ :=
    classify_of_unicast single notGroup
  constructor
  · intro disposed
    by_contra transit
    have passes := (disposed.pipeline transit).1
    have elsewhere : classify (getAddress netdev) frame.dst = .otherhost := by
      rw [classified] at passes ⊢
      by_cases mine : frame.dst = getAddress netdev
      · rw [if_pos mine] at passes
        exact absurd rfl passes.1
      · exact if_neg mine
    rcases pipeline_of_passes found passes received with ⟨inner, -, rfl⟩
    have outside := disposed.outside transit frame.packet frame.protocol frame.src
    rw [elsewhere] at outside
    exact outside List.mem_cons_self
  · intro own
    have stays : ¬ switch.Passes frame (classify (getAddress netdev) frame.dst) := by
      rw [classified]
      intro passes
      by_cases mine : frame.dst = getAddress netdev
      · rw [if_pos mine] at passes
        exact passes.1 rfl
      · rw [if_neg mine] at passes
        exact passes.2 ⟨rfl, own⟩
    rw [receiveFromDevice_eq found, if_neg stays, if_pos own] at received
    cases received
    exact ⟨fun _ => rfl, fun transit => absurd own transit, fun transit =>
      absurd own transit⟩

end Reception

/-- An aggregation switch with one lower port (`false`) and one upper port (`true`),
which has the address of the lower one. -/
def oneAndOne : PortlandSwitchNetDevice Bool where
  deviceType := .aggregation
  address := ⟨2, 0, 0, 0, 0, 1⟩
  upperPorts := [{ netdev := true }]
  lowerPorts := [{ netdev := false }]

def cardAddress (netdev : Bool) : Mac48Address :=
  if netdev then ⟨2, 0, 0, 0, 0, 2⟩ else ⟨2, 0, 0, 0, 0, 1⟩

/-- A frame that only passes is handed to the node of the switch and sent on, and one
for the address of the upper port vanishes. -/
theorem transit_enters_the_stack :
    let transit := frameTo (pseudo 7 0 0)
    let lost := frameTo (cardAddress true)
    (∃ outcome : Outcome Bool Unit,
        oneAndOne.receiveFromDevice {} nothingElse false transit
        (classify (cardAddress false) transit.dst) = .ok outcome ∧
      outcome.actions = [toNode transit, .sendFrom true 0 true transit true] ∧
      ¬ ProperlyDisposed oneAndOne {} nothingElse false transit
        (classify (cardAddress false) transit.dst) false 0 outcome) ∧
    ∃ outcome : Outcome Bool Unit, oneAndOne.receiveFromDevice {} nothingElse true lost
        (classify (cardAddress true) lost.dst) = .ok outcome ∧ outcome.actions = [] ∧
      ¬ ProperlyDisposed oneAndOne {} nothingElse true lost
        (classify (cardAddress true) lost.dst) true 0 outcome := by
  intro transit lost
  have passesOn :
      (oneAndOne.receiveFromDevice ({} : FabricManager Unit) nothingElse false transit
      (classify (cardAddress false) transit.dst)).toOption.map Outcome.actions =
        some [toNode transit, .sendFrom true 0 true transit true] := by decide
  have vanishes :
      (oneAndOne.receiveFromDevice ({} : FabricManager Unit) nothingElse true lost
      (classify (cardAddress true) lost.dst)).toOption.map Outcome.actions = some [] := by
    decide
  rcases exists_outcome_of_actions passesOn with ⟨outcome, received, actions⟩
  rcases exists_outcome_of_actions vanishes with ⟨outcome', received', actions'⟩
  refine ⟨⟨outcome, received, actions, ?_⟩, outcome', received', actions', ?_⟩
  · intro disposed
    have outside :=
      disposed.outside (by decide) transit.packet transit.protocol transit.src
    rw [actions] at outside
    exact outside List.mem_cons_self
  · intro disposed
    have passes := (disposed.pipeline (by decide)).1
    revert passes
    decide

/-- A frame for the switch itself. -/
theorem properly_disposed_iff_own :
    let frame := frameTo (cardAddress false)
    ∃ outcome : Outcome Bool Unit, oneAndOne.receiveFromDevice {} nothingElse false frame
        (classify (cardAddress false) frame.dst) = .ok outcome ∧
      ProperlyDisposed oneAndOne {} nothingElse false frame
        (classify (cardAddress false) frame.dst) false 0 outcome := by
  intro frame
  have seen :
      (oneAndOne.receiveFromDevice ({} : FabricManager Unit) nothingElse false frame
      (classify (cardAddress false) frame.dst)).toOption.map Outcome.actions =
        some [toNode frame] := by decide
  rcases exists_outcome_of_actions seen with ⟨outcome, received, -⟩
  have found : oneAndOne.findInPort false = some (false, 0) := rfl
  have single : frame.dst.isBroadcast = false := by decide
  have notGroup : frame.dst.isGroup = false := by decide
  exact ⟨outcome, received,
    (properly_disposed_iff found single notGroup received).mpr rfl⟩

end PortlandSwitchNetDevice

end DataCenter.Portland
