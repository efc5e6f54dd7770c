import DataCenter.Portland.Fate

/-! # What a switch makes of a frame

How each frame that a handling sends on comes from the one that arrived, and what
the handling leaves behind in the tables. -/

namespace DataCenter.Portland

open PortlandSwitchNetDevice

variable {k : Nat}

/-- The entry that a frame at a port registers. -/
def learnedAt (getAddress : Device k → Mac48Address)
    (fabric : Fabric (SwitchId k) (Device k))
    (id : SwitchId k) (device : Device k) (frame : Frame) (draw : Draw) (index : Nat)
    (fromUpper : Bool) : Option PMACEntry :=
  if fromUpper = false ∧ id.deviceType = .edge ∧
      (fabric.switches id).Passes frame (classify (getAddress device) frame.dst) then
    (fabric.switches id).newEntry (frame.metadata draw.unset) (UInt8.ofNat index)
  else none

/-- The ways in which a frame that a switch sends comes from one that it
received. -/
inductive Relay (fabric : Fabric (SwitchId k) (Device k)) (id : SwitchId k)
    (fromUpper : Bool) (index : Nat) (draw : Draw) (frame : Frame) : Frame → Prop where
  | forwarded (inner : id.deviceType ≠ .edge) :
      Relay fabric id fromUpper index draw frame frame
  | translated (isEdge : id.deviceType = .edge) (descends : fromUpper = true)
      (unicast : frame.dst ≠ .getBroadcast)
      (known : (fabric.switches id).table.findAMACOfPmac frame.dst ≠ .getBroadcast) :
      Relay fabric id fromUpper index draw frame
        (egressFrame (frame.metadata draw.unset)
          ((fabric.switches id).table.findAMACOfPmac frame.dst) frame.packet)
  | broadcast (isEdge : id.deviceType = .edge) (descends : fromUpper = true)
      (toAll : frame.dst = .getBroadcast) (src : Mac48Address)
      (srcIs : src = frame.src ∨ src = {}) :
      Relay fabric id fromUpper index draw frame
        (broadcastFrame (frame.metadata draw.unset) frame.packet src)
  | resolved (isEdge : id.deviceType = .edge) (ascends : fromUpper = false)
      (dstPmac : Mac48Address) (destination : dstPmac ≠ .getBroadcast)
      (source : (fabric.switches id).sourcePmac (frame.metadata draw.unset)
        (UInt8.ofNat index) ≠ .getBroadcast)
      (found : ((fabric.switches id).learn ((fabric.switches id).newEntry
          (frame.metadata draw.unset) (UInt8.ofNat index))).resolve
        (fabric.manager.learn ((fabric.switches id).newEntry (frame.metadata draw.unset)
          (UInt8.ofNat index))) (frame.metadata draw.unset).dstIp = some dstPmac) :
      Relay fabric id fromUpper index draw frame
        (ingressFrame (frame.metadata draw.unset) ((fabric.switches id).sourcePmac
          (frame.metadata draw.unset) (UInt8.ofNat index)) dstPmac frame.packet)
  | flooded (isEdge : id.deviceType = .edge) (ascends : fromUpper = false)
      (source : (fabric.switches id).sourcePmac (frame.metadata draw.unset)
        (UInt8.ofNat index) ≠ .getBroadcast) :
      Relay fabric id fromUpper index draw frame
        (floodFrame
          { destIPAddress := (frame.metadata draw.unset).dstIp
            srcIPAddress := (frame.metadata draw.unset).srcIp
            srcPMACAddress := (fabric.switches id).sourcePmac (frame.metadata draw.unset)
              (UInt8.ofNat index) })

section Handling

variable {getAddress : Device k → Mac48Address} {fabric : Fabric (SwitchId k) (Device k)}
  {device : Device k} {frame : Frame} {draw : Draw} {id : SwitchId k} {fromUpper : Bool}
  {index : Nat}
  {handling : Handling (Fabric (SwitchId k) (Device k)) (Message k) (Delivery k)}

theorem handle_system (wired : Wired getAddress fabric)
    (port : device.port = some (id, fromUpper, index))
    (handled : handle getAddress fabric (device, frame) draw = some handling) :
    handling.system = fabric.registered id device frame.packet
      (learnedAt getAddress fabric id device frame draw index fromUpper) := by
  by_cases passes : PassesAt getAddress fabric id device frame
  · rw [handle_eq wired port passes] at handled
    cases parsed : parsedAt fabric id device frame draw index fromUpper with
    | error fault => simp [parsed, Except.toOption] at handled
    | ok outcome =>
        have handlingIs : handling = handlingOf fabric id outcome := by
          simpa [parsed, Except.toOption, eq_comm] using handled
        have effect := receiveParsed_effect parsed
        have sameType :
            ((fabric.switches id).withReceived device frame.packet).deviceType =
            id.deviceType := wired.deviceType id
        simp only [newEntry_withReceived, sameType] at effect
        have learned : learnedAt getAddress fabric id device frame draw index fromUpper =
            if fromUpper = false ∧ id.deviceType = .edge then
              (fabric.switches id).newEntry (frame.metadata draw.unset)
                (UInt8.ofNat index)
            else none := by
          rw [learnedAt]
          have passesHere : (fabric.switches id).Passes frame
              (classify (getAddress device) frame.dst) := passes
          simp [passesHere]
        rw [handlingIs, handlingOf, effect.1, effect.2, learned, Fabric.registered,
          learn_withReceived]
  · rw [handle_of_stopped wired port passes] at handled
    cases handled
    have learned : learnedAt getAddress fabric id device frame draw index fromUpper =
        none := by
      apply if_neg
      intro learns
      rcases learns with ⟨-, -, passesHere⟩
      exact passes passesHere
    rw [learned]
    rfl

/-- Every frame that a switch sends is one of the five kinds. -/
theorem relay_of_handle (wired : Wired getAddress fabric)
    (port : device.port = some (id, fromUpper, index))
    (handled : handle getAddress fabric (device, frame) draw = some handling)
    {output : Message k} (member : output ∈ handling.outputs) :
    Relay fabric id fromUpper index draw frame output.2 := by
  by_cases passes : PassesAt getAddress fabric id device frame
  · rcases wired.exists_outPort id draw.rand frame.dst with ⟨outPort, output⟩
    cases layer : id.deviceType with
    | edge =>
        cases fromUpper with
        | true =>
            by_cases broadcast : frame.dst = .getBroadcast
            · rw [handle_broadcast wired port layer passes broadcast] at handled
              cases handled
              rcases mem_broadcastOutputs wired member with ⟨i, -, src, srcIs, onLower⟩
              rw [(mem_onPort.mp onLower).1]
              exact .broadcast layer rfl broadcast src (by simpa using srcIs)
            · by_cases known :
                (fabric.switches id).table.findAMACOfPmac frame.dst = .getBroadcast
              · rw [handle_egress_unknown wired port layer passes broadcast known]
                  at handled
                cases handled
                cases member
              · rw [handle_egress wired port layer passes broadcast known output]
                  at handled
                cases handled
                rw [(mem_onPort.mp member).1]
                exact .translated layer rfl broadcast known
        | false =>
            rcases handle_ingress_cases wired port layer passes handled with
              ⟨-, -, stopped | ⟨source, -, flood⟩ |
                ⟨dstPmac, outPort, source, destination, found, -, up⟩⟩
            · rw [stopped] at member
              cases member
            · rw [flood] at member
              rw [frame_of_mem_floodOutputs member]
              exact .flooded layer rfl source
            · rw [up] at member
              rw [(mem_onPort.mp member).1]
              exact .resolved layer rfl dstPmac destination source found
    | aggregation =>
        rw [handle_forward wired port passes (.inl ⟨layer, rfl⟩) output] at handled
        cases handled
        rw [(mem_onPort.mp member).1]
        exact .forwarded (by simp [layer])
    | core =>
        cases fromUpper with
        | true => exact absurd layer (deviceType_ne_core_of_upper port)
        | false =>
            rw [handle_forward wired port passes (.inr ⟨layer, rfl, rfl⟩) output]
              at handled
            cases handled
            rw [(mem_onPort.mp member).1]
            exact .forwarded (by simp [layer])
  · rw [handle_of_stopped wired port passes] at handled
    cases handled
    cases member

end Handling

end DataCenter.Portland
