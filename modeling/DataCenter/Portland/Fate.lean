import DataCenter.Portland.Forwarding

/-! # The fate of a frame at a switch

Whatever the tables hold and whatever is drawn, a switch drops a frame, sends it
up or down on one port, broadcasts it to its hosts, or causes a flood. -/

namespace DataCenter.Portland

open PortlandSwitchNetDevice

variable {k : Nat}

@[simp] theorem Device.peer_peer (device : Device k) : device.peer.peer = device := by
  simp [Device.peer]

/-! ## Frames on a port -/

theorem mem_onPort {id : SwitchId k} {isUpper : Bool} {outPort : UInt8} {frame : Frame}
    {message : Message k} :
    message ∈ onPort id isUpper outPort frame ↔
      message.2 = frame ∧ message.1.peer.port = some (id, isUpper, outPort.toNat) := by
  rcases message with ⟨device, carried⟩
  simp only [onPort, List.mem_map, Option.mem_toList, Prod.mk.injEq]
  constructor
  · intro sends
    rcases sends with ⟨netdev, stored, rfl, rfl⟩
    exact ⟨rfl, by rw [Device.peer_peer]; exact Device.port_of_side stored⟩
  · intro both
    rcases both with ⟨rfl, port⟩
    exact ⟨device.peer, Device.side_of_port port, Device.peer_peer device, rfl⟩

theorem length_onPort_le (id : SwitchId k) (isUpper : Bool) (outPort : UInt8)
    (frame : Frame) :
    (onPort id isUpper outPort frame).length ≤ 1 := by
  rw [onPort]
  cases (id.side isUpper)[outPort.toNat]? <;> simp

/-! ## Floods -/

theorem length_flatMap_le {α β : Type} (items : List α) (expand : α → List β)
    (bound : Nat) (each : ∀ item ∈ items, (expand item).length ≤ bound) :
    (items.flatMap expand).length ≤ items.length * bound := by
  induction items with
  | nil => simp
  | cons item rest induction =>
      have first := each item List.mem_cons_self
      have others :=
        induction fun other member => each other (List.mem_cons_of_mem item member)
      rw [List.flatMap_cons, List.length_append, List.length_cons, Nat.succ_mul]
      omega

theorem mem_floodOutputs {switches : List (SwitchId k)} {frame : Frame}
    {message : Message k} :
    message ∈ floodOutputs switches frame ↔ ∃ id ∈ switches, id.deviceType = .core ∧
      ∃ i < id.lower.length, message ∈ onPort id false (UInt8.ofNat i) frame := by
  simp [floodOutputs, List.mem_flatMap, and_assoc]

theorem frame_of_mem_floodOutputs {switches : List (SwitchId k)} {frame : Frame}
    {message : Message k} (member : message ∈ floodOutputs switches frame) :
    message.2 = frame := by
  rcases mem_floodOutputs.mp member with ⟨core, -, -, i, -, onCore⟩
  exact (mem_onPort.mp onCore).1

/-- At most `k` frames for each of the core switches. -/
theorem length_floodOutputs_le {switches : List (SwitchId k)} (nodup : switches.Nodup)
    (frame : Frame) : (floodOutputs switches frame).length ≤ k / 2 * (k / 2) * k := by
  have cores :
      (switches.filter fun id => id.deviceType = .core).length ≤ k / 2 * (k / 2) := by
    have subset : (switches.filter fun id => id.deviceType = .core) ⊆
        ((List.finRange (k / 2)).product (List.finRange (k / 2))).map
          fun place => SwitchId.core place.1 place.2 := by
      intro id member
      have isCore : id.deviceType = .core := by simpa using (List.mem_filter.mp member).2
      cases id with
      | edge pod position => cases isCore
      | aggregation pod position => cases isCore
      | core group position =>
          exact List.mem_map.mpr ⟨(group, position), by simp [List.pair_mem_product], rfl⟩
    have shorter := (List.subperm_of_subset (nodup.filter _) subset).length_le
    have pairs : ((List.finRange (k / 2)).product (List.finRange (k / 2))).length =
        k / 2 * (k / 2) := by
      have product := List.length_product (List.finRange (k / 2)) (List.finRange (k / 2))
      rwa [List.length_finRange] at product
    rwa [List.length_map, pairs] at shorter
  have each : ∀ id ∈ switches.filter fun id => id.deviceType = .core,
      ((List.range id.lower.length).flatMap fun i =>
        onPort id false (UInt8.ofNat i) frame).length ≤ k := by
    intro id member
    have isCore : id.deviceType = .core := by simpa using (List.mem_filter.mp member).2
    have ports : id.lower.length = k := by
      cases id with
      | edge pod position => cases isCore
      | aggregation pod position => cases isCore
      | core group position => simp [SwitchId.lower]
    have one := length_flatMap_le (List.range id.lower.length)
      (fun i => onPort id false (UInt8.ofNat i) frame) 1
      fun i _ => length_onPort_le id false (UInt8.ofNat i) frame
    rw [List.length_range, Nat.mul_one] at one
    exact le_of_le_of_eq one ports
  exact Nat.le_trans (length_flatMap_le _ _ k each) (Nat.mul_le_mul_right k cores)

/-! ## Broadcasts -/

section Broadcasts

variable {getAddress : Device k → Mac48Address} {fabric : Fabric (SwitchId k) (Device k)}

theorem mem_broadcastOutputs (wired : Wired getAddress fabric) {device : Device k}
    {packet : Packet} {id : SwitchId k} {metadata : SwitchPacketMetadata}
    {indices : List Nat} {message : Message k}
    (member : message ∈ transmissions (((fabric.switches id).withReceived device
      packet).broadcastToLower (fun _ => true) packet metadata indices)) :
    ∃ i ∈ indices, ∃ src, (src = metadata.srcAmac ∨ src = {}) ∧
      message ∈ onPort id false (UInt8.ofNat i) (broadcastFrame metadata packet src) := by
  rcases List.mem_filterMap.mp member with ⟨action, listed, carried⟩
  rcases mem_broadcastToLower listed with ⟨i, inRange, netdev, src, port, srcIs, rfl⟩
  cases carried
  rw [config_withReceived, wired.port_eq] at port
  exact ⟨i, inRange, src, srcIs, by simp only [onPort, port]; simp⟩

theorem exists_mem_broadcastOutputs (wired : Wired getAddress fabric) (device : Device k)
    (packet : Packet) {id : SwitchId k} (metadata : SwitchPacketMetadata)
    {indices : List Nat} {i : Nat} (inRange : i ∈ indices) {netdev : Device k}
    (port : (id.side false)[(UInt8.ofNat i).toNat]? = some netdev) :
    ∃ src, (netdev.peer, broadcastFrame metadata packet src) ∈
      transmissions (((fabric.switches id).withReceived device packet).broadcastToLower
        (fun _ => true) packet metadata indices) := by
  have onLower : ((fabric.switches id).withReceived device packet).config.port false
      (UInt8.ofNat i) = some netdev := by
    rw [config_withReceived, wired.port_eq]
    exact port
  rcases exists_mem_broadcastToLower (fun _ => true) packet metadata inRange onLower with
    ⟨src, sends⟩
  exact ⟨src, List.mem_filterMap.mpr ⟨_, sends, rfl⟩⟩

end Broadcasts

/-! ## Fates -/

/-- What a switch can make of a frame that it got from an upper or a lower
port. -/
inductive Fate (id : SwitchId k) (fromUpper : Bool) : List (Message k) → Prop where
  | stopped : Fate id fromUpper []
  | up (outPort : UInt8) (frame : Frame) (fromLower : fromUpper = false)
      (below : id.deviceType ≠ .core) : Fate id fromUpper (onPort id true outPort frame)
  | down (outPort : UInt8) (frame : Frame)
      (turned : fromUpper = true ∨ id.deviceType = .core) :
      Fate id fromUpper (onPort id false outPort frame)
  | broadcast (outputs : List (Message k)) (isEdge : id.deviceType = .edge)
      (descends : fromUpper = true) (few : outputs.length ≤ k / 2)
      (toHosts : ∀ output ∈ outputs, ∃ i, output.1.peer.port = some (id, false, i)) :
      Fate id fromUpper outputs
  | flood (switches : List (SwitchId k)) (nodup : switches.Nodup) (frame : Frame)
      (isEdge : id.deviceType = .edge) (fromLower : fromUpper = false) :
      Fate id fromUpper (floodOutputs switches frame)

theorem deviceType_ne_core_of_upper {device : Device k} {id : SwitchId k} {index : Nat}
    (port : device.port = some (id, true, index)) : id.deviceType ≠ .core := by
  have stored := Device.side_of_port port
  cases id with
  | edge pod position => simp [SwitchId.deviceType]
  | aggregation pod position => simp [SwitchId.deviceType]
  | core group position => simp [SwitchId.side, SwitchId.upper] at stored

section Fates

variable {getAddress : Device k → Mac48Address} {fabric : Fabric (SwitchId k) (Device k)}

/-- `GetOutputPort` always finds a port, since edge and aggregation switches
have upper ports. -/
theorem Wired.exists_outPort (wired : Wired getAddress fabric) (id : SwitchId k)
    (rand : Nat) (dst : Mac48Address) : ∃ outPort : Nat,
      (fabric.switches id).getOutputPort rand dst = .ok (outPort : Int) := by
  have uppers := wired.length_upperPorts id
  rw [getOutputPort]
  rw [wired.deviceType id]
  cases id with
  | core group position => exact ⟨_, rfl⟩
  | aggregation pod position =>
      have some : k / 2 ≠ 0 :=
        Nat.ne_of_gt (Nat.lt_of_le_of_lt (Nat.zero_le _) position.isLt)
      simp only [SwitchId.upper, List.length_map, List.length_finRange] at uppers
      simp only [SwitchId.deviceType, uppers, some, if_false]
      split <;> exact ⟨_, rfl⟩
  | edge pod position =>
      have some : k / 2 ≠ 0 :=
        Nat.ne_of_gt (Nat.lt_of_le_of_lt (Nat.zero_le _) position.isLt)
      simp only [SwitchId.upper, List.length_map, List.length_finRange] at uppers
      simp only [SwitchId.deviceType, uppers, some, if_false]
      split <;> exact ⟨_, rfl⟩

/-- The edge switch, from an upper port. -/
theorem fate_egress (wired : Wired getAddress fabric)
    {device : Device k} {frame : Frame} {draw : Draw} {id : SwitchId k} {index : Nat}
    (port : device.port = some (id, true, index)) (isEdge : id.deviceType = .edge)
    (passes : PassesAt getAddress fabric id device frame)
    {handling : Handling (Fabric (SwitchId k) (Device k)) (Message k) (Delivery k)}
    (handled : handle getAddress fabric (device, frame) draw = some handling) :
    Fate id true handling.outputs ∧ handling.deliveries = [] := by
  by_cases broadcast : frame.dst = .getBroadcast
  · rw [handle_broadcast wired port isEdge passes broadcast] at handled
    cases handled
    refine ⟨.broadcast _ isEdge rfl ?_ ?_, rfl⟩
    · have ports : id.lower.length = k / 2 := by
        cases id with
        | edge pod position => simp [SwitchId.lower]
        | aggregation pod position => cases isEdge
        | core group position => cases isEdge
      have few := length_broadcastToLower_le
        ((fabric.switches id).withReceived device frame.packet) (fun _ => true)
        frame.packet (frame.metadata draw.unset) (List.range id.lower.length)
      rw [List.length_range] at few
      exact Nat.le_trans (List.length_filterMap_le _ _) (Nat.le_trans few ports.le)
    · intro output member
      rcases mem_broadcastOutputs wired member with ⟨i, -, src, -, onLower⟩
      exact ⟨_, (mem_onPort.mp onLower).2⟩
  · by_cases known : (fabric.switches id).table.findAMACOfPmac frame.dst = .getBroadcast
    · rw [handle_egress_unknown wired port isEdge passes broadcast known] at handled
      cases handled
      exact ⟨.stopped, rfl⟩
    · rcases wired.exists_outPort id draw.rand frame.dst with ⟨outPort, output⟩
      rw [handle_egress wired port isEdge passes broadcast known output] at handled
      cases handled
      exact ⟨.down _ _ (.inl rfl), rfl⟩

/-- Every handling of a frame at a switch is one of the five. -/
theorem fate_of_handle (wired : Wired getAddress fabric)
    {device : Device k} {frame : Frame} {draw : Draw} {id : SwitchId k} {fromUpper : Bool}
    {index : Nat} (port : device.port = some (id, fromUpper, index))
    {handling : Handling (Fabric (SwitchId k) (Device k)) (Message k) (Delivery k)}
    (handled : handle getAddress fabric (device, frame) draw = some handling) :
    Fate id fromUpper handling.outputs ∧ handling.deliveries = [] := by
  by_cases passes : PassesAt getAddress fabric id device frame
  · rcases wired.exists_outPort id draw.rand frame.dst with ⟨outPort, output⟩
    cases layer : id.deviceType with
    | edge =>
        cases fromUpper with
        | true => exact fate_egress wired port layer passes handled
        | false =>
            rcases handle_ingress_cases wired port layer passes handled with
              ⟨-, deliveries,
                stopped | ⟨-, -, flood⟩ | ⟨dstPmac, outPort, -, -, -, -, up⟩⟩
            · exact ⟨stopped ▸ .stopped, deliveries⟩
            · exact ⟨flood ▸ .flood _ wired.nodup _ layer rfl, deliveries⟩
            · exact ⟨up ▸ .up _ _ rfl (by simp [layer]), deliveries⟩
    | aggregation =>
        rw [handle_forward wired port passes (.inl ⟨layer, rfl⟩) output] at handled
        cases handled
        cases fromUpper with
        | true => exact ⟨.down _ _ (.inl rfl), rfl⟩
        | false => exact ⟨.up _ _ rfl (by simp [layer]), rfl⟩
    | core =>
        cases fromUpper with
        | true => exact absurd layer (deviceType_ne_core_of_upper port)
        | false =>
            rw [handle_forward wired port passes (.inr ⟨layer, rfl, rfl⟩) output]
              at handled
            cases handled
            exact ⟨.down _ _ (.inr layer), rfl⟩
  · rw [handle_of_stopped wired port passes] at handled
    cases handled
    exact ⟨.stopped, rfl⟩

/-- No frame is ever without a handling. -/
theorem exists_handling (wired : Wired getAddress fabric) (message : Message k)
    (draw : Draw) :
    ∃ handling, handle getAddress fabric message draw = some handling := by
  rcases message with ⟨device, frame⟩
  cases port : device.port with
  | none =>
      rcases Device.exists_host_of_port port with ⟨host, rfl⟩
      have node : host.device.node = .host host := rfl
      exact ⟨_, handle_host node⟩
  | some place =>
      rcases place with ⟨id, fromUpper, index⟩
      by_cases passes : PassesAt getAddress fabric id device frame
      · rcases wired.exists_outPort id draw.rand frame.dst with ⟨outPort, output⟩
        cases layer : id.deviceType with
        | edge =>
            cases fromUpper with
            | true =>
                by_cases broadcast : frame.dst = .getBroadcast
                · exact ⟨_, handle_broadcast wired port layer passes broadcast⟩
                · by_cases known :
                      (fabric.switches id).table.findAMACOfPmac frame.dst = .getBroadcast
                  · exact ⟨_,
                      handle_egress_unknown wired port layer passes broadcast known⟩
                  · exact ⟨_,
                      handle_egress wired port layer passes broadcast known output⟩
            | false =>
                rw [handle_eq wired port passes, parsedAt_ingress wired layer]
                have connected : ((fabric.switches id).withReceived device
                    frame.packet).hasFabricManager = true := wired.connected id
                have ports : ∀ dst, ∃ outPort, ((fabric.switches id).withReceived device
                    frame.packet).getOutputPort draw.rand dst = .ok outPort := by
                  intro dst
                  rcases wired.exists_outPort id draw.rand dst with ⟨outPort, output⟩
                  exact ⟨outPort, by simpa using output⟩
                rcases exists_receiveAtEdgeFromLower connected fabric.manager
                  (surroundingsAt fabric id draw) ports (frame.metadata draw.unset)
                  frame.packet (UInt8.ofNat index) with ⟨outcome, received⟩
                rw [received]
                exact ⟨_, rfl⟩
        | aggregation =>
            exact ⟨_, handle_forward wired port passes (.inl ⟨layer, rfl⟩) output⟩
        | core =>
            cases fromUpper with
            | true => exact absurd layer (deviceType_ne_core_of_upper port)
            | false =>
                exact ⟨_,
                  handle_forward wired port passes (.inr ⟨layer, rfl, rfl⟩) output⟩
      · exact ⟨_, handle_of_stopped wired port passes⟩

end Fates

end DataCenter.Portland
