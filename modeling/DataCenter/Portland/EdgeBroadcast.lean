import DataCenter.Portland.Replication

/-! # The copies of a broadcast

An edge switch that gets a broadcast frame from above repeats it on its lower
ports.  The loop clears the source address that it carries from one port to the
next and numbers the ports by octets, so the copies are faithful and complete
only for few ports. -/

namespace DataCenter.Portland

open PortlandSwitchNetDevice

variable {δ ι : Type}

/-- The action puts a frame on one port. -/
def Action.LeavesOn (action : Action δ) (isUpper : Bool) (index : Nat) : Prop :=
  match action with
  | .sendFrom upper outPort _ _ _ => upper = isUpper ∧ outPort.toNat = index
  | .rxCallback _ _ _ => False

instance (action : Action δ) (isUpper : Bool) (index : Nat) :
    Decidable (action.LeavesOn isUpper index) := by
  cases action <;> unfold Action.LeavesOn <;> infer_instance

@[simp] theorem Action.leavesOn_sendFrom {upper : Bool} {outPort : UInt8} {netdev : δ}
    {frame : Frame} {sent isUpper : Bool} {index : Nat} :
    (Action.sendFrom upper outPort netdev frame sent).LeavesOn isUpper index ↔
      upper = isUpper ∧ outPort.toNat = index := Iff.rfl

/-- Every lower port gets exactly one copy of the frame, and nothing else is sent. -/
structure Replicated (switch : PortlandSwitchNetDevice δ) (frame : Frame)
    (actions : List (Action δ)) : Prop where
  copy : ∀ action ∈ actions, ∃ outPort netdev sent,
    switch.config.port false outPort = some netdev ∧
      action = .sendFrom false outPort netdev frame sent
  once : ∀ i < switch.lowerPorts.length,
    actions.countP (fun action => action.LeavesOn false i) = 1

/-! ## The copies -/

/-- The copy for a port: the first one has the source address of the frame, the
others have the cleared one. -/
def copyFrame (metadata : SwitchPacketMetadata) (packet : Packet) (i : Nat) : Frame :=
  broadcastFrame metadata packet (if i = 0 then metadata.srcAmac else {})

theorem broadcastToLower_of_cleared (switch : PortlandSwitchNetDevice δ)
    (isSent : Nat → Bool)
    (packet : Packet) {metadata : SwitchPacketMetadata} (cleared : metadata.srcAmac = {})
    (indices : List Nat) :
    switch.broadcastToLower isSent packet metadata indices =
      indices.flatMap fun i => switch.config.transmit false (UInt8.ofNat i)
        (broadcastFrame metadata packet {}) (isSent i) := by
  induction indices generalizing metadata with
  | nil => rfl
  | cons i rest induction =>
      rw [broadcastToLower, List.flatMap_cons, outputPacket_actions, induction rfl]
      simp only [cleared]
      rfl

theorem broadcastToLower_range (switch : PortlandSwitchNetDevice δ) (isSent : Nat → Bool)
    (packet : Packet) (metadata : SwitchPacketMetadata) (count : Nat) :
    switch.broadcastToLower isSent packet metadata (List.range count) =
      (List.range count).flatMap fun i => switch.config.transmit false (UInt8.ofNat i)
        (copyFrame metadata packet i) (isSent i) := by
  cases count with
  | zero => rfl
  | succ count =>
      rw [List.range_succ_eq_map, broadcastToLower, List.flatMap_cons,
        outputPacket_actions, broadcastToLower_of_cleared _ _ _ rfl, List.flatMap_map,
        List.flatMap_map]
      rfl

section Copies

variable {switch : PortlandSwitchNetDevice δ} {isSent : Nat → Bool} {count : Nat}

theorem mem_flatMap_transmit {frames : Nat → Frame} {action : Action δ} :
    action ∈
        (List.range count).flatMap (fun i => switch.config.transmit false (UInt8.ofNat i)
        (frames i) (isSent i)) ↔
      ∃ i < count, ∃ netdev, switch.config.port false (UInt8.ofNat i) = some netdev ∧
        action = .sendFrom false (UInt8.ofNat i) netdev (frames i) (isSent i) := by
  simp [List.mem_flatMap, mem_transmit]

theorem exists_port {i : Nat} (inRange : i < switch.lowerPorts.length)
    (few : switch.lowerPorts.length ≤ 256) :
    ∃ netdev, switch.config.port false (UInt8.ofNat i) = some netdev := by
  have octet : (UInt8.ofNat i).toNat = i := by
    simp
    omega
  have bound : i < switch.config.lower.length := by
    simpa [config] using inRange
  exact ⟨switch.config.lower[i], by simp [SwitchConfig.port, octet, bound]⟩

/-- Only the copy of a port leaves on that port, as long as octets number the
ports. -/
theorem countP_transmit (few : switch.lowerPorts.length ≤ 256) (i : Nat) {j : Nat}
    (inRange : j < switch.lowerPorts.length) (frame : Frame) (sent : Bool) :
    (switch.config.transmit false (UInt8.ofNat j) frame sent).countP
      (fun action => action.LeavesOn false i) = if j = i then 1 else 0 := by
  have octet : (UInt8.ofNat j).toNat = j := by
    simp
    omega
  rcases exists_port inRange few with ⟨netdev, port⟩
  have transmits : switch.config.transmit false (UInt8.ofNat j) frame sent =
      [.sendFrom false (UInt8.ofNat j) netdev frame sent] := by
    rw [SwitchConfig.transmit, port]
  rw [transmits, List.countP_singleton]
  simp only [Action.leavesOn_sendFrom, octet, true_and, decide_eq_true_eq]

/-- A port gets a copy for each time that it is counted. -/
theorem countP_copies (few : switch.lowerPorts.length ≤ 256) (i : Nat) (frame : Frame)
    {indices : List Nat} (inRange : ∀ j ∈ indices, j < switch.lowerPorts.length) :
    (indices.flatMap fun j => switch.config.transmit false (UInt8.ofNat j) frame
      (isSent j)).countP (fun action => action.LeavesOn false i) = indices.count i := by
  induction indices with
  | nil => rfl
  | cons j rest induction =>
      have here := countP_transmit few i (inRange j List.mem_cons_self) frame (isSent j)
      have others :=
        induction fun other member => inRange other (List.mem_cons_of_mem j member)
      rw [List.flatMap_cons, List.countP_append, here, others, List.count_cons,
        Nat.add_comm]
      simp

/-- Faithful copies on ports that octets number are a replication. -/
theorem replicated_of_few (few : switch.lowerPorts.length ≤ 256) (frame : Frame) :
    Replicated switch frame ((List.range switch.lowerPorts.length).flatMap fun i =>
      switch.config.transmit false (UInt8.ofNat i) frame (isSent i)) where
  copy action member := by
    rcases mem_flatMap_transmit.mp member with ⟨i, -, netdev, port, rfl⟩
    exact ⟨_, netdev, _, port, rfl⟩
  once i inRange := by
    rw [countP_copies few i frame fun j member => List.mem_range.mp member]
    simp [List.count_range, inRange]

/-- No port from the 256th on gets a copy. -/
theorem few_of_replicated {frame : Frame} {frames : Nat → Frame}
    (replicated : Replicated switch frame ((List.range count).flatMap fun i =>
      switch.config.transmit false (UInt8.ofNat i) (frames i) (isSent i))) :
    switch.lowerPorts.length ≤ 256 := by
  apply Nat.not_lt.mp
  intro many
  have once := replicated.once 256 many
  rw [List.countP_eq_zero.mpr] at once
  · cases once
  · intro action member
    rcases mem_flatMap_transmit.mp member with ⟨i, -, netdev, -, rfl⟩
    have octet := (UInt8.ofNat i).toNat_lt
    simp only [Action.leavesOn_sendFrom, true_and, decide_eq_true_eq]
    omega

/-- The copies of a replication are copies of its frame. -/
theorem frame_of_replicated {frame : Frame} {frames : Nat → Frame}
    (replicated : Replicated switch frame ((List.range count).flatMap fun i =>
      switch.config.transmit false (UInt8.ofNat i) (frames i) (isSent i))) {i : Nat}
    (inRange : i < count) {netdev : δ}
    (port : switch.config.port false (UInt8.ofNat i) = some netdev) :
    frames i = frame := by
  have sends : Action.sendFrom false (UInt8.ofNat i) netdev (frames i) (isSent i) ∈
      (List.range count).flatMap fun i =>
        switch.config.transmit false (UInt8.ofNat i) (frames i) (isSent i) :=
    mem_flatMap_transmit.mpr ⟨i, inRange, netdev, port, rfl⟩
  rcases replicated.copy _ sends with ⟨outPort, other, sent, -, same⟩
  cases same
  rfl

end Copies

/-! ## The reception -/

section Reception

variable [DecidableEq δ] [DecidableEq ι]

/-- The copies that an edge switch sends of a broadcast frame. -/
theorem receiveFromDevice_broadcast {switch : PortlandSwitchNetDevice δ}
    (isEdge : switch.deviceType = .edge) {netdev : δ} {inPort : UInt8}
    (fromUpper : switch.findInPort netdev = some (true, inPort)) {frame : Frame}
    (broadcast : frame.dst = .getBroadcast) (manager : FabricManager ι)
    (surroundings : Surroundings ι) :
    switch.receiveFromDevice manager surroundings netdev frame .broadcast = .ok
      { switch := switch.withReceived netdev frame.packet
        fabricManager := manager
        actions := (List.range switch.lowerPorts.length).flatMap fun i =>
          switch.config.transmit false (UInt8.ofNat i)
            (copyFrame (metadataFromPacket surroundings.unset frame.packet frame.src
              frame.dst frame.protocol) frame.packet i) (surroundings.isSent i) } := by
  have passes : switch.Passes frame .broadcast := by simp [Passes]
  have sameType : (switch.withReceived netdev frame.packet).deviceType = .edge := isEdge
  have sameLength : (switch.withReceived netdev frame.packet).lowerPorts.length =
      switch.lowerPorts.length := by
    simp [withReceived]
  have toAll :=
    (metadataFromPacket_dstPmac surroundings.unset frame.packet frame.src frame.dst
    frame.protocol).trans broadcast
  rw [receiveFromDevice_eq fromUpper, if_pos passes]
  simp only [receiveParsed, sameType, receiveAtEdgeFromUpper_broadcast toAll,
    broadcastToLower_range, config_withReceived, sameLength]
  rfl

/-- A broadcast frame from an upper port is repeated faithfully exactly if octets
number the lower ports and there is one port at most or no source address to
lose. -/
theorem broadcast_replicated_iff {switch : PortlandSwitchNetDevice δ}
    (isEdge : switch.deviceType = .edge) {netdev : δ} {inPort : UInt8}
    (fromUpper : switch.findInPort netdev = some (true, inPort)) {frame : Frame}
    (broadcast : frame.dst = .getBroadcast) (manager : FabricManager ι)
    (surroundings : Surroundings ι) :
    ∃ outcome, switch.receiveFromDevice manager surroundings netdev frame .broadcast =
        .ok outcome ∧
      (Replicated switch frame outcome.actions ↔ switch.lowerPorts.length ≤ 256 ∧
        (switch.lowerPorts.length ≤ 1 ∨ frame.src = {})) := by
  refine ⟨_,
    receiveFromDevice_broadcast isEdge fromUpper broadcast manager surroundings, ?_⟩
  constructor
  · intro replicated
    have few := few_of_replicated replicated
    refine ⟨few, ?_⟩
    by_cases single : switch.lowerPorts.length ≤ 1
    · exact .inl single
    · -- the copy for port 1 has the cleared source address
      have second : 1 < switch.lowerPorts.length := Nat.lt_of_not_le single
      rcases exists_port second few with ⟨other, port⟩
      have copied := frame_of_replicated replicated second port
      exact .inr (congrArg Frame.src copied).symm
  · intro both
    rcases both with ⟨few, unchanged⟩
    have faithful : ∀ i ∈ List.range switch.lowerPorts.length,
        copyFrame (metadataFromPacket surroundings.unset frame.packet frame.src frame.dst
          frame.protocol) frame.packet i = frame := by
      intro i member
      have inRange := List.mem_range.mp member
      have src : (if i = 0 then frame.src else {}) = frame.src := by
        rcases unchanged with single | cleared
        · rw [if_pos (by omega)]
        · rw [cleared, ite_self]
      simp [copyFrame, broadcastFrame, src]
    rw [List.flatMap_congr fun i member => by rw [faithful i member]]
    exact replicated_of_few few frame

end Reception

/-! ## Two edge switches -/

/-- An edge switch with an upper port and some lower ports, the devices of which
are numbered. -/
def edgeWith (lowerCount : Nat) : PortlandSwitchNetDevice Nat where
  lowerPorts := (List.range lowerCount).map fun i => { netdev := i }
  upperPorts := [{ netdev := lowerCount }]
  hasFabricManager := true

/-- The request for 10.0.0.2 that a core switch floods for 10.1.0.2. -/
def floodedRequest : Frame :=
  floodFrame
    { destIPAddress := ⟨0x0a000002⟩, srcIPAddress := ⟨0x0a010002⟩,
      srcPMACAddress := pseudo 1 0 0 }

/-- With two lower ports, the copy on the second one comes from nobody. -/
theorem second_copy_loses_source :
    let surroundings : Surroundings Unit :=
      { self := (), deviceType := fun _ => .edge, rand := 0, isSent := fun _ => true,
        unset := false }
    ∃ outcome,
        (edgeWith 2).receiveFromDevice {} surroundings 2 floodedRequest .broadcast =
        .ok outcome ∧
      Action.sendFrom false 1 1 { floodedRequest with src := {} } true ∈ outcome.actions ∧
      ¬ Replicated (edgeWith 2) floodedRequest outcome.actions := by
  intro surroundings
  have fromUpper : (edgeWith 2).findInPort 2 = some (true, 0) := by decide
  refine ⟨_, receiveFromDevice_broadcast rfl fromUpper rfl {} surroundings, ?_, ?_⟩
  · exact mem_flatMap_transmit.mpr ⟨1, by decide, 1, rfl, rfl⟩
  · intro replicated
    have port : (edgeWith 2).config.port false (UInt8.ofNat 1) = some 1 := rfl
    have copied := frame_of_replicated replicated (by decide) port
    exact absurd (congrArg Frame.src copied) (by decide)

theorem broadcast_replicated_iff_single :
    let surroundings : Surroundings Unit :=
      { self := (), deviceType := fun _ => .edge, rand := 0, isSent := fun _ => true,
        unset := false }
    ∃ outcome,
        (edgeWith 1).receiveFromDevice {} surroundings 1 floodedRequest .broadcast =
        .ok outcome ∧ Replicated (edgeWith 1) floodedRequest outcome.actions := by
  intro surroundings
  have fromUpper : (edgeWith 1).findInPort 1 = some (true, 0) := by decide
  have toAll : floodedRequest.dst = .getBroadcast := rfl
  rcases broadcast_replicated_iff rfl fromUpper toAll {} surroundings with
    ⟨outcome, received, replicated⟩
  exact ⟨outcome, received, replicated.mpr ⟨by decide, .inl (by decide)⟩⟩

end DataCenter.Portland
