import DataCenter.Portland.Reception

/-! # Broadcasts and floods

The two places where a switch sends more than one frame: the broadcast loop of
an edge switch and the flood of a core switch. -/

namespace DataCenter.Portland.PortlandSwitchNetDevice

variable {δ : Type}

theorem mem_transmit {config : SwitchConfig δ} {isUpper : Bool} {outPort : UInt8}
    {frame : Frame} {sent : Bool} {action : Action δ} :
    action ∈ config.transmit isUpper outPort frame sent ↔
      ∃ netdev, config.port isUpper outPort = some netdev ∧
        action = .sendFrom isUpper outPort netdev frame sent := by
  rw [SwitchConfig.transmit]
  cases config.port isUpper outPort <;> simp

theorem length_transmit_le (config : SwitchConfig δ) (isUpper : Bool) (outPort : UInt8)
    (frame : Frame) (sent : Bool) :
    (config.transmit isUpper outPort frame sent).length ≤ 1 := by
  rw [SwitchConfig.transmit]
  split <;> simp

/-! ## The broadcast loop -/

/-- The broadcast frame on a port.  The first port gets the source address of
the frame, the others get the cleared one. -/
def broadcastFrame (metadata : SwitchPacketMetadata) (packet : Packet)
    (src : Mac48Address) :
    Frame where
  packet := packet
  src := src
  dst := metadata.dstPmac
  protocol := metadata.protocolNumber

theorem mem_broadcastToLower {switch : PortlandSwitchNetDevice δ} {isSent : Nat → Bool}
    {packet : Packet} {metadata : SwitchPacketMetadata} {indices : List Nat}
    {action : Action δ}
    (member : action ∈ switch.broadcastToLower isSent packet metadata indices) :
    ∃ i ∈ indices, ∃ netdev src,
      switch.config.port false (UInt8.ofNat i) = some netdev ∧
        (src = metadata.srcAmac ∨ src = {}) ∧
        action =
          .sendFrom false (UInt8.ofNat i) netdev (broadcastFrame metadata packet src)
          (isSent i) := by
  induction indices generalizing metadata with
  | nil => simp [broadcastToLower] at member
  | cons i rest induction =>
      simp only [broadcastToLower, List.mem_append, outputPacket_actions, mem_transmit]
        at member
      rcases member with ⟨netdev, port, rfl⟩ | later
      · exact ⟨i, by simp, netdev, metadata.srcAmac, port, .inl rfl, rfl⟩
      · rcases induction later with ⟨j, member, netdev, src, port, srcIs, actionIs⟩
        refine ⟨j, List.mem_cons_of_mem i member, netdev, src, port, .inr ?_, actionIs⟩
        rcases srcIs with rfl | rfl <;> rfl

/-- Every port of the loop gets the frame. -/
theorem exists_mem_broadcastToLower {switch : PortlandSwitchNetDevice δ}
    (isSent : Nat → Bool)
    (packet : Packet) (metadata : SwitchPacketMetadata) {indices : List Nat} {i : Nat}
    (member : i ∈ indices) {netdev : δ}
    (port : switch.config.port false (UInt8.ofNat i) = some netdev) :
    ∃ src, Action.sendFrom false (UInt8.ofNat i) netdev
      (broadcastFrame metadata packet src)
      (isSent i) ∈ switch.broadcastToLower isSent packet metadata indices := by
  induction indices generalizing metadata with
  | nil => simp at member
  | cons j rest induction =>
      simp only [broadcastToLower, List.mem_append, outputPacket_actions, mem_transmit]
      rcases List.mem_cons.mp member with rfl | later
      · exact ⟨metadata.srcAmac, .inl ⟨netdev, port, rfl⟩⟩
      · rcases induction _ later with ⟨src, sends⟩
        exact ⟨src, .inr sends⟩

theorem length_broadcastToLower_le (switch : PortlandSwitchNetDevice δ)
    (isSent : Nat → Bool)
    (packet : Packet) (metadata : SwitchPacketMetadata) (indices : List Nat) :
    (switch.broadcastToLower isSent packet metadata indices).length ≤ indices.length := by
  induction indices generalizing metadata with
  | nil => rfl
  | cons i rest induction =>
      rw [broadcastToLower, List.length_append, List.length_cons, outputPacket_actions,
        Nat.add_comm rest.length 1]
      exact Nat.add_le_add (length_transmit_le _ _ _ _ _) (induction _)

/-! ## The flood -/

/-- The request that a core switch floods. -/
def floodFrame (message : ARPFloodRequest) : Frame where
  packet := .ofArpHeader <|
    .setRequest message.srcPMACAddress.convertTo message.srcIPAddress
    Mac48Address.getBroadcast.convertTo message.destIPAddress
  src := message.srcPMACAddress
  dst := .getBroadcast
  protocol := arpProtocol

/-- A core switch sends the request on each of its ports, as an octet. -/
theorem receiveBufferFromFabricManager_core {switch : PortlandSwitchNetDevice δ}
    (isCore : switch.deviceType = .core) (isSent : Nat → Bool)
    (message : ARPFloodRequest) :
    switch.receiveBufferFromFabricManager isSent (.arpFlood message) =
      (List.range switch.lowerPorts.length).flatMap fun i =>
        switch.config.transmit false (UInt8.ofNat i) (floodFrame message) (isSent i) := by
  unfold receiveBufferFromFabricManager arpFloodFromFabricManager
  simp only [isCore, if_true, outputPacket_actions, metadataFromPacket_dstPmac,
    metadataFromPacket_protocolNumber, floodFrame]

end DataCenter.Portland.PortlandSwitchNetDevice
