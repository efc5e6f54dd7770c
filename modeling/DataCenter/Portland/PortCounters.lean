import DataCenter.Foundation.Run
import DataCenter.Portland.Reception

/-! # Port counters

A run of one switch, with the frames that it received and the actions it took
kept beside it, and what the counters of its ports say of them. -/

namespace DataCenter.Portland

open PortlandSwitchNetDevice

/-- A frame at a port device, or a buffer from the fabric manager.  Other
switches may have changed the manager since the last event. -/
inductive SwitchEvent (ι δ : Type) where
  | frame (manager : FabricManager ι) (surroundings : Surroundings ι) (netdev : δ)
      (frame : Frame) (packetType : PacketType)
  | buffer (buffer : BufferData) (isSent : Nat → Bool)

/-- A switch with the history of its run. -/
structure Ledger (δ : Type) where
  switch : PortlandSwitchNetDevice δ
  received : List (δ × Frame) := []
  actions : List (Action δ) := []

def totalSize (frames : List Frame) : Nat :=
  (frames.map fun frame => frame.packet.getSize).sum

theorem totalSize_concat (frames : List Frame) (frame : Frame) :
    totalSize (frames ++ [frame]) = totalSize frames + frame.packet.getSize := by
  simp [totalSize]

/-- The frame of an action, if a port sent it with the given result. -/
def Action.frameFrom {δ : Type} (isUpper : Bool) (index : Nat) (result : Bool) :
    Action δ → Option Frame
  | .sendFrom side outPort _ frame sent =>
      if side = isUpper ∧ outPort.toNat = index ∧ sent = result then some frame else none
  | .rxCallback _ _ _ => none

namespace PortlandSwitchNetDevice

variable {δ : Type}

def ports (switch : PortlandSwitchNetDevice δ) (isUpper : Bool) : List (Port δ) :=
  if isUpper then switch.upperPorts else switch.lowerPorts

/-- All ports are as `AddSwitchPort` adds them. -/
def Unused (switch : PortlandSwitchNetDevice δ) : Prop :=
  ∀ isUpper, ∀ port ∈ switch.ports isUpper, port = { netdev := port.netdev }

variable [DecidableEq δ]

/-- Only the loops at the top of `ReceiveFromDevice` touch the ports. -/
theorem ports_of_received {ι : Type} [DecidableEq ι] {switch : PortlandSwitchNetDevice δ}
    {manager : FabricManager ι} {surroundings : Surroundings ι} {netdev : δ}
    {frame : Frame} {packetType : PacketType} {outcome : Outcome δ ι}
    (received : switch.receiveFromDevice manager surroundings netdev frame packetType =
      .ok outcome) (isUpper : Bool) :
    outcome.switch.ports isUpper =
      (switch.ports isUpper).map (countReceived netdev frame.packet) := by
  rw [(receiveFromDevice_effect received).1]
  cases switch.registration surroundings.unset netdev frame packetType <;>
    cases isUpper <;> rfl

end PortlandSwitchNetDevice

namespace Ledger

variable {ι δ : Type}

def sentFrom (ledger : Ledger δ) (isUpper : Bool) (index : Nat) (result : Bool) :
    List Frame :=
  ledger.actions.filterMap (Action.frameFrom isUpper index result)

/-- No frame was handed to `SendFrom` of the port. -/
def Silent (ledger : Ledger δ) (isUpper : Bool) (index : Nat) : Prop :=
  ∀ action ∈ ledger.actions, ∀ outPort netdev frame sent,
    action = .sendFrom isUpper outPort netdev frame sent → outPort.toNat ≠ index

/-- Nothing was sent if nothing was sent with success and nothing without. -/
theorem silent_iff (ledger : Ledger δ) (isUpper : Bool) (index : Nat) :
    ledger.Silent isUpper index ↔
      ledger.sentFrom isUpper index true = [] ∧
        ledger.sentFrom isUpper index false = [] := by
  unfold sentFrom
  rw [List.filterMap_eq_nil_iff, List.filterMap_eq_nil_iff]
  constructor
  · intro silent
    constructor
    all_goals
      intro action member
      cases action with
      | rxCallback packet protocol src => rfl
      | sendFrom side outPort netdev frame sent =>
          apply if_neg
          intro counted
          rcases counted with ⟨rfl, here, -⟩
          exact silent _ member outPort netdev frame sent rfl here
  · intro none action member outPort netdev frame sent same here
    subst same
    cases sent with
    | true => simpa [Action.frameFrom, here] using none.1 _ member
    | false => simpa [Action.frameFrom, here] using none.2 _ member

variable [DecidableEq δ]

def receivedOn (ledger : Ledger δ) (netdev : δ) : List Frame :=
  (ledger.received.filter fun entry => entry.1 = netdev).map Prod.snd

theorem receivedOn_concat (ledger : Ledger δ) (switch : PortlandSwitchNetDevice δ)
    (actions : List (Action δ)) (netdev own : δ) (frame : Frame) :
    ({ switch, received := ledger.received ++ [(netdev, frame)],
       actions } : Ledger δ).receivedOn own =
      ledger.receivedOn own ++ if netdev = own then [frame] else [] := by
  by_cases same : netdev = own <;> simp [receivedOn, same]

/-- The counters of a port are the numbers and sizes in the history. -/
structure Accounted (ledger : Ledger δ) (isUpper : Bool) (index : Nat) (port : Port δ) :
    Prop where
  rxPackets : port.rxPackets.toNat = (ledger.receivedOn port.netdev).length
  rxBytes : port.rxBytes.toNat = totalSize (ledger.receivedOn port.netdev)
  txPackets : port.txPackets.toNat = (ledger.sentFrom isUpper index true).length
  txBytes : port.txBytes.toNat = totalSize (ledger.sentFrom isUpper index true)
  txDropped : port.txDropped.toNat = (ledger.sentFrom isUpper index false).length

variable [DecidableEq ι]

/-- The switch takes a frame or a buffer. -/
def step : PartialStep (Ledger δ) (SwitchEvent ι δ)
  | ledger, .frame manager surroundings netdev frame packetType =>
      match ledger.switch.receiveFromDevice manager surroundings netdev frame
        packetType with
      | .ok outcome => some
          { switch := outcome.switch
            received := ledger.received ++ [(netdev, frame)]
            actions := ledger.actions ++ outcome.actions }
      | .error _ => none
  | ledger, .buffer buffer isSent => some
      { ledger with
        actions :=
          ledger.actions ++ ledger.switch.receiveBufferFromFabricManager isSent buffer }

/-! ## What the counters are -/

/-- What the counters of a port always are: the receive counters modulo their
width, and the transmit counters zero. -/
def Counted (ledger : Ledger δ) (port : Port δ) : Prop :=
  port =
    { netdev := port.netdev
      rxPackets := UInt64.ofNat (ledger.receivedOn port.netdev).length
      rxBytes := UInt64.ofNat (totalSize (ledger.receivedOn port.netdev)) }

theorem Counted.receive {ledger : Ledger δ} {port : Port δ}
    (counted : ledger.Counted port)
    (switch : PortlandSwitchNetDevice δ) (actions : List (Action δ)) (netdev : δ)
    (frame : Frame) :
    ({ switch, received := ledger.received ++ [(netdev, frame)],
       actions } : Ledger δ).Counted (countReceived netdev frame.packet port) := by
  have before : port = _ := counted
  rw [Counted, countReceived]
  by_cases same : port.netdev = netdev
  · rw [if_pos same]
    rw [before]
    simp [receivedOn_concat, same, totalSize_concat]
  · rw [if_neg same]
    rw [receivedOn_concat, if_neg (Ne.symm same), List.append_nil]
    exact before

theorem counted_step {ledger next : Ledger δ} {event : SwitchEvent ι δ}
    (counted : ∀ isUpper, ∀ port ∈ ledger.switch.ports isUpper, ledger.Counted port)
    (stepped : step ledger event = some next) :
    ∀ isUpper, ∀ port ∈ next.switch.ports isUpper, next.Counted port := by
  cases event with
  | frame manager surroundings netdev frame packetType =>
      cases received : ledger.switch.receiveFromDevice manager surroundings netdev frame
          packetType with
      | error fault => simp [step, received] at stepped
      | ok outcome =>
          simp only [step, received] at stepped
          cases stepped
          intro isUpper port member
          rw [ports_of_received received] at member
          rcases List.mem_map.mp member with ⟨before, present, rfl⟩
          exact (counted isUpper before present).receive _ _ netdev frame
  | buffer buffer isSent =>
      cases stepped
      exact counted

theorem counted_of_run {switch : PortlandSwitchNetDevice δ} (unused : switch.Unused)
    {events : List (SwitchEvent ι δ)} {final : Ledger δ}
    (ran : step.run { switch } events = some final) :
    ∀ isUpper, ∀ port ∈ final.switch.ports isUpper, final.Counted port := by
  apply PartialStep.run_preserves
    (fun ledger : Ledger δ => ∀ isUpper, ∀ port ∈ ledger.switch.ports isUpper,
      ledger.Counted port)
    (fun _ _ _ _ counted stepped => counted_step counted stepped)
    (fun _ _ => trivial) ?_ ran
  intro isUpper port member
  exact unused isUpper port member

/-! ## When they are right -/

theorem toNat_ofNat_eq_iff (value : Nat) :
    (UInt64.ofNat value).toNat = value ↔ value < 2 ^ 64 := by
  rw [UInt64.toNat_ofNat']
  constructor
  · intro same
    rw [← same]
    exact Nat.mod_lt _ (by norm_num)
  · exact Nat.mod_eq_of_lt

/-- After any run of a switch, the counters of a port say what happened on it exactly if
nothing was sent on it and what it received fits them. -/
theorem accounted_iff_silent {switch : PortlandSwitchNetDevice δ} (unused : switch.Unused)
    {events : List (SwitchEvent ι δ)} {final : Ledger δ}
    (ran : step.run { switch } events = some final) {isUpper : Bool} {index : Nat}
    {port : Port δ} (present : (final.switch.ports isUpper)[index]? = some port) :
    final.Accounted isUpper index port ↔
      final.Silent isUpper index ∧ (final.receivedOn port.netdev).length < 2 ^ 64 ∧
        totalSize (final.receivedOn port.netdev) < 2 ^ 64 := by
  have counted : port = _ :=
    counted_of_run unused ran isUpper port (List.mem_of_getElem? present)
  rw [silent_iff, ← toNat_ofNat_eq_iff, ← toNat_ofNat_eq_iff]
  constructor
  · intro accounted
    rcases accounted with ⟨rxPackets, rxBytes, txPackets, -, txDropped⟩
    rw [counted] at rxPackets rxBytes txPackets txDropped
    refine ⟨⟨?_, ?_⟩, rxPackets, rxBytes⟩
    · exact List.length_eq_zero_iff.mp txPackets.symm
    · exact List.length_eq_zero_iff.mp txDropped.symm
  · intro quiet
    rcases quiet with ⟨⟨noneSent, noneDropped⟩, packets, bytes⟩
    refine ⟨?_, ?_, ?_, ?_, ?_⟩
    · rw [counted]
      exact packets
    · rw [counted]
      exact bytes
    · rw [noneSent, counted]
      rfl
    · rw [noneSent, counted]
      rfl
    · rw [noneDropped, counted]
      rfl

/-- A core switch with one port. -/
def lonelyCore : PortlandSwitchNetDevice Unit where
  deviceType := .core
  lowerPorts := [{ netdev := () }]

theorem unused_lonelyCore : lonelyCore.Unused := by
  intro isUpper port member
  cases isUpper with
  | true => cases member
  | false =>
      rcases List.mem_singleton.mp member with rfl
      rfl

/-- The core switch floods a request, and the port says that it has sent nothing. -/
theorem flood_is_not_counted :
    let request : ARPFloodRequest :=
      { destIPAddress := ⟨2⟩, srcIPAddress := ⟨1⟩, srcPMACAddress := pseudo 0 0 0 }
    let flood : SwitchEvent Unit Unit := .buffer (.arpFlood request) fun _ => true
    ∃ final port, step.run { switch := lonelyCore } [flood] = some final ∧
      (final.switch.ports false)[0]? = some port ∧
      (final.sentFrom false 0 true).length = 1 ∧ ¬ final.Accounted false 0 port := by
  intro request flood
  refine ⟨_, { netdev := () }, rfl, rfl, rfl, ?_⟩
  intro accounted
  have sent := accounted.txPackets
  cases sent

/-- The core switch gets a frame for a pod that it has no port to. -/
theorem accounted_iff_silent_received :
    let frame : Frame :=
      { packet := ipv4Packet ⟨0x0a000001⟩ ⟨0x0a000002⟩
        src := pseudo 0 0 0
        dst := pseudo 7 0 0
        protocol := ipv4Protocol }
    let surroundings : Surroundings Unit :=
      { self := (), deviceType := fun _ => .core, rand := 0, isSent := fun _ => true,
        unset := false }
    let arrival : SwitchEvent Unit Unit := .frame {} surroundings () frame .otherhost
    ∃ final port, step.run { switch := lonelyCore } [arrival] = some final ∧
      (final.switch.ports false)[0]? = some port ∧ port.rxPackets = 1 ∧
      final.Accounted false 0 port := by
  intro frame surroundings arrival
  have seen : (step.run { switch := lonelyCore } [arrival]).map
      (fun final => (final.switch.lowerPorts, final.received, final.actions)) = some
        ([{ netdev := (), rxPackets := 1, rxBytes := 20 }], [((), frame)],
          [.rxCallback frame.packet frame.protocol frame.src]) := by decide
  rcases Option.map_eq_some_iff.mp seen with ⟨final, ran, parts⟩
  simp only [Prod.mk.injEq] at parts
  rcases parts with ⟨lowerPorts, received, actions⟩
  have present : (final.switch.ports false)[0]? =
      some { netdev := (), rxPackets := 1, rxBytes := 20 } := by
    simp [ports, lowerPorts]
  refine ⟨final, _, ran, present, rfl,
    (accounted_iff_silent unused_lonelyCore ran present).mpr ?_⟩
  refine ⟨?_, by simp [receivedOn, received], ?_⟩
  · intro action member outPort netdev frame sent same
    rw [actions] at member
    rcases List.mem_singleton.mp member with rfl
    cases same
  · have size : totalSize [frame] < 2 ^ 64 := by decide
    simpa [receivedOn, received] using size

end Ledger

end DataCenter.Portland
