import DataCenter.Portland.Setup

/-! # The wiring of Portland-Setup

What the loops leave in the arrays, which ports each switch gets, and that the
switches start with empty tables. -/

namespace DataCenter.Portland

variable {k : Nat}

/-! ## What the arrays hold -/

namespace Containers

theorem edgedev_connectHosts (devices : Containers k) (i : Fin k) (j h : Fin (k / 2)) :
    devices.connectHosts.edgedev (i, j, h) =
      devices.edgedev (i, j, h) ++ [(Link.hostEdge i j h).get 1] := by
  rw [connectHosts]
  apply cell_of_unique edgedev (fun it => (it.1, it.2.1, it.2.2))
    (fun it => (Link.hostEdge it.1 it.2.1 it.2.2).get 1) ?_ devices (i, j, h) ?_
  · intros
    rfl
  · intro index same
    rcases index with ⟨i', j', h'⟩
    simpa [Fin.val_inj] using same

theorem edgedev_connectHosts_upper (devices : Containers k) (i j h : Nat) :
    devices.connectHosts.edgedev (i, j, h + k / 2) =
      devices.edgedev (i, j, h + k / 2) := by
  rw [connectHosts]
  apply cell_of_none edgedev (fun it => (it.1, it.2.1, it.2.2))
    (fun it => (Link.hostEdge it.1 it.2.1 it.2.2).get 1) ?_ devices (i, j, h + k / 2) ?_
  · intros
    rfl
  · intro index same
    rcases index with ⟨i', j', h'⟩
    simp only [Prod.mk.injEq] at same
    omega

theorem edgedev_connectAggregation (devices : Containers k) (i : Fin k)
    (j h : Fin (k / 2)) :
    devices.connectAggregation.edgedev (i, h, j + k / 2) =
      devices.edgedev (i, h, j + k / 2) ++ [(Link.edgeAggregation i j h).get 0] := by
  rw [connectAggregation]
  apply cell_of_unique edgedev (fun it => (it.1, it.2.2, it.2.1 + k / 2))
    (fun it => (Link.edgeAggregation it.1 it.2.1 it.2.2).get 0) ?_ devices (i, j, h) ?_
  · intros
    rfl
  · intro index same
    rcases index with ⟨i', j', h'⟩
    simp only [Prod.mk.injEq, Fin.val_inj, Nat.add_right_cancel_iff] at same
    rw [same.1, same.2.1, same.2.2]

theorem edgedev_connectAggregation_lower (devices : Containers k) (i j : Nat)
    (h : Fin (k / 2)) :
    devices.connectAggregation.edgedev (i, j, h) = devices.edgedev (i, j, h) := by
  rw [connectAggregation]
  apply cell_of_none edgedev (fun it => (it.1, it.2.2, it.2.1 + k / 2))
    (fun it => (Link.edgeAggregation it.1 it.2.1 it.2.2).get 0) ?_ devices (i, j, h) ?_
  · intros
    rfl
  · intro index same
    rcases index with ⟨i', j', h'⟩
    simp only [Prod.mk.injEq] at same
    omega

theorem edgedev_connectCore (devices : Containers k) :
    devices.connectCore.edgedev = devices.edgedev := by
  rw [connectCore]
  apply field_of_untouched edgedev ?_ devices
  intros
  rfl

theorem aggdev_connectHosts (devices : Containers k) :
    devices.connectHosts.aggdev = devices.aggdev := by
  rw [connectHosts]
  apply field_of_untouched aggdev ?_ devices
  intros
  rfl

theorem aggdev_connectAggregation (devices : Containers k) (i : Fin k)
    (j h : Fin (k / 2)) :
    devices.connectAggregation.aggdev (i, j, h) =
      devices.aggdev (i, j, h) ++ [(Link.edgeAggregation i j h).get 1] := by
  rw [connectAggregation]
  apply cell_of_unique aggdev (fun it => (it.1, it.2.1, it.2.2))
    (fun it => (Link.edgeAggregation it.1 it.2.1 it.2.2).get 1) ?_ devices (i, j, h) ?_
  · intros
    rfl
  · intro index same
    rcases index with ⟨i', j', h'⟩
    simpa [Fin.val_inj] using same

theorem aggdev_connectAggregation_upper (devices : Containers k) (i j h : Nat) :
    devices.connectAggregation.aggdev (i, j, h + k / 2) =
      devices.aggdev (i, j, h + k / 2) := by
  rw [connectAggregation]
  apply cell_of_none aggdev (fun it => (it.1, it.2.1, it.2.2))
    (fun it => (Link.edgeAggregation it.1 it.2.1 it.2.2).get 1) ?_ devices
      (i, j, h + k / 2) ?_
  · intros
    rfl
  · intro index same
    rcases index with ⟨i', j', h'⟩
    simp only [Prod.mk.injEq] at same
    omega

theorem aggdev_connectCore (devices : Containers k) (i j : Fin (k / 2)) (h : Fin k) :
    devices.connectCore.aggdev (h, i, j + k / 2) =
      devices.aggdev (h, i, j + k / 2) ++ [(Link.aggregationCore i j h).get 0] := by
  rw [connectCore]
  apply cell_of_unique aggdev (fun it => (it.2.2, it.1, it.2.1 + k / 2))
    (fun it => (Link.aggregationCore it.1 it.2.1 it.2.2).get 0) ?_ devices (i, j, h) ?_
  · intros
    rfl
  · intro index same
    rcases index with ⟨i', j', h'⟩
    simp only [Prod.mk.injEq, Fin.val_inj, Nat.add_right_cancel_iff] at same
    rw [same.1, same.2.1, same.2.2]

theorem aggdev_connectCore_lower (devices : Containers k) (i j : Nat) (h : Fin (k / 2)) :
    devices.connectCore.aggdev (i, j, h) = devices.aggdev (i, j, h) := by
  rw [connectCore]
  apply cell_of_none aggdev (fun it => (it.2.2, it.1, it.2.1 + k / 2))
    (fun it => (Link.aggregationCore it.1 it.2.1 it.2.2).get 0) ?_ devices (i, j, h) ?_
  · intros
    rfl
  · intro index same
    rcases index with ⟨i', j', h'⟩
    simp only [Prod.mk.injEq] at same
    omega

theorem coredev_connectCore (devices : Containers k) (i j : Fin (k / 2)) (h : Fin k) :
    devices.connectCore.coredev (i, j, h) =
      devices.coredev (i, j, h) ++ [(Link.aggregationCore i j h).get 1] := by
  rw [connectCore]
  apply cell_of_unique coredev (fun it => (it.1, it.2.1, it.2.2))
    (fun it => (Link.aggregationCore it.1 it.2.1 it.2.2).get 1) ?_ devices (i, j, h) ?_
  · intros
    rfl
  · intro index same
    rcases index with ⟨i', j', h'⟩
    simpa [Fin.val_inj] using same

theorem coredev_before (devices : Containers k) :
    devices.connectHosts.connectAggregation.coredev = devices.coredev := by
  have hosts : devices.connectHosts.coredev = devices.coredev := by
    rw [connectHosts]
    apply field_of_untouched coredev ?_ devices
    intros
    rfl
  rw [← hosts]
  rw [connectAggregation]
  apply field_of_untouched coredev ?_ _
  intros
  rfl

theorem edgedev_lower (i : Fin k) (j h : Fin (k / 2)) :
    (connected k).edgedev (i, j, h) = [(Link.hostEdge i j h).get 1] := by
  rw [connected, edgedev_connectCore, edgedev_connectAggregation_lower,
    edgedev_connectHosts]
  rfl

theorem edgedev_upper (i : Fin k) (j h : Fin (k / 2)) :
    (connected k).edgedev (i, j, h + k / 2) = [(Link.edgeAggregation i h j).get 0] := by
  rw [connected, edgedev_connectCore, edgedev_connectAggregation,
    edgedev_connectHosts_upper]
  rfl

theorem aggdev_lower (i : Fin k) (j h : Fin (k / 2)) :
    (connected k).aggdev (i, j, h) = [(Link.edgeAggregation i j h).get 1] := by
  rw [connected, aggdev_connectCore_lower, aggdev_connectAggregation, aggdev_connectHosts]
  rfl

theorem aggdev_upper (i : Fin k) (j h : Fin (k / 2)) :
    (connected k).aggdev (i, j, h + k / 2) = [(Link.aggregationCore j h i).get 0] := by
  rw [connected, aggdev_connectCore, aggdev_connectAggregation_upper, aggdev_connectHosts]
  rfl

theorem coredev_lower (i j : Fin (k / 2)) (h : Fin k) :
    (connected k).coredev (i, j, h) = [(Link.aggregationCore i j h).get 1] := by
  rw [connected, coredev_connectCore, coredev_before]
  rfl

/-- A container regrouped from single devices lists them in port order. -/
theorem regroup_eq (cells : Cells (Nat × Nat × Nat) (Device k)) (i j : Nat)
    {lower upper : Fin (k / 2) → Device k}
    (lowerIs : ∀ h : Fin (k / 2), cells (i, j, h) = [lower h])
    (upperIs : ∀ h : Fin (k / 2), cells (i, j, h + k / 2) = [upper h]) :
    regroup cells i j =
      ((List.finRange (k / 2)).map lower, (List.finRange (k / 2)).map upper) := by
  have general (indices : List (Fin (k / 2)))
      (start : List (Device k) × List (Device k)) :
      indices.foldl (fun grouped (h : Fin (k / 2)) =>
        (grouped.1 ++ cells (i, j, h), grouped.2 ++ cells (i, j, h + k / 2))) start =
      (start.1 ++ indices.map lower, start.2 ++ indices.map upper) := by
    induction indices generalizing start with
    | nil => simp
    | cons h rest induction =>
        rw [List.foldl_cons, induction]
        simp [lowerIs, upperIs]
  simpa [regroup, forEach] using general (List.finRange (k / 2)) ([], [])

end Containers

/-! ## Installation -/

section Install

variable {ι δ : Type} [DecidableEq ι]

/-- A switch as the helper builds it. -/
structure BuiltAs (getAddress : δ → Mac48Address) (dev : PortlandSwitchNetDevice δ)
    (lowerDevices upperDevices : List δ) (deviceType : PortlandSwitchType)
    (pod position : UInt8) : Prop where
  deviceType : dev.deviceType = deviceType
  pod : dev.pod = pod
  position : dev.position = position
  lower : dev.config.lower = lowerDevices
  upper : dev.config.upper = upperDevices
  connected : dev.hasFabricManager = true
  table : dev.table.mapping = ∅
  address : (lowerDevices ++ upperDevices = [] ∧ dev.address = {}) ∨
    ∃ port ∈ lowerDevices ++ upperDevices, dev.address = getAddress port

variable {getAddress : δ → Mac48Address} {dev : PortlandSwitchNetDevice δ}
  {lowerDevices upperDevices : List δ} {deviceType : PortlandSwitchType}
  {pod position : UInt8}

theorem addSwitchPort_lower (dev : PortlandSwitchNetDevice δ) (port : δ) :
    dev.addSwitchPort getAddress port false =
      { dev with
        address := if dev.address = {} then getAddress port else dev.address
        lowerPorts := dev.lowerPorts ++ [{ netdev := port }] } := by
  unfold PortlandSwitchNetDevice.addSwitchPort
  split <;> simp

theorem addSwitchPort_upper (dev : PortlandSwitchNetDevice δ) (port : δ) :
    dev.addSwitchPort getAddress port true =
      { dev with
        address := if dev.address = {} then getAddress port else dev.address
        upperPorts := dev.upperPorts ++ [{ netdev := port }] } := by
  unfold PortlandSwitchNetDevice.addSwitchPort
  split <;> simp

/-- The address after one more port, which may be the first to give one. -/
theorem exists_address {address : Mac48Address} {ports more : List δ}
    (addressed : (ports = [] ∧ address = {}) ∨ ∃ port ∈ ports, address = getAddress port)
    (grown : ports ⊆ more) {port : δ} (member : port ∈ more) :
    ∃ owner ∈ more, (if address = {} then getAddress port else address) =
      getAddress owner := by
  split
  · exact ⟨port, member, rfl⟩
  · next named =>
      rcases addressed with ⟨-, unnamed⟩ | ⟨owner, ownerMember, ownerIs⟩
      · exact absurd unnamed named
      · exact ⟨owner, grown ownerMember, ownerIs⟩

theorem BuiltAs.addLower
    (built : BuiltAs getAddress dev lowerDevices upperDevices deviceType pod position)
    (port : δ) :
    BuiltAs getAddress (dev.addSwitchPort getAddress port false) (lowerDevices ++ [port])
      upperDevices deviceType pod position := by
  rw [addSwitchPort_lower]
  refine ⟨built.deviceType, built.pod, built.position, ?_, built.upper, built.connected,
    built.table, .inr (exists_address built.address ?_ (by simp))⟩
  · simp [PortlandSwitchNetDevice.config, ← built.lower]
  · intro owner member
    simp only [List.mem_append] at member ⊢
    exact member.imp_left .inl

theorem BuiltAs.addUpper
    (built : BuiltAs getAddress dev lowerDevices upperDevices deviceType pod position)
    (port : δ) :
    BuiltAs getAddress (dev.addSwitchPort getAddress port true) lowerDevices
      (upperDevices ++ [port]) deviceType pod position := by
  rw [addSwitchPort_upper]
  refine ⟨built.deviceType, built.pod, built.position, built.lower, ?_, built.connected,
    built.table, .inr (exists_address built.address ?_ (by simp))⟩
  · simp [PortlandSwitchNetDevice.config, ← built.upper]
  · intro owner member
    simp only [List.mem_append] at member ⊢
    exact member.imp_right .inl

theorem BuiltAs.addAllLower
    (built : BuiltAs getAddress dev lowerDevices upperDevices deviceType pod position)
    (ports : List δ) :
    BuiltAs getAddress
      (ports.foldl (fun dev i => dev.addSwitchPort getAddress i false) dev)
      (lowerDevices ++ ports) upperDevices deviceType pod position := by
  induction ports generalizing dev lowerDevices with
  | nil => simpa using built
  | cons port ports induction => simpa using induction (built.addLower port)

theorem BuiltAs.addAllUpper
    (built : BuiltAs getAddress dev lowerDevices upperDevices deviceType pod position)
    (ports : List δ) :
    BuiltAs getAddress
      (ports.foldl (fun dev i => dev.addSwitchPort getAddress i true) dev)
      lowerDevices (upperDevices ++ ports) deviceType pod position := by
  induction ports generalizing dev upperDevices with
  | nil => simpa using built
  | cons port ports induction => simpa using induction (built.addUpper port)

theorem builtAs_install (fabric : Fabric ι δ) (node : ι) :
    BuiltAs getAddress
      ((fabric.install getAddress node lowerDevices upperDevices deviceType pod
      position).switches node) lowerDevices upperDevices deviceType pod position := by
  have created : BuiltAs getAddress
      ({ deviceType, pod, position } : PortlandSwitchNetDevice δ).setFabricManager [] []
      deviceType pod position :=
    ⟨rfl, rfl, rfl, rfl, rfl, rfl, rfl, .inl ⟨rfl, rfl⟩⟩
  simpa [Fabric.install] using (created.addAllLower lowerDevices).addAllUpper upperDevices

theorem address_addSwitchPort (dev : PortlandSwitchNetDevice δ) (port : δ)
    (isUpper : Bool) :
    (dev.addSwitchPort getAddress port isUpper).address =
      if dev.address = {} then getAddress port else dev.address := by
  cases isUpper with
  | true => rw [addSwitchPort_upper]
  | false => rw [addSwitchPort_lower]

/-- Only the first port gives a switch its address. -/
theorem address_addAll (ports : List δ) (isUpper : Bool) {dev : PortlandSwitchNetDevice δ}
    (named : dev.address ≠ {}) :
    (ports.foldl (fun dev i => dev.addSwitchPort getAddress i isUpper) dev).address =
      dev.address := by
  induction ports generalizing dev with
  | nil => rfl
  | cons port ports induction =>
      have kept : (dev.addSwitchPort getAddress port isUpper).address = _ :=
        address_addSwitchPort dev port isUpper
      rw [if_neg named] at kept
      rw [List.foldl_cons, induction (kept ▸ named), kept]

theorem address_install (fabric : Fabric ι δ) (node : ι) {first : δ} {rest : List δ}
    (ports : lowerDevices = first :: rest) (named : getAddress first ≠ {}) :
    ((fabric.install getAddress node lowerDevices upperDevices deviceType pod
      position).switches node).address = getAddress first := by
  let created : PortlandSwitchNetDevice δ :=
    ({ deviceType, pod, position } : PortlandSwitchNetDevice δ).setFabricManager
  have own : (created.addSwitchPort getAddress first false).address = getAddress first :=
    (address_addSwitchPort created first false).trans (if_pos rfl)
  have lower : (lowerDevices.foldl (fun dev i => dev.addSwitchPort getAddress i false)
      created).address = getAddress first := by
    rw [ports, List.foldl_cons, address_addAll rest false (own ▸ named), own]
  have both : (upperDevices.foldl (fun dev i => dev.addSwitchPort getAddress i true)
      (lowerDevices.foldl (fun dev i => dev.addSwitchPort getAddress i false)
        created)).address = _ :=
    address_addAll upperDevices true (lower ▸ named)
  rw [lower] at both
  simpa [Fabric.install] using both

theorem install_other (fabric : Fabric ι δ) {node other : ι} (different : other ≠ node) :
    (fabric.install getAddress node lowerDevices upperDevices deviceType pod
      position).switches other = fabric.switches other := by
  simp [Fabric.install, different]

theorem mem_switches_addSwitch (manager : FabricManager ι) (swtch other : ι) :
    other ∈ (manager.addSwitch swtch).switches ↔ other ∈ manager.switches ∨
      swtch = other := by
  rw [FabricManager.addSwitch]
  split
  · next member =>
      constructor
      · exact .inl
      · intro either
        rcases either with earlier | rfl
        · exact earlier
        · exact member
  · simp [eq_comm]

theorem nodup_addSwitch {manager : FabricManager ι} (nodup : manager.switches.Nodup)
    (swtch : ι) : (manager.addSwitch swtch).switches.Nodup := by
  rw [FabricManager.addSwitch]
  split
  · exact nodup
  · next absent =>
      apply List.nodup_append.mpr ⟨nodup, List.nodup_singleton _, ?_⟩
      intro other member last lastMember same
      rw [List.mem_singleton.mp lastMember] at same
      exact absent (same ▸ member)

/-- What a loop that installs one switch in each iteration does to a fabric. -/
structure Installed {τ : Type} (getAddress : δ → Mac48Address) (node : τ → ι)
    (lower upper : τ → List δ) (deviceType : PortlandSwitchType)
    (pods positions : τ → UInt8)
    (iterations : List τ) (start final : Fabric ι δ) : Prop where
  built : ∀ it ∈ iterations,
    BuiltAs getAddress (final.switches (node it)) (lower it) (upper it)
    deviceType (pods it) (positions it)
  other : ∀ id, (∀ it ∈ iterations, node it ≠ id) → final.switches id = start.switches id
  ipPMACTable : final.manager.ipPMACTable = start.manager.ipPMACTable
  nodup : start.manager.switches.Nodup → final.manager.switches.Nodup
  member : ∀ id, id ∈ final.manager.switches ↔
    id ∈ start.manager.switches ∨ ∃ it ∈ iterations, node it = id

theorem installed_foldl {τ : Type} {node : τ → ι}
    (node_injective : Function.Injective node)
    (lower upper : τ → List δ) (deviceType : PortlandSwitchType)
    (pods positions : τ → UInt8)
    {iterations : List τ} (nodup : iterations.Nodup) (start : Fabric ι δ) :
    Installed getAddress node lower upper deviceType pods positions iterations start
      (iterations.foldl (fun fabric it => fabric.install getAddress (node it) (lower it)
        (upper it) deviceType (pods it) (positions it)) start) := by
  induction iterations generalizing start with
  | nil => exact ⟨by simp, fun _ _ => rfl, rfl, id, by simp⟩
  | cons it rest induction =>
      have parts := List.nodup_cons.mp nodup
      have tail := induction parts.2
        (start.install getAddress (node it) (lower it) (upper it)
        deviceType (pods it) (positions it))
      rw [List.foldl_cons]
      refine ⟨?_, ?_, ?_, ?_, ?_⟩
      · intro other member
        rcases List.mem_cons.mp member with rfl | later
        · rw [tail.other (node other) (fun it itMember same =>
            parts.1 (node_injective same ▸ itMember))]
          exact builtAs_install start (node other)
        · exact tail.built other later
      · intro id untouched
        rw [tail.other id fun it member => untouched it (List.mem_cons_of_mem _ member)]
        exact install_other start (untouched it List.mem_cons_self).symm
      · rw [tail.ipPMACTable]
        rw [Fabric.install, FabricManager.addSwitch]
        dsimp only
        split <;> rfl
      · intro startNodup
        exact tail.nodup (nodup_addSwitch startNodup (node it))
      · intro id
        rw [tail.member id, Fabric.install, mem_switches_addSwitch]
        simp only [List.mem_cons, exists_eq_or_imp, or_assoc]

/-- Each switch is as its own iteration left it. -/
theorem exists_install_of_foldl {τ : Type} (getAddress : δ → Mac48Address) {node : τ → ι}
    (node_injective : Function.Injective node) (lower upper : τ → List δ)
    (deviceType : PortlandSwitchType) (pods positions : τ → UInt8)
    {iterations : List τ} {it : τ} (member : it ∈ iterations) (start : Fabric ι δ) :
    ∃ fabric : Fabric ι δ,
        (iterations.foldl (fun fabric it => fabric.install getAddress (node it)
        (lower it) (upper it) deviceType (pods it) (positions it)) start).switches
          (node it) =
      (fabric.install getAddress (node it) (lower it) (upper it) deviceType (pods it)
        (positions it)).switches (node it) := by
  induction iterations using List.reverseRecOn with
  | nil => cases member
  | append_singleton earlier last induction =>
      rw [List.foldl_append]
      by_cases same : it = last
      · subst same
        exact ⟨_, rfl⟩
      · have before : it ∈ earlier := by simpa [same] using member
        rw [List.foldl_cons, List.foldl_nil, install_other _ (node_injective.ne same)]
        exact induction before

end Install

/-! ## The switches -/

namespace SwitchId

def deviceType : SwitchId k → PortlandSwitchType
  | edge _ _ => .edge
  | aggregation _ _ => .aggregation
  | core _ _ => .core

def pod : SwitchId k → UInt8
  | edge pod _ => UInt8.ofNat pod
  | aggregation pod _ => UInt8.ofNat pod
  | core _ _ => 0

def position : SwitchId k → UInt8
  | edge _ position => UInt8.ofNat position
  | aggregation _ position => UInt8.ofNat position
  | core _ _ => 0

/-- The devices of the lower ports, in port order. -/
def lower : SwitchId k → List (Device k)
  | edge i j => (List.finRange (k / 2)).map fun h => (Link.hostEdge i j h).get 1
  | aggregation i j =>
      (List.finRange (k / 2)).map fun h => (Link.edgeAggregation i j h).get 1
  | core i j => (List.finRange k).map fun h => (Link.aggregationCore i j h).get 1

/-- The devices of the upper ports, in port order. -/
def upper : SwitchId k → List (Device k)
  | edge i j => (List.finRange (k / 2)).map fun h => (Link.edgeAggregation i h j).get 0
  | aggregation i j =>
      (List.finRange (k / 2)).map fun h => (Link.aggregationCore j h i).get 0
  | core _ _ => []

theorem lower_ne_nil (id : SwitchId k) : id.lower ≠ [] := by
  cases id with
  | edge i j => exact List.ne_nil_of_mem (List.mem_map.mpr ⟨j, List.mem_finRange j, rfl⟩)
  | aggregation i j =>
      exact List.ne_nil_of_mem (List.mem_map.mpr ⟨j, List.mem_finRange j, rfl⟩)
  | core i j =>
      have first : Fin k := ⟨i, by omega⟩
      exact List.ne_nil_of_mem (List.mem_map.mpr ⟨first, List.mem_finRange first, rfl⟩)

end SwitchId

/-- A fabric with the switches of Portland-Setup, whatever their tables and
counters hold. -/
structure Wired (getAddress : Device k → Mac48Address)
    (fabric : Fabric (SwitchId k) (Device k)) : Prop where
  deviceType : ∀ id, (fabric.switches id).deviceType = id.deviceType
  pod : ∀ id, (fabric.switches id).pod = id.pod
  position : ∀ id, (fabric.switches id).position = id.position
  lower : ∀ id, (fabric.switches id).config.lower = id.lower
  upper : ∀ id, (fabric.switches id).config.upper = id.upper
  connected : ∀ id, (fabric.switches id).hasFabricManager = true
  address : ∀ id, ∃ port ∈ id.lower ++ id.upper, (fabric.switches id).address =
    getAddress port
  nodup : fabric.manager.switches.Nodup
  member : ∀ id, id ∈ fabric.manager.switches

section Installation

variable {getAddress : Device k → Mac48Address} (fabric : Fabric (SwitchId k) (Device k))

theorem edge_injective : Function.Injective fun it : Fin k × Fin (k / 2) =>
    SwitchId.edge it.1 it.2 := by
  intro first second same
  simpa [Prod.ext_iff] using same

theorem aggregation_injective : Function.Injective fun it : Fin k × Fin (k / 2) =>
    SwitchId.aggregation it.1 it.2 := by
  intro first second same
  simpa [Prod.ext_iff] using same

theorem core_injective : Function.Injective fun it : Fin (k / 2) × Fin (k / 2) =>
    (SwitchId.core it.1 it.2 : SwitchId k) := by
  intro first second same
  simpa [Prod.ext_iff] using same

theorem installEdges_eq :
    installEdges getAddress (Containers.connected k) fabric =
      ((List.finRange k).product (List.finRange (k / 2))).foldl
        (fun fabric it => fabric.install getAddress (.edge it.1 it.2)
          (SwitchId.edge it.1 it.2).lower (SwitchId.edge it.1 it.2).upper .edge
          (UInt8.ofNat it.1) (UInt8.ofNat it.2)) fabric := by
  have regrouped (i : Fin k) (j : Fin (k / 2)) :
      Containers.regroup (Containers.connected k).edgedev i j =
        ((SwitchId.edge i j).lower, (SwitchId.edge i j).upper) :=
    Containers.regroup_eq _ i j (fun h => Containers.edgedev_lower i j h)
      (fun h => Containers.edgedev_upper i j h)
  rw [installEdges, forEach_pair]
  simp only [regrouped]

theorem installAggregation_eq :
    installAggregation getAddress (Containers.connected k) fabric =
      ((List.finRange k).product (List.finRange (k / 2))).foldl
        (fun fabric it => fabric.install getAddress (.aggregation it.1 it.2)
          (SwitchId.aggregation it.1 it.2).lower (SwitchId.aggregation it.1 it.2).upper
          .aggregation (UInt8.ofNat it.1) (UInt8.ofNat it.2)) fabric := by
  have regrouped (i : Fin k) (j : Fin (k / 2)) :
      Containers.regroup (Containers.connected k).aggdev i j =
        ((SwitchId.aggregation i j).lower, (SwitchId.aggregation i j).upper) :=
    Containers.regroup_eq _ i j (fun h => Containers.aggdev_lower i j h)
      (fun h => Containers.aggdev_upper i j h)
  rw [installAggregation, forEach_pair]
  simp only [regrouped]

theorem installCore_eq :
    installCore getAddress (Containers.connected k) fabric =
      ((List.finRange (k / 2)).product (List.finRange (k / 2))).foldl
        (fun fabric it => fabric.install getAddress (.core it.1 it.2)
          (SwitchId.core it.1 it.2).lower [] .core 0 0) fabric := by
  have grouped (i j : Fin (k / 2)) :
      forEach k
        (fun h low_core => low_core ++ (Containers.connected k).coredev (i, j, h)) [] =
        (SwitchId.core i j).lower := by
    rw [forEach_append (fun h : Fin k => Containers.coredev_lower i j h)]
    rfl
  rw [installCore, forEach_pair]
  simp only [grouped]

theorem installed_edges :
    Installed getAddress (fun it : Fin k × Fin (k / 2) => SwitchId.edge it.1 it.2)
      (fun it => (SwitchId.edge it.1 it.2).lower)
        (fun it => (SwitchId.edge it.1 it.2).upper) .edge
      (fun it => UInt8.ofNat it.1) (fun it => UInt8.ofNat it.2)
      ((List.finRange k).product (List.finRange (k / 2))) fabric
      (installEdges getAddress (Containers.connected k) fabric) := by
  rw [installEdges_eq]
  exact installed_foldl edge_injective _ _ _ _ _
    ((List.nodup_finRange k).product (List.nodup_finRange (k / 2))) fabric

theorem installed_aggregation :
    Installed getAddress (fun it : Fin k × Fin (k / 2) => SwitchId.aggregation it.1 it.2)
      (fun it => (SwitchId.aggregation it.1 it.2).lower)
      (fun it => (SwitchId.aggregation it.1 it.2).upper) .aggregation
      (fun it => UInt8.ofNat it.1) (fun it => UInt8.ofNat it.2)
      ((List.finRange k).product (List.finRange (k / 2))) fabric
      (installAggregation getAddress (Containers.connected k) fabric) := by
  rw [installAggregation_eq]
  exact installed_foldl aggregation_injective _ _ _ _ _
    ((List.nodup_finRange k).product (List.nodup_finRange (k / 2))) fabric

theorem installed_core :
    Installed getAddress (fun it : Fin (k / 2) × Fin (k / 2) => SwitchId.core it.1 it.2)
      (fun it => (SwitchId.core it.1 it.2).lower) (fun _ => []) .core (fun _ => 0)
        (fun _ => 0)
      ((List.finRange (k / 2)).product (List.finRange (k / 2))) fabric
      (installCore getAddress (Containers.connected k) fabric) := by
  rw [installCore_eq]
  exact installed_foldl core_injective _ _ _ _ _
    ((List.nodup_finRange (k / 2)).product (List.nodup_finRange (k / 2))) fabric

end Installation

/-- Each switch of Portland-Setup is built with its ports in the order that its
name says. -/
theorem builtAs_portlandSetup (getAddress : Device k → Mac48Address) (id : SwitchId k) :
    BuiltAs getAddress ((portlandSetup getAddress).switches id) id.lower id.upper
      id.deviceType id.pod id.position := by
  rw [portlandSetup]
  cases id with
  | edge i j =>
      rw [(installed_core _).other _ (by simp),
        (installed_aggregation _).other _ (by simp)]
      exact (installed_edges _).built (i, j) (mem_pairs _)
  | aggregation i j =>
      rw [(installed_core _).other _ (by simp)]
      exact (installed_aggregation _).built (i, j) (mem_pairs _)
  | core i j => exact (installed_core _).built (i, j) (mem_pairs _)

/-- A switch takes the address of a lower port. -/
theorem exists_lower_address (getAddress : Device k → Mac48Address)
    (named : ∀ device, getAddress device ≠ {}) (id : SwitchId k) :
    ∃ port ∈ id.lower, ((portlandSetup getAddress).switches id).address =
      getAddress port := by
  rcases List.exists_cons_of_ne_nil id.lower_ne_nil with ⟨first, rest, ports⟩
  refine ⟨first, by simp [ports], ?_⟩
  rw [portlandSetup]
  cases id with
  | edge i j =>
      rw [(installed_core _).other _ (by simp),
        (installed_aggregation _).other _ (by simp), installEdges_eq]
      rcases exists_install_of_foldl getAddress edge_injective
        (fun it => (SwitchId.edge it.1 it.2).lower)
          (fun it => (SwitchId.edge it.1 it.2).upper)
        .edge (fun it => UInt8.ofNat it.1) (fun it => UInt8.ofNat it.2)
          (mem_pairs (i, j)) _
        with ⟨fabric, built⟩
      rw [built]
      exact address_install fabric _ ports (named first)
  | aggregation i j =>
      rw [(installed_core _).other _ (by simp), installAggregation_eq]
      rcases exists_install_of_foldl getAddress aggregation_injective
        (fun it => (SwitchId.aggregation it.1 it.2).lower)
        (fun it => (SwitchId.aggregation it.1 it.2).upper) .aggregation
        (fun it => UInt8.ofNat it.1) (fun it => UInt8.ofNat it.2) (mem_pairs (i, j)) _
        with ⟨fabric, built⟩
      rw [built]
      exact address_install fabric _ ports (named first)
  | core i j =>
      rw [installCore_eq]
      rcases exists_install_of_foldl getAddress core_injective
        (fun it => (SwitchId.core it.1 it.2).lower) (fun _ => []) .core (fun _ => 0)
          (fun _ => 0)
        (mem_pairs (i, j)) _ with ⟨fabric, built⟩
      rw [built]
      exact address_install fabric _ ports (named first)

theorem wired_portlandSetup (getAddress : Device k → Mac48Address) :
    Wired getAddress (portlandSetup getAddress) := by
  have built := builtAs_portlandSetup getAddress
  refine ⟨fun id => (built id).deviceType, fun id => (built id).pod,
    fun id => (built id).position, fun id => (built id).lower, fun id => (built id).upper,
    fun id => (built id).connected, ?_, ?_, ?_⟩
  · intro id
    rcases (built id).address with ⟨noPorts, -⟩ | address
    · exact absurd (List.append_eq_nil_iff.mp noPorts).1 id.lower_ne_nil
    · exact address
  · exact (installed_core _).nodup ((installed_aggregation _).nodup
      ((installed_edges _).nodup List.nodup_nil))
  · intro id
    rw [portlandSetup, (installed_core _).member, (installed_aggregation _).member,
      (installed_edges _).member]
    cases id <;> simp [List.pair_mem_product]

theorem fresh_portlandSetup (getAddress : Device k → Mac48Address) :
    (portlandSetup getAddress).Fresh where
  table id := (builtAs_portlandSetup getAddress id).table
  manager := by
    rw [portlandSetup, (installed_core _).ipPMACTable,
      (installed_aggregation _).ipPMACTable, (installed_edges _).ipPMACTable]

end DataCenter.Portland
