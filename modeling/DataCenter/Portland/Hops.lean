import DataCenter.Portland.Registry

/-! # Single hops

Which port every switch chooses for a PMAC and which device is at the other end
of it.  Pods, positions and ports are written in PMACs as octets, so a PMAC leads
to the host whose place the octets give. -/

namespace DataCenter.Portland

open PortlandSwitchNetDevice

variable {k : Nat}

/-! ## Octets -/

/-- What is left of a number in an octet. -/
def octet {count : Nat} (index : Fin count) : Fin count :=
  ⟨index % 256, Nat.lt_of_le_of_lt (Nat.mod_le _ _) index.isLt⟩

theorem octet_of_le {count : Nat} (fits : count ≤ 256) (index : Fin count) :
    octet index = index := by
  apply Fin.ext
  exact Nat.mod_eq_of_lt (Nat.lt_of_lt_of_le index.isLt fits)

theorem octet_octet {count : Nat} (index : Fin count) :
    octet (octet index) = octet index := by
  apply Fin.ext
  simp [octet]

theorem toNat_ofNat_fin {count : Nat} (index : Fin count) :
    (UInt8.ofNat index).toNat = (octet index).val := by
  simp [octet]

theorem ofNat_octet {count : Nat} (index : Fin count) :
    UInt8.ofNat (octet index) = UInt8.ofNat index := by
  apply UInt8.toNat_inj.mp
  simp [octet]

/-- The host to whose place a PMAC leads. -/
def Host.octets (host : Host k) : Host k :=
  ⟨octet host.pod, octet host.position, octet host.port⟩

/-! ## The other end of a port -/

theorem onPort_eq {id : SwitchId k} {isUpper : Bool} {count : Nat}
    {item : Fin count → Device k}
    (side : id.side isUpper = (List.finRange count).map item) (index : Fin count)
    (frame : Frame) :
    onPort id isUpper (UInt8.ofNat index) frame =
      [((item (octet index)).peer, frame)] := by
  have stored :
      (id.side isUpper)[(UInt8.ofNat index).toNat]? = some (item (octet index)) := by
    rw [side, toNat_ofNat_fin]
    simp
  simp only [onPort, stored]
  rfl

theorem onPort_edge_upper (i : Fin k) (j index : Fin (k / 2)) (frame : Frame) :
    onPort (.edge i j) true (UInt8.ofNat index) frame =
      [((Link.edgeAggregation i (octet index) j).get 1, frame)] := by
  have side : (SwitchId.edge i j).side true =
      (List.finRange (k / 2)).map fun h => (Link.edgeAggregation i h j).get 0 := rfl
  exact onPort_eq side index frame

theorem onPort_edge_lower (i : Fin k) (j index : Fin (k / 2)) (frame : Frame) :
    onPort (.edge i j) false (UInt8.ofNat index) frame =
      [((Link.hostEdge i j (octet index)).get 0, frame)] := by
  have side : (SwitchId.edge i j).side false =
      (List.finRange (k / 2)).map fun h => (Link.hostEdge i j h).get 1 := rfl
  exact onPort_eq side index frame

theorem onPort_aggregation_upper (i : Fin k) (j index : Fin (k / 2)) (frame : Frame) :
    onPort (.aggregation i j) true (UInt8.ofNat index) frame =
      [((Link.aggregationCore j (octet index) i).get 1, frame)] := by
  have side : (SwitchId.aggregation i j).side true =
      (List.finRange (k / 2)).map fun h => (Link.aggregationCore j h i).get 0 := rfl
  exact onPort_eq side index frame

theorem onPort_aggregation_lower (i : Fin k) (j index : Fin (k / 2)) (frame : Frame) :
    onPort (.aggregation i j) false (UInt8.ofNat index) frame =
      [((Link.edgeAggregation i j (octet index)).get 0, frame)] := by
  have side : (SwitchId.aggregation i j).side false =
      (List.finRange (k / 2)).map fun h => (Link.edgeAggregation i j h).get 1 := rfl
  exact onPort_eq side index frame

theorem onPort_core_lower (i j : Fin (k / 2)) (index : Fin k) (frame : Frame) :
    onPort (.core i j) false (UInt8.ofNat index) frame =
      [((Link.aggregationCore i j (octet index)).get 0, frame)] := by
  have side : (SwitchId.core i j).side false =
      (List.finRange k).map fun h => (Link.aggregationCore i j h).get 1 := rfl
  exact onPort_eq side index frame

/-! ## The choice of a port -/

/-- `GetOutputPort` goes upstream for the PMAC of a host. -/
def SwitchId.upstream : SwitchId k → Host k → Bool
  | .core _ _, _ => false
  | .aggregation pod _, target => UInt8.ofNat pod ≠ UInt8.ofNat target.pod
  | .edge pod position, target =>
      ¬ (UInt8.ofNat pod = UInt8.ofNat target.pod ∧
        UInt8.ofNat position = UInt8.ofNat target.position)

/-- The random choice of an upper port. -/
def Fin.draw {count : Nat} (some : Fin count) (rand : Nat) : Fin count :=
  ⟨rand % count, Nat.mod_lt _ (Nat.lt_of_le_of_lt (Nat.zero_le _) some.isLt)⟩

section Choice

variable {getAddress : Device k → Mac48Address} {fabric : Fabric (SwitchId k) (Device k)}

theorem Wired.outPort_core (wired : Wired getAddress fabric) (i j : Fin (k / 2))
    (rand : Nat) (target : Host k) :
    (fabric.switches (.core i j)).getOutputPort rand target.pmac =
      .ok ((octet target.pod).val : Int) := by
  rw [Host.pmac, getOutputPort_pseudo, wired.deviceType]
  simp only [SwitchId.deviceType, toNat_ofNat_fin]

theorem Wired.randomUpperPort_eq (wired : Wired getAddress fabric) (id : SwitchId k)
    (inner : id.deviceType ≠ .core) (some : Fin (k / 2)) (rand : Nat) :
    (fabric.switches id).randomUpperPort rand = .ok ((Fin.draw some rand).val : Int) := by
  have uppers : (fabric.switches id).upperPorts.length = k / 2 := by
    rw [wired.length_upperPorts]
    cases id with
    | edge i j => simp [SwitchId.upper]
    | aggregation i j => simp [SwitchId.upper]
    | core i j => exact absurd rfl inner
  have positive : k / 2 ≠ 0 := Nat.ne_of_gt (Nat.lt_of_le_of_lt (Nat.zero_le _) some.isLt)
  rw [randomUpperPort]
  rw [uppers, if_neg positive]
  rfl

theorem Wired.outPort_aggregation (wired : Wired getAddress fabric) (i : Fin k)
    (j : Fin (k / 2)) (rand : Nat) (target : Host k) :
    (fabric.switches (.aggregation i j)).getOutputPort rand target.pmac =
      .ok ((if (SwitchId.aggregation i j).upstream target then Fin.draw j rand
        else octet target.position).val : Int) := by
  rw [Host.pmac, getOutputPort_pseudo, wired.deviceType, wired.pod,
    wired.randomUpperPort_eq _ (by simp [SwitchId.deviceType]) j]
  simp only [SwitchId.deviceType, SwitchId.pod, SwitchId.upstream, toNat_ofNat_fin]
  by_cases same : UInt8.ofNat i = UInt8.ofNat target.pod <;> simp [same]

theorem Wired.outPort_edge (wired : Wired getAddress fabric) (i : Fin k) (j : Fin (k / 2))
    (rand : Nat) (target : Host k) :
    (fabric.switches (.edge i j)).getOutputPort rand target.pmac =
      .ok ((if (SwitchId.edge i j).upstream target then Fin.draw j rand
        else octet target.port).val : Int) := by
  rw [Host.pmac, getOutputPort_pseudo, wired.deviceType, wired.pod, wired.position,
    wired.randomUpperPort_eq _ (by simp [SwitchId.deviceType]) j]
  simp only [SwitchId.deviceType, SwitchId.pod, SwitchId.position, SwitchId.upstream,
    toNat_ofNat_fin]
  by_cases same : UInt8.ofNat i = UInt8.ofNat target.pod ∧
      UInt8.ofNat j = UInt8.ofNat target.position <;> simp [same]

theorem Wired.registered (wired : Wired getAddress fabric) (id : SwitchId k)
    (device : Device k) (packet : Packet) (entry : Option PMACEntry) :
    Wired getAddress (fabric.registered id device packet entry) := by
  apply wired.congr ?_ (switches_learn fabric.manager entry)
  intro other
  rw [Fabric.registered]
  by_cases same : other = id
  · subst same
    simp
  · simp [same]

end Choice

/-! ## Frames between the edge switches -/

section Forwarding

variable {getAddress : Device k → Mac48Address} {fabric : Fabric (SwitchId k) (Device k)}
  {target : Host k} {frame : Frame}

theorem handle_up_of_passes (wired : Wired getAddress fabric)
    (toTarget : frame.dst = target.pmac) (i : Fin k) (j h : Fin (k / 2))
    (passes : PassesAt getAddress fabric (.aggregation i j)
      ((Link.edgeAggregation i j h).get 1) frame) (draw : Draw) :
    handle getAddress fabric ((Link.edgeAggregation i j h).get 1, frame) draw =
      some
        { system := fabric.counted (.aggregation i j) ((Link.edgeAggregation i j h).get 1)
            frame.packet
          outputs :=
            [((Link.aggregationCore j
                (octet (if (SwitchId.aggregation i j).upstream target
                  then Fin.draw j draw.rand
                  else octet target.position)) i).get 1, frame)] } := by
  have port : ((Link.edgeAggregation i j h).get 1).port =
      some (.aggregation i j, false, h.val) := rfl
  have output := wired.outPort_aggregation i j draw.rand target
  rw [← toTarget] at output
  rw [handle_forward wired port passes (.inl ⟨rfl, rfl⟩) output, toUInt8_natCast,
    Bool.not_false, onPort_aggregation_upper]

theorem handle_core_of_passes (wired : Wired getAddress fabric)
    (toTarget : frame.dst = target.pmac) (i j : Fin (k / 2)) (h : Fin k)
    (passes : PassesAt getAddress fabric (.core i j) ((Link.aggregationCore i j h).get 1)
      frame)
    (draw : Draw) :
    handle getAddress fabric ((Link.aggregationCore i j h).get 1, frame) draw =
      some
        { system := fabric.counted (.core i j) ((Link.aggregationCore i j h).get 1)
            frame.packet
          outputs :=
            [((Link.aggregationCore i j (octet target.pod)).get 0, frame)] } := by
  have port :
      ((Link.aggregationCore i j h).get 1).port = some (.core i j, false, h.val) := rfl
  have output := wired.outPort_core i j draw.rand target
  rw [← toTarget] at output
  rw [handle_forward wired port passes (.inr ⟨rfl, rfl, rfl⟩) output, toUInt8_natCast,
    onPort_core_lower, octet_octet]

theorem handle_down_of_passes (wired : Wired getAddress fabric)
    (toTarget : frame.dst = target.pmac) (i j : Fin (k / 2)) (h : Fin k)
    (passes : PassesAt getAddress fabric (.aggregation h i)
      ((Link.aggregationCore i j h).get 0) frame) (draw : Draw) :
    handle getAddress fabric ((Link.aggregationCore i j h).get 0, frame) draw =
      some
        { system := fabric.counted (.aggregation h i) ((Link.aggregationCore i j h).get 0)
            frame.packet
          outputs :=
            [((Link.edgeAggregation h i
                (octet (if (SwitchId.aggregation h i).upstream target
                  then Fin.draw i draw.rand
                  else octet target.position))).get 0, frame)] } := by
  have port : ((Link.aggregationCore i j h).get 0).port =
      some (.aggregation h i, true, j.val) := rfl
  have output := wired.outPort_aggregation h i draw.rand target
  rw [← toTarget] at output
  rw [handle_forward wired port passes (.inl ⟨rfl, rfl⟩) output, toUInt8_natCast,
    Bool.not_true, onPort_aggregation_lower]

end Forwarding

end DataCenter.Portland
