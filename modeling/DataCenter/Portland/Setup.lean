import DataCenter.Foundation.LoopNest
import DataCenter.Portland.Fabric

/-! # The network of Portland-Setup

`PortlandSwitchHelper::Install` and the loops of `main` that create the links of
a fat tree of `k` pods and hand their devices to the switches.  The program's
`num_pod` is `k`; `num_host`, `num_edge`, `num_agg`, `num_group` and `num_core`
are `k / 2`. -/

namespace DataCenter.Portland

/-! ## Nodes, links and devices -/

/-- `host[pod][position].Get (port)` -/
structure Host (k : Nat) where
  pod : Fin k
  position : Fin (k / 2)
  port : Fin (k / 2)
  deriving DecidableEq, Repr

/-- `edge[pod].Get (position)`, `agg[pod].Get (position)` and
`core[group].Get (position)`. -/
inductive SwitchId (k : Nat) where
  | edge (pod : Fin k) (position : Fin (k / 2))
  | aggregation (pod : Fin k) (position : Fin (k / 2))
  | core (group position : Fin (k / 2))
  deriving DecidableEq, Repr

inductive Node (k : Nat) where
  | host (host : Host k)
  | switch (id : SwitchId k)
  deriving DecidableEq, Repr

/-- A call of `csma.Install` in one of the three loop nests, by its loop
variables. -/
inductive Link (k : Nat) where
  | hostEdge (i : Fin k) (j h : Fin (k / 2))
  | edgeAggregation (i : Fin k) (j h : Fin (k / 2))
  | aggregationCore (i j : Fin (k / 2)) (h : Fin k)
  deriving DecidableEq, Repr

/-- The ends of a link are numbered 0 and 1. -/
instance neZero_two : NeZero 2 := ⟨two_ne_zero⟩

/-- `link1.Get (index)`: the CSMA device that `csma.Install` put on one of its
two nodes. -/
structure Device (k : Nat) where
  link : Link k
  index : Fin 2
  deriving DecidableEq, Repr

variable {k : Nat}

namespace Link

def get (link : Link k) (index : Fin 2) : Device k := ⟨link, index⟩

/-- The `NodeContainer` of the call. -/
def nodes : Link k → Fin 2 → Node k
  | .hostEdge i j h, 0 => .host ⟨i, j, h⟩
  | .hostEdge i j _, 1 => .switch (.edge i j)
  | .edgeAggregation i _ h, 0 => .switch (.edge i h)
  | .edgeAggregation i j _, 1 => .switch (.aggregation i j)
  | .aggregationCore i _ h, 0 => .switch (.aggregation h i)
  | .aggregationCore i j _, 1 => .switch (.core i j)

end Link

namespace Device

def node (device : Device k) : Node k := device.link.nodes device.index

/-- The device at the other end of the link. -/
def peer (device : Device k) : Device k := ⟨device.link, device.index.rev⟩

end Device

/-! ## The helper -/

/-- `PortlandSwitchHelper::Install` with lower and upper devices. -/
def Fabric.install {ι δ : Type} [DecidableEq ι] (getAddress : δ → Mac48Address)
    (fabric : Fabric ι δ) (node : ι) (lowerDevices upperDevices : List δ)
    (deviceType : PortlandSwitchType) (pod position : UInt8) : Fabric ι δ :=
  let dev : PortlandSwitchNetDevice δ := { deviceType, pod, position }
  let dev := dev.setFabricManager
  let dev := lowerDevices.foldl (fun dev i => dev.addSwitchPort getAddress i false) dev
  let dev := upperDevices.foldl (fun dev i => dev.addSwitchPort getAddress i true) dev
  { switches := Function.update fabric.switches node dev
    manager := fabric.manager.addSwitch node }

/-! ## The loops of main -/

/-- The four arrays of `NetDeviceContainer`. -/
structure Containers (k : Nat) where
  hostdev : Cells (Nat × Nat × Nat) (Device k) := fun _ => []
  edgedev : Cells (Nat × Nat × Nat) (Device k) := fun _ => []
  aggdev : Cells (Nat × Nat × Nat) (Device k) := fun _ => []
  coredev : Cells (Nat × Nat × Nat) (Device k) := fun _ => []

namespace Containers

def connectHosts (devices : Containers k) : Containers k :=
  forEach k (fun i => forEach (k / 2) fun j => forEach (k / 2) fun h devices =>
    let link1 := Link.hostEdge i j h
    { devices with
      hostdev := devices.hostdev.add (i, j, h) (link1.get 0)
      edgedev := devices.edgedev.add (i, j, h) (link1.get 1) }) devices

def connectAggregation (devices : Containers k) : Containers k :=
  forEach k (fun i => forEach (k / 2) fun j => forEach (k / 2) fun h devices =>
    let link1 := Link.edgeAggregation i j h
    { devices with
      edgedev := devices.edgedev.add (i, h, j + k / 2) (link1.get 0)
      aggdev := devices.aggdev.add (i, j, h) (link1.get 1) }) devices

def connectCore (devices : Containers k) : Containers k :=
  forEach (k / 2) (fun i => forEach (k / 2) fun j => forEach k fun h devices =>
    let link1 := Link.aggregationCore i j h
    { devices with
      aggdev := devices.aggdev.add (h, i, j + k / 2) (link1.get 0)
      coredev := devices.coredev.add (i, j, h) (link1.get 1) }) devices

/-- The arrays after the three loop nests. -/
def connected (k : Nat) : Containers k :=
  connectCore (connectAggregation (connectHosts {}))

/-- `low_x` and `up_x`: the devices of one switch, regrouped. -/
def regroup (cells : Cells (Nat × Nat × Nat) (Device k)) (i j : Nat) :
    List (Device k) × List (Device k) :=
  forEach (k / 2) (fun h grouped =>
    (grouped.1 ++ cells (i, j, h), grouped.2 ++ cells (i, j, h + k / 2))) ([], [])

end Containers

section Main

variable (getAddress : Device k → Mac48Address) (devices : Containers k)

def installEdges (fabric : Fabric (SwitchId k) (Device k)) :
    Fabric (SwitchId k) (Device k) :=
  forEach k (fun i => forEach (k / 2) fun j fabric =>
    let (low_edge, up_edge) := Containers.regroup devices.edgedev i j
    fabric.install getAddress (.edge i j) low_edge up_edge .edge (UInt8.ofNat i)
      (UInt8.ofNat j)) fabric

def installAggregation (fabric : Fabric (SwitchId k) (Device k)) :
    Fabric (SwitchId k) (Device k) :=
  forEach k (fun i => forEach (k / 2) fun j fabric =>
    let (low_agg, up_agg) := Containers.regroup devices.aggdev i j
    fabric.install getAddress (.aggregation i j) low_agg up_agg .aggregation
      (UInt8.ofNat i) (UInt8.ofNat j)) fabric

/-- The core switches have no upper devices: `WAN` is empty. -/
def installCore (fabric : Fabric (SwitchId k) (Device k)) :
    Fabric (SwitchId k) (Device k) :=
  forEach (k / 2) (fun i => forEach (k / 2) fun j fabric =>
    let low_core := forEach k (fun h low_core => low_core ++ devices.coredev (i, j, h)) []
    fabric.install getAddress (.core i j) low_core [] .core 0 0) fabric

/-- The switches and the fabric manager that `main` sets up. -/
def portlandSetup : Fabric (SwitchId k) (Device k) :=
  installCore getAddress (Containers.connected k) <|
    installAggregation getAddress (Containers.connected k) <|
      installEdges getAddress (Containers.connected k)
        { switches := fun _ => {}, manager := {} }

end Main

end DataCenter.Portland
