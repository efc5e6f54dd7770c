import DataCenter.BCube
import DataCenter.FatTree
import DataCenter.Foundation.Loop

/-! # The flow generators

The loops that choose a server and a client for each flow, in Fat-tree-AlFares.cc
and BCube.cc.  They write down the address of the server before any address is
assigned.  The values of `rand ()` are a sequence, and a generator keeps how many of
them it has used. -/

namespace DataCenter

/-! ## Random hosts -/

/-- The pod, the switch and the number under it of a host. -/
structure HostChoice where
  pod : Nat
  sw : Nat
  host : Nat
  deriving DecidableEq, Repr

/-- `rand () % num_pod + 0`, `rand () % num_edge + 0` and `rand () % num_host + 0` -/
def drawHost (k : Nat) (rand : Nat → Nat) (position : Nat) : HostChoice × Nat :=
  (⟨rand position % k, rand (position + 1) % (k / 2), rand (position + 2) % (k / 2)⟩,
    position + 3)

/-- The host is there. -/
def HostChoice.Exists (k : Nat) (choice : HostChoice) : Prop :=
  choice.pod < k ∧ choice.sw < k / 2 ∧ choice.host < k / 2

theorem drawHost_exists {k : Nat} (low : 2 ≤ k) (rand : Nat → Nat) (position : Nat) :
    (drawHost k rand position).1.Exists k :=
  ⟨Nat.mod_lt _ (by omega), Nat.mod_lt _ (by omega), Nat.mod_lt _ (by omega)⟩

/-! ## The fat tree -/

namespace FatTree

/-- A generated flow, with the random values that it is made of. -/
structure Flow where
  podRand : Nat
  swRand : Nat
  hostRand : Nat
  destination : Ipv4Address
  client : HostChoice
  deriving DecidableEq, Repr

/-- The condition of the loop that chooses a client. -/
def isServer (podRand swRand hostRand : Nat) (client : HostChoice) : Bool :=
  client.pod = podRand ∧ swRand = client.sw ∧ client.host + 2 = hostRand

/-- The body of the loop over the flows; `none` if a client is not found within the
fuel. -/
def generateFlow (k : Nat) (rand : Nat → Nat) (fuel : Nat) (state : List Flow × Nat)
    (_ : Nat) :
    Option (List Flow × Nat) := do
  let (flows, position) := state
  let (server, position) := drawHost k rand position
  let podRand := server.pod
  let swRand := server.sw
  let hostRand := server.host + 2
  let destination := Ipv4Address.ofString (addressString 10 podRand swRand hostRand)
  let (client, position) ← loop
      (redraw (drawHost k rand) (isServer podRand swRand hostRand)) fuel
    (drawHost k rand position)
  return (flows ++ [{ podRand, swRand, hostRand, destination, client }], position)

/-- The flows of the first iterations, of which the program makes `k * k * k / 4`. -/
def generateFlows (k : Nat) (rand : Nat → Nat) (fuel count : Nat) :
    Option (List Flow × Nat) :=
  (List.range count).foldlM (generateFlow k rand fuel) ([], 0)

/-- The flow that is made of the random values from a position on, up to the next one. -/
structure Flow.DrawnAt (k : Nat) (rand : Nat → Nat) (position : Nat) (flow : Flow)
    (next : Nat) : Prop where
  podRand : flow.podRand = rand position % k
  swRand : flow.swRand = rand (position + 1) % (k / 2)
  hostRand : flow.hostRand = rand (position + 2) % (k / 2) + 2
  destination : flow.destination = .ofOctets 10 flow.podRand flow.swRand flow.hostRand
  client : FirstAccepted (drawHost k rand)
    (fun client => client = ⟨flow.podRand, flow.swRand, flow.hostRand - 2⟩) (position + 3)
    (flow.client, next)

/-- The flow is for the host that the client was compared with, which is another one. -/
structure Flow.Aimed (k : Nat) (assigned : List (Device × Ipv4Address)) (flow : Flow) :
    Prop where
  server : HostChoice.Exists k ⟨flow.podRand, flow.swRand, flow.hostRand - 2⟩
  destination : ∀ address,
    (.host flow.podRand flow.swRand (flow.hostRand - 2), address) ∈ assigned ↔
      address = flow.destination
  client : flow.client.Exists k
  different : flow.client ≠ ⟨flow.podRand, flow.swRand, flow.hostRand - 2⟩

/-- The loops that assign the addresses give a host the one of the plan, and no other. -/
theorem mem_planned_host {k pod sw host : Nat}
    (exist : HostChoice.Exists k ⟨pod, sw, host⟩) (address : Ipv4Address) :
    (.host pod sw host, address) ∈ planned k (devices k) ↔
      address = .ofOctets 10 pod sw (host + 2) := by
  have present := (mem_devices k (.host pod sw host)).mpr exist
  constructor
  · intro member
    rcases List.mem_map.mp member with ⟨device, -, same⟩
    cases same
    rfl
  · intro same
    subst same
    exact List.mem_map.mpr ⟨_, present, rfl⟩

theorem isServer_eq (podRand swRand hostRand : Nat) :
    isServer podRand swRand (hostRand + 2) =
      fun client => decide (client = ⟨podRand, swRand, hostRand⟩) := by
  funext client
  rcases client with ⟨pod, sw, host⟩
  simp [isServer, eq_comm]

theorem exists_generateFlow_iff {k : Nat} (low : 2 ≤ k) (high : k ≤ 126)
    {rand : Nat → Nat} {flows : List Flow} {position i : Nat} {next : List Flow × Nat} :
    (∃ fuel, generateFlow k rand fuel (flows, position) i = some next) ↔
      ∃ flow, next.1 = flows ++ [flow] ∧ flow.DrawnAt k rand position next.2 := by
  have server := drawHost_exists low rand position
  have written := ofString_addressString (show 10 < 256 by decide)
    (show (drawHost k rand position).1.pod < 256 by have := server.1; omega)
    (show (drawHost k rand position).1.sw < 256 by have := server.2.1; omega)
    (show (drawHost k rand position).1.host + 2 < 256 by have := server.2.2; omega)
  constructor
  · intro generated
    rcases generated with ⟨fuel, generated⟩
    rw [generateFlow] at generated
    dsimp only at generated
    rcases Option.bind_eq_some_iff.mp generated with ⟨⟨client, final⟩, chosen, rest⟩
    cases rest
    have first := exits_redraw_iff.mp ⟨fuel, chosen⟩
    rw [isServer_eq] at first
    exact ⟨_, rfl, rfl, rfl, rfl, written, first⟩
  · intro drawn
    rcases drawn with ⟨⟨podRand, swRand, hostRand, destination, client⟩, added, drawn⟩
    rcases drawn with ⟨rfl, rfl, rfl, destinationIs, first⟩
    rcases next with ⟨all, next⟩
    cases added
    dsimp only at destinationIs first
    subst destinationIs
    rw [Nat.add_sub_cancel] at first
    rw [← isServer_eq] at first
    rcases exits_redraw_iff.mpr first with ⟨fuel, chosen⟩
    refine ⟨fuel, ?_⟩
    refine Option.bind_eq_some_iff.mpr ⟨(client, next), chosen, ?_⟩
    exact congrArg
      (fun destination => some (flows ++ [Flow.mk _ _ _ destination client], next))
      written

theorem generateFlow_mono {k : Nat} {rand : Nat → Nat} (fuel more : Nat)
    (state : List Flow × Nat) (i : Nat) (next : List Flow × Nat) (enough : fuel ≤ more)
    (generated : generateFlow k rand fuel state i = some next) :
    generateFlow k rand more state i = some next :=
  bind_loop_mono enough generated

/-- The generator comes to its end exactly if a client is found for each flow. -/
theorem exists_generateFlows_iff {k : Nat} (low : 2 ≤ k) (high : k ≤ 126)
    {rand : Nat → Nat} {count : Nat} {final : List Flow × Nat} :
    (∃ fuel, generateFlows k rand fuel count = some final) ↔
      final.1.length = count ∧ MadeInTurn (Flow.DrawnAt k rand) final.1 final.2 :=
  exists_foldlM_iff (fun _ _ _ _ => exists_generateFlow_iff low high) generateFlow_mono

/-- Whatever is drawn, the flow is for the host that it is meant for. -/
theorem Flow.DrawnAt.aimed {k : Nat} (low : 2 ≤ k) {rand : Nat → Nat}
    {position next : Nat} {flow : Flow} (drawn : flow.DrawnAt k rand position next) :
    flow.Aimed k (planned k (devices k)) := by
  have server : HostChoice.Exists k ⟨flow.podRand, flow.swRand, flow.hostRand - 2⟩ := by
    rw [drawn.podRand, drawn.swRand, drawn.hostRand]
    exact drawHost_exists low rand position
  have offset : flow.hostRand - 2 + 2 = flow.hostRand := by
    rw [drawn.hostRand]
    rfl
  constructor
  · exact server
  · intro address
    rw [mem_planned_host server, offset, drawn.destination]
  · rcases drawn.client.exists_drawn with ⟨earlier, clientIs⟩
    have exist := drawHost_exists low rand earlier
    rw [← clientIs] at exist
    exact exist
  · simpa using drawn.client.accepted

end FatTree

/-! ## BCube -/

namespace BCube

/-- The variables of the loop that connects BCube 0 and assigns its addresses. -/
structure Setup where
  level : Level := {}
  address : Ipv4AddressHelper := {}
  assigned : List (Terminal × Ipv4Address) := []

/-- The body of the loop.  To `hostSwDevices0[i]` the other ends of the links of
`bridgeDevices0[i]` are added, so that it lists the same terminals. -/
def assignBridge0 (n fuel : Nat) (setup : Setup) (i : Nat) : Option Setup := do
  let level ← connectBridge0 n fuel setup.level i
  let hostSwDevices := level.bridgeDevices i
  let address ← Ipv4AddressHelper.setBase (.ofString (addressString 10 0 i 0)) octetMask
  let (assigned, address) ← address.assign hostSwDevices
  return { level, address, assigned := setup.assigned ++ assigned }

/-- The addresses in BCube 0. -/
def assignAddresses0 (n fuel : Nat) : Option (List (Terminal × Ipv4Address)) := do
  let setup ← (List.range (n ^ 2)).foldlM (assignBridge0 n fuel) {}
  return setup.assigned

/-- A generated flow, with the random values that it is made of. -/
structure Flow where
  swRand : Nat
  hostRand : Nat
  destination : Ipv4Address
  randHost : Nat
  deriving DecidableEq, Repr

/-- `rand () % num_host + 0` -/
def drawClient (n : Nat) (rand : Nat → Nat) (position : Nat) : Nat × Nat :=
  (rand position % n ^ 3, position + 1)

/-- The body of the loop over the flows; `none` if a client is not found within the
fuel. -/
def generateFlow (n : Nat) (rand : Nat → Nat) (fuel : Nat) (state : List Flow × Nat)
    (_ : Nat) :
    Option (List Flow × Nat) := do
  let (flows, position) := state
  let swRand := rand position % n ^ 2
  let hostRand := rand (position + 1) % n + 2
  let destination := Ipv4Address.ofString (addressString 10 0 swRand hostRand)
  let temp := n * swRand + (hostRand - 2)
  let (randHost, position) ← loop
      (redraw (drawClient n rand) fun randHost => temp = randHost) fuel
    (drawClient n rand (position + 2))
  return (flows ++ [{ swRand, hostRand, destination, randHost }], position)

/-- The flows of the first iterations, of which the program makes `num_host`. -/
def generateFlows (n : Nat) (rand : Nat → Nat) (fuel count : Nat) :
    Option (List Flow × Nat) :=
  (List.range count).foldlM (generateFlow n rand fuel) ([], 0)

/-- The number of the host that the client is compared with. -/
def Flow.server (n : Nat) (flow : Flow) : Nat := n * flow.swRand + (flow.hostRand - 2)

/-- The flow that is made of the random values from a position on, up to the next one. -/
structure Flow.DrawnAt (n : Nat) (rand : Nat → Nat) (position : Nat) (flow : Flow)
    (next : Nat) : Prop where
  swRand : flow.swRand = rand position % n ^ 2
  hostRand : flow.hostRand = rand (position + 1) % n + 2
  destination : flow.destination = .ofOctets 10 0 flow.swRand flow.hostRand
  client : FirstAccepted (drawClient n rand) (fun randHost => flow.server n = randHost)
    (position + 2) (flow.randHost, next)

/-- The flow is for the host that the client was compared with, which is another one. -/
structure Flow.Aimed (n : Nat) (assigned : List (Terminal × Ipv4Address)) (flow : Flow) :
    Prop where
  server : flow.server n < n ^ 3
  destination : ∀ address, (.host (flow.server n), address) ∈ assigned ↔
    address = flow.destination
  client : flow.randHost < n ^ 3
  different : flow.randHost ≠ flow.server n

/-! ### The addresses of BCube 0 -/

/-- The addresses in a subnet: the switch has the first. -/
def plannedBridge (n i : Nat) : List (Terminal × Ipv4Address) :=
  (.switch i, .ofOctets 10 0 i 1) ::
    (List.range n).map fun m => (.host (n * i + m : Nat), .ofOctets 10 0 i (m + 2))

theorem zipIdx_bridgeDevices (n i : Nat) :
    ((Terminal.switch i :: (List.range n).map fun m =>
        Terminal.host ((n * i + 1 * m : Nat) : Int)).zipIdx 1).map
        (fun (terminal, host) => (terminal, Ipv4Address.ofOctets 10 0 i host)) =
      plannedBridge n i := by
  rw [List.zipIdx_cons, List.map_cons, plannedBridge]
  congr 1
  apply List.ext_getElem
  · simp
  · intro m small _
    simp [Nat.add_comm]

/-- Bridges up to a number are connected and their terminals have addresses. -/
structure Assigned (n count : Nat) (setup : Setup) : Prop where
  contiguous : Contiguous n count setup.level
  assigned : setup.assigned = (List.range count).flatMap (plannedBridge n)

theorem Assigned.assignBridge0 {n fuel : Nat} (high : n ≤ 15) (enough : n < fuel)
    {i : Nat} (small : i < n ^ 2) {setup : Setup} (done : Assigned n i setup) :
    ∃ next, BCube.assignBridge0 n fuel setup i = some next ∧ Assigned n (i + 1) next := by
  rcases done.contiguous.connectBridge0 enough with ⟨level, connected, contiguous⟩
  have devices := contiguous.connected.done i (Nat.lt_succ_self i)
  have octet : i < 256 := by
    have squares : n ^ 2 ≤ 15 ^ 2 := Nat.pow_le_pow_left high 2
    omega
  have room : 1 + (level.bridgeDevices i).length ≤ 255 := by
    rw [devices, List.length_cons, List.length_map, List.length_range]
    omega
  have base : addressString 0 0 0 1 = "0.0.0.1".toList := by decide
  rcases exists_assign_subnet (show 10 < 256 by decide) (show 0 < 256 by decide) octet
    (level.bridgeDevices i) room with ⟨helper, final, isSet, assigned⟩
  rw [base] at isSet
  refine ⟨⟨level, final, setup.assigned ++ plannedBridge n i⟩, ?_, contiguous, ?_⟩
  · rw [BCube.assignBridge0, connected]
    simp only [Option.bind_eq_bind, Option.bind_some, isSet, assigned]
    rw [devices, zipIdx_bridgeDevices]
    rfl
  · rw [done.assigned, List.range_succ, List.flatMap_append, List.flatMap_singleton]

theorem assignAddresses0_eq {n fuel : Nat} (high : n ≤ 15) (enough : n < fuel) :
    assignAddresses0 n fuel = some ((List.range (n ^ 2)).flatMap (plannedBridge n)) := by
  have run : ∃ final, (List.range (n ^ 2)).foldlM (assignBridge0 n fuel) {} = some final ∧
      Assigned n (n ^ 2) final := by
    apply exists_foldlM_range
    · intro i setup small done
      exact done.assignBridge0 high enough small
    · exact ⟨⟨connected_start n 1 _, rfl⟩, rfl⟩
  rcases run with ⟨final, ran, done⟩
  rw [assignAddresses0, ran, ← done.assigned]
  rfl

theorem number_lt {n sw host : Nat} (swSmall : sw < n ^ 2) (hostSmall : host < n) :
    n * sw + host < n ^ 3 := by
  have whole : n * (sw + 1) ≤ n ^ 3 :=
    (Nat.mul_le_mul_left n swSmall).trans_eq (pow_succ' n 2).symm
  rw [Nat.mul_add_one] at whole
  omega

/-- A host has the address of its place under its bridge, and no other. -/
theorem mem_plannedBridges {n sw host : Nat} (swSmall : sw < n ^ 2) (hostSmall : host < n)
    (address : Ipv4Address) :
    (.host ((n * sw + host : Nat) : Int), address) ∈
        (List.range (n ^ 2)).flatMap (plannedBridge n) ↔
      address = .ofOctets 10 0 sw (host + 2) := by
  simp only [plannedBridge, List.mem_flatMap, List.mem_range, List.mem_cons,
    Prod.mk.injEq, reduceCtorEq, false_and, false_or, List.mem_map, Terminal.host.injEq,
    Nat.cast_inj]
  constructor
  · intro member
    rcases member with ⟨i, -, m, mSmall, place, same⟩
    rw [Nat.mul_comm, Nat.mul_comm n sw] at place
    rcases (pair_inj mSmall hostSmall).mp place with ⟨rfl, rfl⟩
    exact same.symm
  · intro same
    exact ⟨sw, swSmall, host, hostSmall, rfl, same.symm⟩

/-! ### The flows -/

theorem exists_generateFlow_iff {n : Nat} (low : 1 < n) (high : n ≤ 15) {rand : Nat → Nat}
    {flows : List Flow} {position i : Nat} {next : List Flow × Nat} :
    (∃ fuel, generateFlow n rand fuel (flows, position) i = some next) ↔
      ∃ flow, next.1 = flows ++ [flow] ∧ flow.DrawnAt n rand position next.2 := by
  have swSmall : rand position % n ^ 2 < n ^ 2 := Nat.mod_lt _ (by positivity)
  have hostSmall : rand (position + 1) % n < n := Nat.mod_lt _ (by omega)
  have octet : rand position % n ^ 2 < 256 := by
    have squares : n ^ 2 ≤ 15 ^ 2 := Nat.pow_le_pow_left high 2
    omega
  have written := ofString_addressString (show 10 < 256 by decide)
    (show 0 < 256 by decide) octet (show rand (position + 1) % n + 2 < 256 by omega)
  constructor
  · intro generated
    rcases generated with ⟨fuel, generated⟩
    rw [generateFlow] at generated
    dsimp only at generated
    rcases Option.bind_eq_some_iff.mp generated with ⟨⟨randHost, final⟩, chosen, rest⟩
    cases rest
    exact ⟨_, rfl, rfl, rfl, written, exits_redraw_iff.mp ⟨fuel, chosen⟩⟩
  · intro drawn
    rcases drawn with ⟨⟨swRand, hostRand, destination, randHost⟩, added, drawn⟩
    rcases drawn with ⟨rfl, rfl, destinationIs, first⟩
    rcases next with ⟨all, next⟩
    cases added
    dsimp only at destinationIs first
    subst destinationIs
    rcases exits_redraw_iff.mpr first with ⟨fuel, chosen⟩
    refine ⟨fuel, ?_⟩
    refine Option.bind_eq_some_iff.mpr ⟨(randHost, next), chosen, ?_⟩
    exact congrArg
      (fun destination => some (flows ++ [Flow.mk _ _ destination randHost], next))
      written

theorem generateFlow_mono {n : Nat} {rand : Nat → Nat} (fuel more : Nat)
    (state : List Flow × Nat) (i : Nat) (next : List Flow × Nat) (enough : fuel ≤ more)
    (generated : generateFlow n rand fuel state i = some next) :
    generateFlow n rand more state i = some next :=
  bind_loop_mono enough generated

theorem exists_generateFlows_iff {n : Nat} (low : 1 < n) (high : n ≤ 15)
    {rand : Nat → Nat} {count : Nat} {final : List Flow × Nat} :
    (∃ fuel, generateFlows n rand fuel count = some final) ↔
      final.1.length = count ∧ MadeInTurn (Flow.DrawnAt n rand) final.1 final.2 :=
  exists_foldlM_iff (fun _ _ _ _ => exists_generateFlow_iff low high) generateFlow_mono

theorem Flow.DrawnAt.aimed {n : Nat} (low : 1 < n) {rand : Nat → Nat}
    {position next : Nat} {flow : Flow} (drawn : flow.DrawnAt n rand position next) :
    flow.Aimed n ((List.range (n ^ 2)).flatMap (plannedBridge n)) := by
  have swSmall : flow.swRand < n ^ 2 := by
    rw [drawn.swRand]
    exact Nat.mod_lt _ (by positivity)
  have hostSmall : flow.hostRand - 2 < n := by
    rw [drawn.hostRand]
    exact Nat.mod_lt _ (by omega)
  have offset : flow.hostRand - 2 + 2 = flow.hostRand := by
    rw [drawn.hostRand]
    rfl
  constructor
  · exact number_lt swSmall hostSmall
  · intro address
    rw [Flow.server, mem_plannedBridges swSmall hostSmall, offset, drawn.destination]
  · rcases drawn.client.exists_drawn with ⟨earlier, clientIs⟩
    have small : (drawClient n rand earlier).1 < n ^ 3 := Nat.mod_lt _ (by positivity)
    rw [← clientIs] at small
    exact small
  · intro same
    have different := drawn.client.accepted
    simp [same] at different

end BCube

/-! ## Both generators -/

/-- For every sequence of random values, the generators of the fat tree and of BCube
come to their end exactly if they find a client for each flow.  They have then made as
many flows as they should, each of the values that come next in the sequence, and each
goes to the host that it is meant for, by the address that is assigned later, and comes
from another host. -/
theorem flows_go_to_their_servers :
    (∀ k, 2 ≤ k → k ≤ 126 → ∃ assigned, FatTree.assignAddresses k = some assigned ∧
      ∀ rand count final,
        ((∃ fuel, FatTree.generateFlows k rand fuel count = some final) ↔
          final.1.length = count ∧
            MadeInTurn (FatTree.Flow.DrawnAt k rand) final.1 final.2) ∧
        ((∃ fuel, FatTree.generateFlows k rand fuel count = some final) →
          ∀ flow ∈ final.1, flow.Aimed k assigned)) ∧
    ∀ n, 1 < n → n ≤ 15 → ∀ steps, n < steps →
      ∃ assigned, BCube.assignAddresses0 n steps = some assigned ∧
        ∀ rand count final,
          ((∃ fuel, BCube.generateFlows n rand fuel count = some final) ↔
            final.1.length = count ∧
              MadeInTurn (BCube.Flow.DrawnAt n rand) final.1 final.2) ∧
          ((∃ fuel, BCube.generateFlows n rand fuel count = some final) →
            ∀ flow ∈ final.1, flow.Aimed n assigned) := by
  constructor
  · intro k low high
    refine ⟨_, FatTree.assignAddresses_eq high, ?_⟩
    intro rand count final
    refine ⟨FatTree.exists_generateFlows_iff low high, ?_⟩
    intro generated
    exact ((FatTree.exists_generateFlows_iff low high).mp generated).2.forall_mem
      fun _ _ _ drawn => drawn.aimed low
  · intro n low high steps enough
    refine ⟨_, BCube.assignAddresses0_eq high enough, ?_⟩
    intro rand count final
    refine ⟨BCube.exists_generateFlows_iff low high, ?_⟩
    intro generated
    exact ((BCube.exists_generateFlows_iff low high).mp generated).2.forall_mem
      fun _ _ _ drawn => drawn.aimed low

/-- Four pods and four hosts, where the first client that is drawn is the server: each
generator has made one flow after it has drawn another. -/
theorem flows_go_to_their_servers_redrawn :
    (∃ assigned, FatTree.assignAddresses 4 = some assigned ∧
      ∃ flow : FatTree.Flow, flow = ⟨0, 0, 2, .ofOctets 10 0 0 2, ⟨1, 1, 1⟩⟩ ∧
        (∃ fuel, FatTree.generateFlows 4 (fun i => i / 6) fuel 1 = some ([flow], 9)) ∧
        MadeInTurn (FatTree.Flow.DrawnAt 4 (fun i => i / 6)) [flow] 9 ∧
        flow.Aimed 4 assigned) ∧
    ∃ assigned, BCube.assignAddresses0 2 3 = some assigned ∧
      ∃ flow : BCube.Flow, flow = ⟨0, 2, .ofOctets 10 0 0 2, 1⟩ ∧
        (∃ fuel, BCube.generateFlows 2 (fun i => i / 3) fuel 1 = some ([flow], 4)) ∧
        MadeInTurn (BCube.Flow.DrawnAt 2 (fun i => i / 3)) [flow] 4 ∧
        flow.Aimed 2 assigned := by
  constructor
  · rcases flows_go_to_their_servers.1 4 (by decide) (by decide) with
      ⟨assigned, ran, made⟩
    have ends : FatTree.generateFlows 4 (fun i => i / 6) 5 1 =
        some ([⟨0, 0, 2, .ofOctets 10 0 0 2, ⟨1, 1, 1⟩⟩], 9) := by decide
    rcases made (fun i => i / 6) 1 _ with ⟨drawn, aimed⟩
    exact ⟨assigned, ran, _, rfl, ⟨5, ends⟩, (drawn.mp ⟨5, ends⟩).2,
      aimed ⟨5, ends⟩ _ (List.mem_singleton_self _)⟩
  · rcases flows_go_to_their_servers.2 2 (by decide) (by decide) 3 (by decide) with
      ⟨assigned, ran, made⟩
    have ends : BCube.generateFlows 2 (fun i => i / 3) 5 1 =
        some ([⟨0, 2, .ofOctets 10 0 0 2, 1⟩], 4) := by decide
    rcases made (fun i => i / 3) 1 _ with ⟨drawn, aimed⟩
    exact ⟨assigned, ran, _, rfl, ⟨5, ends⟩, (drawn.mp ⟨5, ends⟩).2,
      aimed ⟨5, ends⟩ _ (List.mem_singleton_self _)⟩

end DataCenter
