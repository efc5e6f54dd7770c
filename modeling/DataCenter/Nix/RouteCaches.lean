import DataCenter.Nix.Guidance

/-! # Routes from vectors and caches

What a router keeps in its caches was right for another packet.  All first routes
through a router to one destination go on to the same neighbor, so it is right for
every packet. -/

namespace DataCenter.NixVectorRouting

open Std BreadthFirst BitStack NixVector

variable {Node Device Channel : Type} [DecidableEq Device]

/-! ## The route of an index -/

/-- A route goes out of a device of the node, to a device behind it. -/
structure Leads (network : Network Node Device Channel) (node : Node)
    (route : Ipv4Route Device) (remote : Device) : Prop where
  device : route.outputDevice ∈ network.devices node
  behind : remote ∈ network.behind route.outputDevice
  gateway : network.getLocal remote = some route.gateway
  source : network.getLocal route.outputDevice = some route.source

section Routes

variable {network : Network Node Device Channel} {routers : Finset Node} {node : Node}
  {remote device : Device} {route : Ipv4Route Device}

theorem behind_of_channel (attached : (network.channel device).isSome) :
    network.behind device = network.adjacent device := by
  rw [Network.behind, if_pos attached]

theorem channel_of_behind (behind : remote ∈ network.behind device) :
    (network.channel device).isSome := by
  by_contra detached
  rw [Network.behind, if_neg detached] at behind
  cases behind

/-- The device that an index stands for is behind the device that is found. -/
theorem exists_findNetDeviceFrom {rest : List Device} {nodeIndex base : UInt32} (i : Nat)
    (notBefore : base.toNat ≤ nodeIndex.toNat)
    (room : base.toNat + (rest.flatMap network.behind).length < 2 ^ 32)
    (present : (rest.flatMap network.behind)[nodeIndex.toNat - base.toNat]? =
      some remote) :
    ∃ (offset : Nat) (device : Device), rest[offset]? = some device ∧
      remote ∈ network.behind device ∧
      network.findNetDeviceFrom nodeIndex rest i base =
        (network.getLocal remote).map fun gateway => (i + offset, gateway) := by
  induction rest generalizing i base with
  | nil => cases present
  | cons first rest induction =>
      rw [List.flatMap_cons] at room present
      rw [Network.findNetDeviceFrom]
      by_cases attached : (network.channel first).isSome
      · rw [behind_of_channel attached] at room present
        rw [List.length_append] at room
        have count : (UInt32.ofNat (network.adjacent first).length).toNat =
            (network.adjacent first).length :=
          UInt32.toNat_ofNat_of_lt' (by simp only [UInt32.size]; omega)
        have total : (base + .ofNat (network.adjacent first).length).toNat =
            base.toNat + (network.adjacent first).length := by
          rw [UInt32.toNat_add, count]
          omega
        rw [if_pos attached]
        by_cases here : nodeIndex.toNat < base.toNat + (network.adjacent first).length
        · have less : nodeIndex < base + .ofNat (network.adjacent first).length := by
            rw [UInt32.lt_iff_toNat_lt, total]
            exact here
          have place : (nodeIndex - base).toNat = nodeIndex.toNat - base.toNat :=
            UInt32.toNat_sub_of_le _ _ (UInt32.le_iff_toNat_le.mpr notBefore)
          rw [List.getElem?_append_left (by omega)] at present
          refine ⟨0, first, rfl, ?_, ?_⟩
          · rw [behind_of_channel attached]
            exact List.mem_of_getElem? present
          · simp only [less, if_true, place, present, Option.bind_eq_bind,
              Option.bind_some]
            cases network.getLocal remote <;> rfl
        · have notLess : ¬ nodeIndex < base + .ofNat (network.adjacent first).length := by
            rw [UInt32.lt_iff_toNat_lt, total]
            exact here
          rw [List.getElem?_append_right (by omega)] at present
          have further : nodeIndex.toNat - base.toNat - (network.adjacent first).length =
              nodeIndex.toNat - (base +
                .ofNat (network.adjacent first).length).toNat := by
            rw [total]
            omega
          rw [further] at present
          rcases induction (i + 1) (by omega) (by omega) present with
            ⟨offset, device, found, behind, ran⟩
          have position : i + (offset + 1) = i + 1 + offset := by omega
          refine ⟨offset + 1, device, found, behind, ?_⟩
          simp only [notLess, if_false, ran, position]
      · have nothing : network.behind first = [] := by
          rw [Network.behind, if_neg attached]
        rw [nothing, List.nil_append] at room present
        rcases induction (i + 1) notBefore room present with
          ⟨offset, device, found, behind, ran⟩
        have position : i + (offset + 1) = i + 1 + offset := by omega
        refine ⟨offset + 1, device, found, behind, ?_⟩
        simp only [attached, Bool.false_eq_true, if_false, ran, position]

theorem mem_addresses_of_getLocal {address : Ipv4Address}
    (isLocal : network.getLocal device = some address) :
    ∃ own ∈ network.addresses device, own.getLocal = address := by
  rcases Option.map_eq_some_iff.mp isLocal with ⟨own, first, same⟩
  exact ⟨own, List.mem_of_head? first, same⟩

/-- A packet that is sent along a route arrives at the device that the route leads to. -/
theorem Leads.sendRealOut (leads : Leads network node route remote)
    (forwardable : Forwardable network routers) (member : node ∈ routers)
    (header : Header) (nixVector : NixVector) :
    network.sendRealOut route header nixVector =
      some [.input remote header nixVector] := by
  have works := forwardable.works node member _ leads.device
  rcases works.interface with ⟨interface, present, isUp, -⟩
  rcases works.gateway remote leads.behind with
    ⟨address, isLocal, -, notAny, notOwn, only⟩
  cases leads.gateway.symm.trans isLocal
  have attached := channel_of_behind leads.behind
  have sameAddresses : network.addresses route.outputDevice = interface.addresses := by
    simp [Network.addresses, present]
  have owned : (interface.addresses.any fun own => route.gateway = own.getLocal) =
      false := by
    rw [List.any_eq_false]
    intro own member
    have away := notOwn own (sameAddresses ▸ member)
    simpa using Ne.symm away
  rw [Network.sendRealOut, present, Option.bind_some, if_pos notAny, Network.send]
  simp only [isUp, not_true_eq_false, if_false, (works.sends attached).1,
    Bool.false_eq_true, owned]
  by_cases arp : network.needsArp route.outputDevice = true
  · rw [if_pos arp] at only
    have single :=
      forwardable.unicast node member _ leads.device arp remote leads.behind _ isLocal
    have notDirected : (interface.addresses.any fun own =>
        route.gateway.isSubnetDirectedBroadcast own.mask) = false := by
      rw [List.any_eq_false]
      intro own member
      exact Bool.eq_false_iff.mp (single.notDirected own (sameAddresses ▸ member))
    have answers : (network.behind route.outputDevice).find? (fun device =>
        (network.addresses device).any fun own => route.gateway = own.getLocal) =
          some remote := by
      cases found : (network.behind route.outputDevice).find? (fun device =>
          (network.addresses device).any fun own => route.gateway = own.getLocal) with
      | none =>
          have silent := List.find?_eq_none.mp found remote leads.behind
          rcases mem_addresses_of_getLocal leads.gateway with ⟨own, member, same⟩
          simp only [List.any_eq_true, decide_eq_true_eq, not_exists, not_and] at silent
          exact absurd same.symm (silent own member)
      | some other =>
          have answered := List.find?_some found
          rw [List.any_eq_true] at answered
          rcases answered with ⟨own, member, same⟩
          exact congrArg some (only other (List.mem_of_find?_eq_some found)
            ⟨own, member, (of_decide_eq_true same).symm⟩)
    simp only [arp, if_true, single.notBroadcast, single.notMulticast, notDirected,
      Bool.false_eq_true, if_false, answers]
    rfl
  · rw [if_neg arp] at only
    simp only [arp, only]
    rfl

/-- The vector for the node itself has one index at most, in the bits for a device. -/
theorem remaining_buildNixVectorLocalFrom {wide : UInt32 → UInt32} {count : UInt32}
    {list : List Device} {i : Nat} {built : NixVector}
    (made : network.buildNixVectorLocalFrom wide count {} list i = some built) :
    built.getRemainingBits.toNat ≤ (bitCount count).toNat := by
  induction list generalizing i with
  | nil =>
      cases made
      exact Nat.zero_le _
  | cons device rest induction =>
      rw [Network.buildNixVectorLocalFrom] at made
      rcases Option.bind_eq_some_iff.mp made with ⟨address, -, made⟩
      split at made
      · have fits : ¬ bitCount count > 32 := by
          rw [gt_iff_lt, UInt32.lt_iff_toNat_lt]
          exact Nat.not_lt.mpr (bitCount_le count)
        simp only [addNeighborIndex, UInt32.zero_add, fits, if_false] at made
        rcases Option.map_eq_some_iff.mp made with ⟨back, -, rfl⟩
        simp [getRemainingBits]
      · exact induction made

theorem extractNeighborIndex_of_few {wide : UInt32 → UInt32} {vector : NixVector}
    {numberOfBits : UInt32}
    (few : vector.getRemainingBits.toNat < numberOfBits.toNat) :
    vector.extractNeighborIndex wide numberOfBits = none := by
  rw [extractNeighborIndex]
  exact if_pos (.inr (.inl (UInt32.lt_iff_toNat_lt.mpr few)))

variable [DecidableEq Node] {next : Node}

/-- The index that a vector has for a neighbor gives a route to it. -/
theorem Routable.exists_buildRoute (routable : Routable network routers)
    (member : node ∈ routers)
    (neighbor : next ∈ network.remotes node) (dest : Ipv4Address) :
    ∃ route remote, network.buildRoute node (network.code node next).1 dest none =
      some route ∧
      Leads network node route remote ∧ network.node remote = next := by
  rcases routable.toNat_code member neighbor with ⟨index, -⟩
  have present := getElem?_destId neighbor
  rw [Network.remotes, List.getElem?_map, Option.map_eq_some_iff] at present
  rcases present with ⟨remote, found, isNext⟩
  rw [← Network.remotes, ← index] at found
  have few := routable.neighbors node member
  rw [Network.remotes, List.length_map] at few
  have notBefore : (0 : UInt32).toNat ≤ (network.code node next).1.toNat := Nat.zero_le _
  have room : (0 : UInt32).toNat +
      ((network.devices node).flatMap network.behind).length <
      2 ^ 32 := by
    rw [UInt32.toNat_zero, Nat.zero_add]
    exact few
  rcases exists_findNetDeviceFrom 0 notBefore room found with
    ⟨offset, device, isDevice, behind, ran⟩
  have deviceIn := List.mem_of_getElem? isDevice
  have works := routable.works node member device deviceIn
  rcases works.gateway remote behind with ⟨gateway, isGateway, -⟩
  have attached := channel_of_behind behind
  rcases Option.ne_none_iff_exists'.mp (works.sends attached).2 with ⟨source, isSource⟩
  refine ⟨{ destination := dest, source, gateway, outputDevice := device }, remote, ?_,
    ⟨deviceIn, behind, isGateway, isSource⟩, isNext⟩
  rw [Network.buildRoute, Network.findNetDeviceForNixIndex, ran, isGateway]
  simp [isDevice, isSource]

end Routes

/-! ## Caches -/

/-- One node takes the packets for an address, and it is the one that is searched for. -/
structure Addressed (network : Network Node Device Channel) (dest : Ipv4Address)
    (target : Node) : Prop where
  found : network.getNodeByIp dest = some target
  accepted : ∀ node, network.isDestinationAddress node dest = true ↔ node = target

theorem Addressed.unique {network : Network Node Device Channel} {dest : Ipv4Address}
    {target other : Node} (addressed : Addressed network dest target)
    (otherAddressed : Addressed network dest other) : target = other :=
  Option.some.inj (addressed.found.symm.trans otherAddressed.found)

/-- A node on the first route to a destination, and the one after it. -/
structure Onward (network : Network Node Device Channel) (node : Node)
    (dest : Ipv4Address) (next : Node) : Prop where
  exists_route : ∃ target index way, Addressed network dest target ∧
    Least network.remotes node target (index :: way) ∧
    (network.remotes node)[index]? = some next

section Onward

variable {network : Network Node Device Channel} {node next other : Node}
  {dest : Ipv4Address}

/-- All packets for a destination go on to the same node. -/
theorem Onward.unique (onward : Onward network node dest next)
    (otherOnward : Onward network node dest other) : next = other := by
  rcases onward.exists_route with ⟨target, index, way, addressed, least, present⟩
  rcases otherOnward.exists_route with
    ⟨otherTarget, otherIndex, otherWay, otherAddressed, otherLeast, otherPresent⟩
  cases addressed.unique otherAddressed
  cases least.unique otherLeast
  exact Option.some.inj (present.symm.trans otherPresent)

theorem Onward.mem_remotes (onward : Onward network node dest next) :
    next ∈ network.remotes node := by
  rcases onward.exists_route with ⟨_, _, _, _, _, present⟩
  exact List.mem_of_getElem? present

end Onward

variable [DecidableEq Node]

/-- The vector holds the indices on a route. -/
def Guides (network : Network Node Device Channel) (node : Node) (route : List Nat)
    (vector : NixVector) (taken : List Piece) : Prop :=
  ∃ left, Holds vector taken left ∧ List.Forall₂ Codes left (network.codes node route)

/-- What a router has in its caches is right. -/
structure Remembers (network : Network Node Device Channel) (node : Node)
    (router : Router Device) : Prop where
  nixVector : ∀ dest vector, router.getNixVectorInCache dest = some vector →
    ∃ target way, Addressed network dest target ∧ Least network.remotes node target way ∧
      Guides network node way vector []
  ipv4Route : ∀ dest rtentry, router.getIpv4RouteInCache dest = some rtentry →
    ∃ next, Onward network node dest next ∧
      network.buildRoute node (network.code node next).1 dest none = some rtentry
  totalNeighbors : router.totalNeighbors = 0 ∨
    router.totalNeighbors = network.findTotalNeighbors node

theorem remembers_start (network : Network Node Device Channel) (node : Node) :
    Remembers network node {} where
  nixVector dest vector present := by simp [Router.getNixVectorInCache] at present
  ipv4Route dest rtentry present := by simp [Router.getIpv4RouteInCache] at present
  totalNeighbors := .inl rfl

section Caches

variable {network : Network Node Device Channel} {routers : Finset Node}
  {wide : UInt32 → UInt32}
  {node next : Node} {dest : Ipv4Address} {target : Node} {router : Router Device}
  {vector : NixVector} {taken : List Piece} {index : Nat} {way : List Nat}

theorem Remembers.counted (remembers : Remembers network node router) :
    Remembers network node (network.counted node router) ∧
      (network.counted node router).totalNeighbors = network.findTotalNeighbors node := by
  rw [Network.counted]
  by_cases unknown : router.totalNeighbors = 0
  · rw [if_pos unknown]
    exact ⟨⟨remembers.nixVector, remembers.ipv4Route, .inr rfl⟩, rfl⟩
  · rw [if_neg unknown]
    exact ⟨remembers, remembers.totalNeighbors.resolve_left unknown⟩

/-- The vector of a router that can be reached is the one of the first route to it. -/
theorem Routable.exists_getNixVector (routable : Routable network routers)
    (wide : UInt32 → UInt32) (member : node ∈ routers)
    (addressed : Addressed network dest target) (away : node ≠ target)
    (least : Least network.remotes node target way) :
    ∃ vector, network.getNixVector wide node dest none = some (some vector) ∧
      Guides network node way vector [] := by
  rcases routable.exists_bfs member target with ⟨found, parent, searched, explored⟩
  have reached := explored.parent_iff.mpr ⟨way, least.leads⟩
  have short := least.length_lt_card member routable.closed
  have few := routable.few
  rcases routable.exists_buildNixVector wide member explored.tree reached least
    (Nat.lt_succ_of_lt (short.trans_le routable.card_le_length)) holds_empty
    (by rw [size_nil]; omega) with ⟨built, pieces, ran, holds, codes⟩
  rw [List.append_nil] at holds
  refine ⟨built, ?_, pieces, holds, codes⟩
  rw [Network.getNixVector, addressed.found]
  simp [away, searched, ran]

/-- The cache gives the vector of the first route, or a new one is built and kept. -/
theorem Remembers.exists_cachedNixVector (remembers : Remembers network node router)
    (routable : Routable network routers) (wide : UInt32 → UInt32)
    (member : node ∈ routers)
    (addressed : Addressed network dest target) (away : node ≠ target)
    (least : Least network.remotes node target way) :
    ∃ vector router', network.cachedNixVector wide node router dest none =
        some (some vector, router') ∧ Guides network node way vector [] ∧
      Remembers network node router' := by
  rw [Network.cachedNixVector]
  cases cached : router.getNixVectorInCache dest with
  | some vector =>
      rcases remembers.nixVector dest vector cached with
        ⟨stored, storedWay, storedAddressed, storedLeast, guides⟩
      cases addressed.unique storedAddressed
      cases least.unique storedLeast
      exact ⟨vector, router, rfl, guides, remembers⟩
  | none =>
      rcases routable.exists_getNixVector wide member addressed away least with
        ⟨built, made, guides⟩
      refine ⟨built,
        { router with nixCache := router.nixCache.insertIfNew dest (some built) },
        by rw [made, Option.map_some], guides, ?_⟩
      refine ⟨?_, remembers.ipv4Route, remembers.totalNeighbors⟩
      intro key stored present
      rcases getNixVectorInCache_insertIfNew present with ⟨rfl, rfl⟩ | earlier
      · exact ⟨target, way, addressed, least, guides⟩
      · exact remembers.nixVector key stored earlier

/-- The index on top of a vector is the one of the next node. -/
theorem Guides.exists_extract (keeps : ∀ word, wide word = word)
    (guides : Guides network node (index :: way) vector taken)
    (present : (network.remotes node)[index]? = some next) :
    ∃ rest top,
        vector.extractNeighborIndex wide (bitCount (network.findTotalNeighbors node)) =
        some ((network.code node next).1, rest) ∧
      Guides network next way rest (taken ++ [top]) := by
  rcases guides with ⟨left, holds, codes⟩
  rw [codes_cons present] at codes
  cases codes with
  | @cons top code rest codes topCodes restCodes =>
      have width : (bitCount (network.findTotalNeighbors node)).toNat = top.width := by
        rw [findTotalNeighbors_eq]
        exact topCodes.2.symm
      rcases holds.extract keeps width (width ▸ bitCount_pos _)
        (width ▸ bitCount_le _) with
        ⟨value, after, extracted, same, holdsAfter⟩
      have valueIs : value = (network.code node next).1 :=
        UInt32.toNat_inj.mp (same.trans topCodes.1)
      rw [valueIs] at extracted
      exact ⟨after, top, extracted, rest, holdsAfter, restCodes⟩

/-- A route that leads to the next node may be cached. -/
theorem Remembers.insert (remembers : Remembers network node router)
    {routes : ExtTreeMap Ipv4Address (Ipv4Route Device) compare}
    {route : Ipv4Route Device} (fewer : ∀ (key : Ipv4Address) (stored : Ipv4Route Device),
      routes[key]? = some stored → router.ipv4RouteCache[key]? = some stored)
    (onward : Onward network node dest next)
    (built : network.buildRoute node (network.code node next).1 dest none = some route) :
    Remembers network node
      { router with ipv4RouteCache := routes.insert dest route } := by
  refine ⟨remembers.nixVector, ?_, remembers.totalNeighbors⟩
  intro key stored present
  rcases getIpv4RouteInCache_insert present with ⟨rfl, rfl⟩ | earlier
  · exact ⟨next, onward, built⟩
  · exact remembers.ipv4Route key stored (fewer key stored earlier)

/-- A packet that is sent gets the vector of the first route, without the index that
gives the route out of the sender. -/
theorem Remembers.exists_routeOutput (remembers : Remembers network node router)
    (routable : Routable network routers) (keeps : ∀ word, wide word = word)
    (member : node ∈ routers) (addressed : Addressed network dest target)
    (away : node ≠ target) (least : Least network.remotes node target (index :: way))
    (present : (network.remotes node)[index]? = some next) :
    ∃ router' route rest top, network.routeOutput wide node router dest none =
        some (router', some (route, rest)) ∧ Remembers network node router' ∧
      network.buildRoute node (network.code node next).1 dest none = some route ∧
      Guides network next way rest [top] := by
  have onward : Onward network node dest next :=
    ⟨target, index, way, addressed, least, present⟩
  rcases remembers.exists_cachedNixVector routable wide member addressed away least with
    ⟨vector, cached, got, guides, still⟩
  rcases still.counted with ⟨counted, total⟩
  rcases guides.exists_extract keeps present with ⟨rest, top, extracted, restGuides⟩
  rcases routable.exists_buildRoute member onward.mem_remotes dest with
    ⟨route, -, built, -⟩
  let routes := (network.counted node cached).ipv4RouteCache.erase dest
  refine ⟨{ network.counted node cached with ipv4RouteCache := routes.insert dest route },
    route, rest, top, ?_, counted.insert ?_ onward built, built, restGuides⟩
  · rw [Network.routeOutput, got]
    simp [total, extracted, built, routes]
  · intro key stored found
    rw [ExtTreeMap.getElem?_erase] at found
    split at found
    · cases found
    · exact found

/-- A packet that is forwarded takes the route of the next index, from the cache
or not. -/
theorem Remembers.exists_routeInput (remembers : Remembers network node router)
    (routable : Routable network routers) (keeps : ∀ word, wide word = word)
    (member : node ∈ routers) (onward : Onward network node dest next)
    (present : (network.remotes node)[index]? = some next)
    (guides : Guides network node (index :: way) vector taken) :
    ∃ router' route rest top, network.routeInput wide node router dest vector =
        some (router', route, rest) ∧ Remembers network node router' ∧
      network.buildRoute node (network.code node next).1 dest none = some route ∧
      Guides network next way rest (taken ++ [top]) := by
  rcases remembers.counted with ⟨counted, total⟩
  rcases guides.exists_extract keeps present with ⟨rest, top, extracted, restGuides⟩
  rw [Network.routeInput, total, extracted]
  cases cached : (network.counted node router).getIpv4RouteInCache dest with
  | some route =>
      rcases counted.ipv4Route dest route cached with ⟨stored, storedOnward, built⟩
      cases onward.unique storedOnward
      exact ⟨_, route, rest, top, rfl, counted, built, restGuides⟩
  | none =>
      rcases routable.exists_buildRoute member onward.mem_remotes dest with
        ⟨route, -, built, -⟩
      let routes := (network.counted node router).ipv4RouteCache
      refine ⟨
        { network.counted node router with ipv4RouteCache := routes.insert dest route },
        route, rest, top, by
          simp [built, routes, total], counted.insert ?_ onward built, built,
        restGuides⟩
      intro key stored found
      exact found

/-- No route leads a node to itself, if indices of neighbors take more bits than the
ones of its devices. -/
theorem Remembers.routeOutput_own (remembers : Remembers network node router)
    (addressed : Addressed network dest node)
    (wider : (bitCount (.ofNat (network.devices node).length)).toNat <
      (bitCount (.ofNat (network.remotes node).length)).toNat) (wide : UInt32 → UInt32) :
    network.routeOutput wide node router dest none = none := by
  have fatal {found : NixVector} {router' : Router Device}
      (cached : network.cachedNixVector wide node router dest none =
        some (some found, router'))
      (total : (network.counted node router').totalNeighbors =
        network.findTotalNeighbors node)
      (few : found.getRemainingBits.toNat <
        (bitCount (.ofNat (network.remotes node).length)).toNat) :
      network.routeOutput wide node router dest none = none := by
    rw [Network.routeOutput, cached]
    simp only [Option.bind_eq_bind, Option.bind_some, total, findTotalNeighbors_eq,
      extractNeighborIndex_of_few few, Option.bind_none]
  cases stored : router.getNixVectorInCache dest with
  | some vector =>
      have cached : network.cachedNixVector wide node router dest none =
          some (some vector, router) := by rw [Network.cachedNixVector, stored]
      rcases remembers.nixVector dest vector stored with
        ⟨target, way, storedAddressed, least, left, holds, codes⟩
      cases addressed.unique storedAddressed
      cases least.unique (least_nil network.remotes node)
      cases codes
      have nothing : vector.getRemainingBits = 0 := by
        have same : vector.totalBitSize = vector.used :=
          UInt32.toNat_inj.mp (holds.total.trans holds.used.symm)
        rw [getRemainingBits, same, UInt32.sub_self]
      apply fatal cached remembers.counted.2
      rw [nothing]
      exact bitCount_pos _
  | none =>
      have own : network.getNixVector wide node dest none =
          (network.buildNixVectorLocal wide node {}).map some := by
        rw [Network.getNixVector, addressed.found]
        simp
      cases made : network.buildNixVectorLocal wide node {} with
      | none => simp [Network.routeOutput, Network.cachedNixVector, stored, own, made]
      | some built =>
          let kept :=
            { router with nixCache := router.nixCache.insertIfNew dest (some built) }
          have cached : network.cachedNixVector wide node router dest none =
              some (some built, kept) := by
            simp [Network.cachedNixVector, stored, own, made, kept]
          have total : (network.counted node kept).totalNeighbors =
              network.findTotalNeighbors node := by
            rw [← remembers.counted.2, Network.counted, Network.counted]
            split <;> rfl
          exact fatal cached total
            ((remaining_buildNixVectorLocalFrom made).trans_lt wider)

/-- For the address of another router, `GetNixVector` comes to its end, and it finds
nothing exactly if there is no way to that router.  Otherwise the vector has the indices
on the first of the shortest routes. -/
theorem getNixVector_finds (wide : UInt32 → UInt32) (routable : Routable network routers)
    (member : node ∈ routers) (addressed : Addressed network dest target)
    (away : node ≠ target) :
    ∃ found, network.getNixVector wide node dest none = some found ∧
      (found = none ↔ ∀ way, follow network.remotes node way ≠ some target) ∧
      ∀ vector, found = some vector →
        ∃ way, Least network.remotes node target way ∧
          Guides network node way vector [] := by
  by_cases reachable : ∃ way, follow network.remotes node way = some target
  · rcases reachable with ⟨way, leads⟩
    rcases exists_least member routable.closed leads with ⟨route, least⟩
    rcases routable.exists_getNixVector wide member addressed away least with
      ⟨vector, made, guides⟩
    refine ⟨some vector, made, ?_, ?_⟩
    · simp only [reduceCtorEq, false_iff, not_forall, not_not]
      exact ⟨way, leads⟩
    · intro same isSame
      cases isSame
      exact ⟨route, least, guides⟩
  · rcases routable.exists_bfs member target with ⟨found, parent, searched, explored⟩
    have unknown : parent target = none := by
      by_contra known
      exact reachable (explored.parent_iff.mp known)
    refine ⟨none, ?_, by simpa using reachable, by simp⟩
    rw [Network.getNixVector, addressed.found]
    simp [away, searched, Network.buildNixVector, unknown]

end Caches

end DataCenter.NixVectorRouting
