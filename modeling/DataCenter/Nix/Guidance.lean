import DataCenter.Nix.Forwarding

/-! # Nix-vectors that lead to their destination

In a network whose routers work, the indices of a nix-vector follow the first of the
shortest routes. -/

namespace DataCenter.NixVectorRouting

open BreadthFirst BitStack NixVector

variable {Node Device Channel : Type} [DecidableEq Device]

namespace Network

/-- The nodes behind the devices of a node. -/
def remotes (network : Network Node Device Channel) (node : Node) : List Node :=
  ((network.devices node).flatMap network.behind).map network.node

/-- A device of a router works, and what it sends to one of the devices behind it
arrives there. -/
structure Works (network : Network Node Device Channel) (device : Device) : Prop where
  notBridge : network.isBridge device = false
  linkUp : network.isLinkUp device = true
  interface : ∃ interface, network.interface device = some interface ∧
    interface.isUp = true ∧
    ((network.channel device).isSome → interface.isForwarding = true)
  sends : (network.channel device).isSome → network.isLoopback device = false ∧
    network.getLocal device ≠ none
  gateway : ∀ remote ∈ network.behind device, ∃ address,
    network.getLocal remote = some address ∧ address ≠ {} ∧ address ≠ .getAny ∧
      (∀ own ∈ network.addresses device, own.getLocal ≠ address) ∧
      if network.needsArp device then
        ∀ other ∈ network.behind device,
          (∃ own ∈ network.addresses other, own.getLocal = address) → other = remote
      else network.behind device = [remote]

end Network

/-- Routers whose devices work, and which lead to routers only. -/
structure Routable (network : Network Node Device Channel) (routers : Finset Node) :
    Prop where
  listed : ∀ node ∈ routers, node ∈ network.nodes
  works : ∀ node ∈ routers, ∀ device ∈ network.devices node, network.Works device
  leads : ∀ node ∈ routers, ∀ device ∈ network.devices node,
    ∀ remote ∈ network.behind device,
    network.node remote ∈ routers ∧ remote ∈ network.devices (network.node remote) ∧
      (network.channel remote).isSome
  neighbors : ∀ node ∈ routers, (network.remotes node).length < 2 ^ 32
  few : routers.card < 2 ^ 27

/-- ARP is asked for the address: it is not one that goes to many. -/
structure Network.IsUnicast (network : Network Node Device Channel) (device : Device)
    (address : Ipv4Address) : Prop where
  notBroadcast : address.isBroadcast = false
  notMulticast : address.isMulticast = false
  notDirected : ∀ own ∈ network.addresses device,
    address.isSubnetDirectedBroadcast own.mask = false

/-- Routers that forward to each other by addresses that go to one device only. -/
structure Forwardable (network : Network Node Device Channel)
    (routers : Finset Node) : Prop extends Routable network routers where
  unicast : ∀ node ∈ routers, ∀ device ∈ network.devices node, network.needsArp device =
    true →
    ∀ remote ∈ network.behind device, ∀ address, network.getLocal remote = some address →
      network.IsUnicast device address

section Scans

variable {network : Network Node Device Channel} {routers : Finset Node} {node : Node}

theorem Routable.closed (routable : Routable network routers) :
    ∀ node ∈ routers, ∀ next ∈ network.remotes node, next ∈ routers := by
  intro node member next remote
  rcases List.mem_map.mp remote with ⟨device, behind, rfl⟩
  rcases List.mem_flatMap.mp behind with ⟨port, portIn, adjacent⟩
  exact (routable.leads node member port portIn device adjacent).1

theorem map_behind (network : Network Node Device Channel) (list : List Device) :
    list.flatMap (fun device => (network.behind device).map network.node) =
      (list.flatMap network.behind).map network.node :=
  List.map_flatMap.symm

/-- The search goes to all neighbors of a router. -/
theorem Routable.passages_eq (routable : Routable network routers)
    (member : node ∈ routers) :
    network.passages node = some (network.remotes node) := by
  rw [Network.remotes, ← map_behind]
  apply collect_eq
  intro device deviceIn
  have works := routable.works node member device deviceIn
  rcases works.interface with ⟨interface, present, isUp, -⟩
  rw [present, Option.map_some, Network.passage, Network.behind]
  by_cases attached : (network.channel device).isSome
  · simp [isUp, works.linkUp, attached]
  · simp [attached]

/-- The neighbors whose index a vector gives are the ones that the search goes to. -/
theorem Routable.neighbors_eq (routable : Routable network routers)
    (member : node ∈ routers) :
    network.neighbors node = network.remotes node := by
  have all : (network.devices node).filter (fun device => ¬ network.isBridge device) =
      network.devices node := by
    apply List.filter_eq_self.mpr
    intro device deviceIn
    simp [(routable.works node member device deviceIn).notBridge]
  rw [Network.neighbors, all, map_behind, Network.remotes]

theorem findTotalNeighbors_eq (network : Network Node Device Channel) (node : Node) :
    network.findTotalNeighbors node = .ofNat (network.remotes node).length := by
  rw [Network.findTotalNeighbors, Network.remotes, List.length_map]

theorem Routable.toNat_length (routable : Routable network routers)
    (member : node ∈ routers) :
    (UInt32.ofNat (network.remotes node).length).toNat = (network.remotes node).length :=
  UInt32.toNat_ofNat_of_lt' (routable.neighbors node member)

/-! ## The search -/

variable [DecidableEq Node]

/-- The search of a router is a breadth-first search. -/
theorem Routable.loop_bfsTurn (routable : Routable network routers) (source dest : Node)
    {fuel : Nat} {search : Search Node} (queued : ∀ node ∈ search.queue, node ∈ routers) :
    loop (network.bfsTurn source dest none) fuel search =
      (loop (turn network.remotes dest) fuel search).map some := by
  induction fuel generalizing search with
  | zero => rfl
  | succ fuel induction =>
      cases queue : search.queue with
      | nil =>
          have left : network.bfsTurn source dest none search =
              .leave (some (false, search.parent)) := by
            simp [Network.bfsTurn, queue]
          have leftToo :
              turn network.remotes dest search = .leave (false, search.parent) := by
            simp [turn, queue]
          rw [loop_succ_of_leave left, loop_succ_of_leave leftToo, Option.map_some]
      | cons current rest =>
          have currentIn : current ∈ routers := queued current (by simp [queue])
          by_cases arrived : current = dest
          · have left : network.bfsTurn source dest none search =
                .leave (some (true, search.parent)) := by
              simp [Network.bfsTurn, queue, arrived]
            have leftToo :
                turn network.remotes dest search = .leave (true, search.parent) := by
              simp [turn, queue, arrived]
            rw [loop_succ_of_leave left, loop_succ_of_leave leftToo, Option.map_some]
          · have goesOn : network.bfsTurn source dest none search = .again
                { (network.remotes current).foldl (discover current) search with
                  queue :=
                    ((network.remotes current).foldl (discover current)
                      search).queue.tail } := by
              simp [Network.bfsTurn, queue, arrived, routable.passages_eq currentIn]
            have goesOnToo : turn network.remotes dest search = .again
                { (network.remotes current).foldl (discover current) search with
                  queue :=
                    ((network.remotes current).foldl (discover current)
                      search).queue.tail } := by
              simp [turn, queue, arrived]
            rw [loop_succ_of_again goesOn, loop_succ_of_again goesOnToo]
            apply induction
            intro node waiting
            rcases mem_queue_of_discover (List.mem_of_mem_tail waiting) with
              before | neighbour
            · exact queued node before
            · exact routable.closed current currentIn node neighbour

theorem Routable.card_le_length (routable : Routable network routers) :
    routers.card ≤ network.nodes.length := by
  apply le_trans (Finset.card_le_card ?_) (List.toFinset_card_le network.nodes)
  intro node member
  exact List.mem_toFinset.mpr (routable.listed node member)

/-- With the fuel that it has, the search of a router comes to its end. -/
theorem Routable.exists_bfs (routable : Routable network routers) {source : Node}
    (member : source ∈ routers) (dest : Node) :
    ∃ found parent, network.bfs source dest none = some (found, parent) ∧
      Explored network.remotes source dest found parent := by
  rcases exists_explored member routable.closed dest
    (Nat.lt_succ_of_le routable.card_le_length) with ⟨found, parent, ended, explored⟩
  have queued : ∀ node ∈ (start source).queue, node ∈ routers := by
    intro node waiting
    rw [List.mem_singleton.mp waiting]
    exact member
  refine ⟨found, parent, ?_, explored⟩
  rw [Network.bfs, routable.loop_bfsTurn source dest queued, ended]
  rfl

end Scans

/-! ## The vector of a route -/

variable [DecidableEq Node]

theorem destId_append_singleton (neighbors : List Node) (last dest : Node) :
    Network.destId (neighbors ++ [last]) dest =
      if last = dest then neighbors.length else Network.destId neighbors dest := by
  simp [Network.destId, List.zipIdx_append]

/-- The index that a vector gets for a neighbor leads to it. -/
theorem getElem?_destId {neighbors : List Node} {dest : Node}
    (member : dest ∈ neighbors) :
    neighbors[Network.destId neighbors dest]? = some dest := by
  induction neighbors using List.reverseRecOn with
  | nil => cases member
  | append_singleton neighbors last induction =>
      rw [destId_append_singleton]
      by_cases same : last = dest
      · simp [same]
      · have earlier : dest ∈ neighbors := by simpa [Ne.symm same] using member
        have found := induction earlier
        rw [if_neg same, List.getElem?_append_left (List.getElem?_eq_some_iff.mp found).1,
          found]

namespace Network

/-- The index of a neighbor, with the bits that it is given. -/
def code (network : Network Node Device Channel) (node next : Node) : UInt32 × UInt32 :=
  (.ofNat (destId (network.remotes node) next),
    bitCount (.ofNat (network.remotes node).length))

/-- The indices of the nodes on a route. -/
def codes (network : Network Node Device Channel) : Node → List Nat →
    List (UInt32 × UInt32)
  | _, [] => []
  | node, index :: route =>
      match (network.remotes node)[index]? with
      | some next => network.code node next :: network.codes next route
      | none => []

end Network

section Vectors

variable {network : Network Node Device Channel} {routers : Finset Node}
  {source node next dest : Node} {route : List Nat} {index : Nat}

theorem codes_cons (present : (network.remotes node)[index]? = some next)
    (route : List Nat) :
    network.codes node (index :: route) = network.code node next ::
      network.codes next route := by
  rw [Network.codes, present]

theorem codes_append_singleton (leads : follow network.remotes source route = some node)
    (present : (network.remotes node)[index]? = some next) :
    network.codes source (route ++ [index]) =
      network.codes source route ++ [network.code node next] := by
  induction route generalizing source with
  | nil =>
      cases leads
      exact codes_cons present []
  | cons first route induction =>
      rcases Option.bind_eq_some_iff.mp leads with ⟨middle, firstLeads, rest⟩
      rw [List.cons_append, codes_cons firstLeads, codes_cons firstLeads, induction rest,
        List.cons_append]

theorem Routable.toNat_code (routable : Routable network routers)
    (member : node ∈ routers) (neighbor : next ∈ network.remotes node) :
    (network.code node next).1.toNat = Network.destId (network.remotes node) next ∧
      Network.destId (network.remotes node) next < (network.remotes node).length := by
  have below := (List.getElem?_eq_some_iff.mp (getElem?_destId neighbor)).1
  exact ⟨UInt32.toNat_ofNat_of_lt' (below.trans (routable.neighbors node member)), below⟩

/-- The index of a neighbor fits in the bits that it is given. -/
theorem Routable.code_fits (routable : Routable network routers) (member : node ∈ routers)
    (neighbor : next ∈ network.remotes node) :
    (network.code node next).1.toNat < 2 ^ (network.code node next).2.toNat := by
  rcases routable.toNat_code member neighbor with ⟨same, below⟩
  rw [same]
  apply lt_two_pow_bitCount
  rwa [routable.toNat_length member]

/-- `BuildNixVector` puts the indices of the first route onto the vector, the first one
on top. -/
theorem Routable.exists_buildNixVector (routable : Routable network routers)
    (wide : UInt32 → UInt32) (member : source ∈ routers) {parent : Node → Option Node}
    (tree : Tree network.remotes source parent) (found : parent dest ≠ none)
    (least : Least network.remotes source dest route) {fuel : Nat}
    (enough : route.length < fuel)
    {vector : NixVector} {left : List Piece} (holds : Holds vector [] left)
    (room : 32 * route.length + size left < 2 ^ 32) :
    ∃ built pieces, network.buildNixVector wide parent source fuel dest vector =
        some (true, built) ∧ Holds built [] (pieces ++ left) ∧
      List.Forall₂ Codes pieces (network.codes source route) := by
  induction route using List.reverseRecOn generalizing dest fuel vector left with
  | nil =>
      cases least.leads
      cases fuel with
      | zero => cases enough
      | succ fuel =>
          rw [Network.buildNixVector, if_pos rfl]
          exact ⟨vector, [], rfl, holds, List.Forall₂.nil⟩
  | append_singleton init last induction =>
      have elsewhere : dest ≠ source := by
        intro same
        subst same
        have empty := least.unique (least_nil network.remotes dest)
        simp at empty
      rcases Option.ne_none_iff_exists'.mp found with ⟨before, isBefore⟩
      rcases tree.branch dest before isBefore elsewhere with
        ⟨known, way, index, leastBefore, leastDest⟩
      rcases List.append_inj' (leastDest.unique least) rfl with ⟨rfl, -⟩
      rcases follow_append_singleton.mp least.leads with ⟨node, leads, present⟩
      cases leastBefore.leads.symm.trans leads
      have beforeIn := mem_of_follow member routable.closed leads
      have neighbor := List.mem_of_getElem? present
      have few := bitCount_le (.ofNat (network.remotes before).length)
      cases fuel with
      | zero => cases enough
      | succ fuel =>
          simp only [List.length_append, List.length_singleton] at enough room
          have top : (network.code before dest).2.toNat ≤ 32 := few
          rcases holds.add wide (routable.code_fits beforeIn neighbor) (bitCount_pos _)
            few (by omega) with ⟨next, added, more⟩
          have shorter : way.length < fuel := by omega
          have still : 32 * way.length +
              size (piece _ _ (routable.code_fits beforeIn neighbor) :: left) <
                2 ^ 32 := by
            rw [size_cons]
            simp only [piece]
            omega
          rcases induction known leastBefore shorter more still with
            ⟨built, pieces, ran, all, codes⟩
          refine ⟨built, pieces ++ [piece _ _ (routable.code_fits beforeIn neighbor)], ?_,
            by simpa using all, ?_⟩
          · rw [Network.buildNixVector, if_neg (Ne.symm elsewhere), isBefore]
            have pushed : vector.addNeighborIndex wide
                (.ofNat (Network.destId (network.remotes before) dest))
                (bitCount (.ofNat (network.remotes before).length)) = some next := added
            simp only [routable.neighbors_eq beforeIn, pushed, ran, Option.bind_eq_bind,
              Option.bind_some]
            rfl
          · rw [codes_append_singleton leastBefore.leads present]
            exact List.rel_append codes (List.Forall₂.cons ⟨rfl, rfl⟩ List.Forall₂.nil)

end Vectors

end DataCenter.NixVectorRouting
