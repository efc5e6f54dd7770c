import DataCenter.Foundation.Route
import DataCenter.Nix.RouteCaches

/-! # Delivery under nix-vector routing

Every packet to a router that can be reached takes the first of the shortest routes
and is delivered exactly once, whatever else is on its way and whatever the caches
hold. -/

namespace DataCenter.NixVectorRouting

open BreadthFirst BitStack NixVector Courier

variable {Node Device Channel : Type} [DecidableEq Device]

/-! ## Packets on their way -/

/-- A packet for another router, with a time to live that is long enough for the first
route. -/
structure Sends (network : Network Node Device Channel) (routers : Finset Node)
    (source : Node) (header : Header) (target : Node) (way : List Nat) : Prop where
  member : source ∈ routers
  addressed : Addressed network header.destination target
  away : source ≠ target
  least : Least network.remotes source target way
  ttl : way.length ≤ header.ttl.toNat

theorem Sends.exists_cons {network : Network Node Device Channel}
    {routers : Finset Node} {source target : Node} {header : Header} {way : List Nat}
    (sends : Sends network routers source header target way) :
    ∃ index rest next, way = index :: rest ∧
      (network.remotes source)[index]? = some next ∧
      follow network.remotes next rest = some target := by
  cases way with
  | nil => exact absurd (Option.some.inj sends.least.leads) sends.away
  | cons index rest =>
      rcases Option.bind_eq_some_iff.mp sends.least.leads with ⟨next, present, onward⟩
      exact ⟨index, rest, next, rfl, present, onward⟩

variable [DecidableEq Node]

/-- A packet that arrives at a device with the vector for the rest of the way. -/
structure Carried (network : Network Node Device Channel) (routers : Finset Node)
    (device : Device)
    (header : Header) (vector : NixVector) (target : Node) (way : List Nat) : Prop where
  member : network.node device ∈ routers
  port : device ∈ network.devices (network.node device)
  channel : (network.channel device).isSome
  addressed : Addressed network header.destination target
  least : Least network.remotes (network.node device) target way
  guides : ∃ taken, Guides network (network.node device) way vector taken
  ttl : way.length < header.ttl.toNat

/-- A node that the first route passes, and the rest of the way from there. -/
def OnRoute (network : Network Node Device Channel) (source target node : Node)
    (way : List Nat) : Prop :=
  ∃ before, Least network.remotes source target (before ++ way) ∧
    follow network.remotes source before = some node

/-- The source address that a packet gets: the one of the device that leads to the next
node. -/
def Departs (network : Network Node Device Channel) (source : Node)
    (dest address : Ipv4Address) : Prop :=
  ∃ next route, Onward network source dest next ∧
    network.buildRoute source (network.code source next).1 dest none = some route ∧
    route.source = address

theorem Departs.unique {network : Network Node Device Channel} {source : Node}
    {dest address other : Ipv4Address} (departs : Departs network source dest address)
    (otherDeparts : Departs network source dest other) : address = other := by
  rcases departs with ⟨next, route, onward, built, rfl⟩
  rcases otherDeparts with ⟨otherNext, otherRoute, otherOnward, otherBuilt, rfl⟩
  cases onward.unique otherOnward
  cases built.symm.trans otherBuilt
  rfl

/-- Packets are sent between some pairs of routers. -/
def Network.Permits (network : Network Node Device Channel) (routers : Finset Node)
    (between : Node → Node → Prop) : Message Node Device → Prop
  | .output source header =>
      ∃ target way, between source target ∧ Sends network routers source header target way
  | .input _ _ _ => False

/-- A packet that is sent between a pair, or is on its first route from one to the
other, with the address that its sender gave it. -/
def Network.Fits (network : Network Node Device Channel) (routers : Finset Node)
    (between : Node → Node → Prop) : Message Node Device → Prop
  | .output source header =>
      ∃ target way, between source target ∧ Sends network routers source header target way
  | .input device header vector => ∃ source target way, between source target ∧
      OnRoute network source target (network.node device) way ∧
      Departs network source header.destination header.source ∧
      Carried network routers device header vector target way

/-- Who sent a packet, by the address of its source unless it has just been sent. -/
def Network.SentBy (network : Network Node Device Channel) (source : Node) :
    Message Node Device → Prop
  | .output node _ => node = source
  | .input _ header _ => Departs network source header.destination header.source

/-- A packet is at a node on the first route from its sender to the node that it
is for. -/
theorem Fits.exists_onRoute {network : Network Node Device Channel}
    {routers : Finset Node} {between : Node → Node → Prop} {message : Message Node Device}
    (fits : network.Fits routers between message) :
    ∃ source target way, between source target ∧ network.SentBy source message ∧
      Addressed network message.header.destination target ∧
      OnRoute network source target (network.handler message) way := by
  cases message with
  | output source header =>
      rcases fits with ⟨target, way, pair, sends⟩
      exact ⟨source, target, way, pair, rfl, sends.addressed, [], sends.least, rfl⟩
  | input device header vector =>
      rcases fits with ⟨source, target, way, pair, onRoute, departs, carried⟩
      exact ⟨source, target, way, pair, departs, carried.addressed, onRoute⟩

section Hops

variable {network : Network Node Device Channel} {routers : Finset Node}
  {wide : UInt32 → UInt32}
  {system : Node → Router Device} {source node next target : Node}
  {device remote : Device}
  {header : Header} {vector : NixVector} {index : Nat} {way : List Nat}
  {route : Ipv4Route Device}

/-- The device that a route leads to carries the packet on. -/
theorem Leads.carried (leads : Leads network node route remote)
    (routable : Routable network routers) (member : node ∈ routers)
    (addressed : Addressed network header.destination target)
    (least : Least network.remotes node target (index :: way))
    (present : (network.remotes node)[index]? = some (network.node remote))
    {taken : List Piece} (guides : Guides network (network.node remote) way vector taken)
    (ttl : way.length < header.ttl.toNat) :
    Carried network routers remote header vector target way := by
  rcases routable.leads node member _ leads.device remote leads.behind with
    ⟨isRouter, isDevice, channel⟩
  have onward : follow network.remotes node [index] = some (network.node remote) := by
    simp [follow, present]
  have suffix : Least network.remotes node target ([index] ++ way) := least
  exact ⟨isRouter, isDevice, channel, addressed, suffix.suffix onward,
    ⟨taken, guides⟩, ttl⟩

/-- The first hop of a packet: the route that its source has for it, out of one of its
devices, and the device behind that one at which it arrives. -/
structure FirstHop (network : Network Node Device Channel) (source : Node)
    (dest : Ipv4Address)
    (index : Nat) (route : Ipv4Route Device) (remote : Device) : Prop where
  next : (network.remotes source)[index]? = some (network.node remote)
  built : network.buildRoute source (network.code source (network.node remote)).1 dest
    none = some route
  leads : Leads network source route remote

theorem Sends.exists_firstHop
    (sends : Sends network routers source header target (index :: way))
    (routable : Routable network routers) :
    ∃ route remote, FirstHop network source header.destination index route remote := by
  rcases Option.bind_eq_some_iff.mp sends.least.leads with ⟨next, present, -⟩
  rcases routable.exists_buildRoute sends.member (List.mem_of_getElem? present)
    header.destination with ⟨route, remote, built, leads, rfl⟩
  exact ⟨route, remote, present, built, leads⟩

theorem FirstHop.departs
    (hop : FirstHop network source header.destination index route remote)
    (sends : Sends network routers source header target (index :: way)) :
    Departs network source header.destination route.source :=
  ⟨_, route, ⟨target, index, way, sends.addressed, sends.least, hop.next⟩, hop.built, rfl⟩

/-- A sender gives its packet the vector and the source of the first route, and sends it
on. -/
theorem FirstHop.exists_handle
    (hop : FirstHop network source header.destination index route remote)
    (sends : Sends network routers source header target (index :: way))
    (forwardable : Forwardable network routers) (keeps : ∀ word, wide word = word)
    (remembers : Remembers network source (system source)) :
    ∃ router vector,
      network.handle wide system (.output source header) () = some
        { system := Function.update system source router
          outputs := [.input remote { header with source := route.source } vector] } ∧
      Remembers network source router ∧
      Carried network routers remote { header with source := route.source } vector target
        way := by
  have ttl := sends.ttl
  rw [List.length_cons] at ttl
  rcases remembers.exists_routeOutput forwardable.toRoutable keeps sends.member
    sends.addressed
    sends.away sends.least hop.next with
      ⟨router, same, vector, top, routed, still, built, guides⟩
  cases hop.built.symm.trans built
  have works := forwardable.works source sends.member _ hop.leads.device
  rcases works.gateway remote hop.leads.behind with ⟨address, isLocal, notUnset, -⟩
  cases hop.leads.gateway.symm.trans isLocal
  refine ⟨router, vector, ?_, still, hop.leads.carried forwardable.toRoutable sends.member
    sends.addressed sends.least hop.next guides ttl⟩
  rw [Network.handle, routed]
  simp [notUnset, hop.leads.sendRealOut forwardable sends.member]

theorem toNat_sub_one {ttl : UInt8} (more : 1 ≤ ttl.toNat) :
    (ttl - 1).toNat = ttl.toNat - 1 :=
  UInt8.toNat_sub_of_le _ _ (UInt8.le_iff_toNat_le.mpr more)

/-- A router on the way forwards the packet to the next one. -/
theorem Carried.exists_handle
    (carried : Carried network routers device header vector target (index :: way))
    (forwardable : Forwardable network routers) (keeps : ∀ word, wide word = word)
    (remembers : Remembers network (network.node device) (system (network.node device))) :
    ∃ router remote rest,
        network.handle wide system (.input device header vector) () = some
        { system := Function.update system (network.node device) router
          outputs := [.input remote { header with ttl := header.ttl - 1 } rest] } ∧
      Remembers network (network.node device) router ∧
      (network.remotes (network.node device))[index]? = some (network.node remote) ∧
      Carried network routers remote { header with ttl := header.ttl - 1 } rest target
        way := by
  rcases carried.guides with ⟨taken, guides⟩
  rcases Option.bind_eq_some_iff.mp carried.least.leads with ⟨next, present, -⟩
  have onward : Onward network (network.node device) header.destination next :=
    ⟨target, index, way, carried.addressed, carried.least, present⟩
  have ttl := carried.ttl
  rw [List.length_cons] at ttl
  have less : (header.ttl - 1).toNat = header.ttl.toNat - 1 := toNat_sub_one (by omega)
  rcases remembers.exists_routeInput forwardable.toRoutable keeps carried.member onward
    present guides with ⟨router, route, rest, top, routed, still, built, restGuides⟩
  rcases forwardable.exists_buildRoute carried.member (List.mem_of_getElem? present)
    header.destination with ⟨same, remote, builtToo, leads, rfl⟩
  cases built.symm.trans builtToo
  have inside := forwardable.works _ carried.member device carried.port
  rcases inside.interface with ⟨interface, isInterface, isUp, forwards⟩
  have notMine : network.isDestinationAddress (network.node device) header.destination =
      false := by
    rw [← Bool.not_eq_true, carried.addressed.accepted]
    intro same
    have least := carried.least
    rw [same] at least
    cases least.unique (least_nil network.remotes target)
  have alive : header.ttl - 1 ≠ 0 := by
    intro expired
    rw [expired, UInt8.toNat_zero] at less
    omega
  refine ⟨router, remote, rest, ?_, still, present,
    leads.carried forwardable.toRoutable carried.member carried.addressed carried.least
      present restGuides (by rw [less]; omega)⟩
  rw [Network.handle, isInterface]
  simp [isUp, notMine, forwards carried.channel, routed, Network.ipForward, alive,
    leads.sendRealOut forwardable carried.member]

/-- The router with the address delivers the packet. -/
theorem Carried.handle_eq
    (carried : Carried network routers device header vector target [])
    (routable : Routable network routers) :
    network.handle wide system (.input device header vector) () = some
      { system, deliveries := [(target, header)] } := by
  have here : network.node device = target := Option.some.inj carried.least.leads
  have inside := routable.works _ carried.member device carried.port
  rcases inside.interface with ⟨interface, isInterface, isUp, -⟩
  have mine := (carried.addressed.accepted target).mpr rfl
  rw [Network.handle, isInterface]
  simp [isUp, mine, here]

end Hops

/-! ## Runs -/

/-- The routers remember what is right, and packets in flight have a vector for the rest
of their way. -/
def routedTraffic (network : Network Node Device Channel) (routers : Finset Node)
    (between : Node → Node → Prop) :
    Discipline (Node → Router Device) (Message Node Device) Unit (Node × Header) where
  Good _ system := ∀ node, Remembers network node (system node)
  Fit _ message := network.Fits routers between message
  Due _ _ := True

section Runs

variable {network : Network Node Device Channel} {routers : Finset Node}
  {wide : UInt32 → UInt32}
  {system : Node → Router Device} {source target : Node} {header : Header}
  {between : Node → Node → Prop}

theorem remembers_update {node : Node} {router : Router Device}
    (remembers : ∀ node, Remembers network node (system node))
    (still : Remembers network node router) (other : Node) :
    Remembers network other (Function.update system node router other) := by
  by_cases same : other = node
  · subst same
    rwa [Function.update_self]
  · rw [Function.update_of_ne same]
    exact remembers other

/-- What a handling leaves behind, and what it sends. -/
theorem Forwardable.handled (forwardable : Forwardable network routers)
    (keeps : ∀ word, wide word = word)
    (remembers : ∀ node, Remembers network node (system node))
    {message : Message Node Device} (fits : network.Fits routers between message)
    {handling : Handling (Node → Router Device) (Message Node Device) (Node × Header)}
    (handled : network.handle wide system message () = some handling) :
    (∀ node, Remembers network node (handling.system node)) ∧
      ∀ output ∈ handling.outputs, network.Fits routers between output := by
  cases message with
  | output source header =>
      rcases fits with ⟨target, way, pair, sends⟩
      rcases sends.exists_cons with ⟨index, later, -, rfl, -⟩
      rcases sends.exists_firstHop forwardable.toRoutable with ⟨route, remote, hop⟩
      rcases hop.exists_handle sends forwardable keeps (remembers source) with
        ⟨router, vector, result, still, carried⟩
      cases handled.symm.trans result
      refine ⟨remembers_update remembers still, ?_⟩
      intro output member
      rw [List.mem_singleton.mp member]
      exact ⟨source, target, later, pair,
        ⟨[index], sends.least, by simp [follow, hop.next]⟩, hop.departs sends, carried⟩
  | input device header vector =>
      rcases fits with
        ⟨source, target, way, pair, ⟨before, least, leads⟩, departs, carried⟩
      cases way with
      | nil =>
          cases handled.symm.trans (carried.handle_eq forwardable.toRoutable)
          exact ⟨remembers, by simp⟩
      | cons index way =>
          rcases carried.exists_handle forwardable keeps (remembers _) with
            ⟨router, remote, rest, result, still, present, further⟩
          cases handled.symm.trans result
          refine ⟨remembers_update remembers still, ?_⟩
          intro output member
          rw [List.mem_singleton.mp member]
          exact ⟨source, target, way, pair, ⟨before ++ [index], by simpa using least,
            follow_append_singleton.mpr ⟨_, leads, present⟩⟩, departs, further⟩

theorem routedTraffic_kept (forwardable : Forwardable network routers)
    (keeps : ∀ word, wide word = word) (between : Node → Node → Prop) :
    (routedTraffic network routers between).Kept (network.handle wide)
      (network.Permits routers between) where
  fit_of_permitted {past system message} _ allowed := by
    cases message with
    | output source header => exact allowed
    | input device header vector => exact allowed.elim
  good_after legal := (forwardable.handled keeps legal.good legal.fit legal.makes).1
  fit_after _ _ fits := fits
  due_after _ _ _ := trivial
  fit_outputs legal := (forwardable.handled keeps legal.good legal.fit legal.makes).2
  due_deliveries _ _ _ := trivial

/-- The header of a packet after so many nodes that forwarded it. -/
def forwardedHeader (header : Header) (address : Ipv4Address) (forwards : Nat) : Header :=
  { header with source := address, ttl := .ofNat (header.ttl.toNat - forwards) }

/-- Where a packet is, by the number of hops that lie ahead of it. -/
inductive OnCourse (network : Network Node Device Channel) (routers : Finset Node)
    (source : Node)
    (header : Header) (target : Node) (address : Ipv4Address) (total : Nat) :
    Nat → Message Node Device → Prop where
  | sent {way : List Nat} (sends : Sends network routers source header target way)
      (length : way.length = total) :
      OnCourse network routers source header target address total total
        (.output source header)
  | carried {device : Device} {vector : NixVector} {way : List Nat} {forwards : Nat}
      (carried : Carried network routers device (forwardedHeader header address forwards)
        vector target way)
      (length : way.length + forwards + 1 = total) (enough : total ≤ header.ttl.toNat) :
      OnCourse network routers source header target address total way.length
        (.input device (forwardedHeader header address forwards) vector)

theorem toNat_forwarded_ttl (header : Header) (forwards : Nat) :
    (UInt8.ofNat (header.ttl.toNat - forwards)).toNat = header.ttl.toNat - forwards := by
  have bound := header.ttl.toNat_lt
  exact UInt8.toNat_ofNat_of_lt' (by simp only [UInt8.size]; omega)

theorem forwardedHeader_succ {header : Header} (address : Ipv4Address) {forwards : Nat}
    (more : forwards < header.ttl.toNat) :
    { forwardedHeader header address forwards with
      ttl := (forwardedHeader header address forwards).ttl - 1 } =
      forwardedHeader header address (forwards + 1) := by
  have ttl : UInt8.ofNat (header.ttl.toNat - forwards) - 1 =
      .ofNat (header.ttl.toNat - (forwards + 1)) := by
    rw [← UInt8.toNat_inj, toNat_sub_one, toNat_forwarded_ttl, toNat_forwarded_ttl]
    · omega
    · rw [toNat_forwarded_ttl]
      omega
  simp [forwardedHeader, ttl]

/-- Every hop is possible and leads one stage further. -/
theorem OnCourse.advance (forwardable : Forwardable network routers)
    (keeps : ∀ word, wide word = word)
    (remembers : ∀ node, Remembers network node (system node)) {address : Ipv4Address}
    (departs : Departs network source header.destination address) {total remaining : Nat}
    {message : Message Node Device}
    (course : OnCourse network routers source header target address total (remaining + 1)
      message) :
    ∃ next output, network.handle wide system message () = some
        { system := next, outputs := [output] } ∧
      OnCourse network routers source header target address total remaining output := by
  generalize stageIs : remaining + 1 = stage at course
  cases course with
  | @sent way sends length =>
      rcases sends.exists_cons with ⟨index, later, -, rfl, -⟩
      rcases sends.exists_firstHop forwardable.toRoutable with ⟨route, remote, hop⟩
      rcases hop.exists_handle sends forwardable keeps (remembers source) with
        ⟨router, vector, result, -, carried⟩
      have sameSource : route.source = address := (hop.departs sends).unique departs
      have ahead : later.length = remaining := by
        rw [List.length_cons] at length
        omega
      have sameHeader : { header with source := route.source } =
          forwardedHeader header address 0 := by
        simp [forwardedHeader, sameSource]
      rw [sameHeader] at carried result
      have enough := sends.ttl
      rw [length] at enough
      refine ⟨_, _, result, ?_⟩
      rw [← ahead]
      exact .carried carried (by omega) enough
  | @carried device vector way forwards carried length enough =>
      cases way with
      | nil => cases stageIs
      | cons index way =>
          rcases carried.exists_handle forwardable keeps (remembers _) with
            ⟨router, remote, rest, result, -, -, further⟩
          rw [List.length_cons] at length stageIs
          cases stageIs
          rw [forwardedHeader_succ address (by omega)] at further result
          exact ⟨_, _, result, .carried further (by omega) enough⟩

theorem OnCourse.arrive (routable : Routable network routers) {address : Ipv4Address}
    {total : Nat} {message : Message Node Device}
    (course : OnCourse network routers source header target address total 0 message) :
    network.handle wide system message () = some
      { system,
        deliveries := [(target, forwardedHeader header address (total - 1))] } := by
  generalize stageIs : 0 = stage at course
  cases course with
  | @sent way sends length =>
      rw [← stageIs, List.length_eq_zero_iff] at length
      subst length
      exact absurd (Option.some.inj sends.least.leads) sends.away
  | @carried device vector way forwards carried length enough =>
      cases List.length_eq_zero_iff.mp stageIs.symm
      have last : forwards = total - 1 := by
        rw [List.length_nil] at length
        omega
      rw [← last]
      exact carried.handle_eq routable

/-- The course of a packet. -/
def course (forwardable : Forwardable network routers) (keeps : ∀ word, wide word = word)
    {address : Ipv4Address} (departs : Departs network source header.destination address)
    (target : Node) (total : Nat) :
    Route (routedTraffic network routers between) (network.handle wide) where
  stage remaining _ message :=
    OnCourse network routers source header target address total remaining message
  goal := (target, forwardedHeader header address (total - 1))
  stage_after _ _ _ stage := stage
  advance good stage _ := stage.advance forwardable keeps good departs
  arrive _ stage _ := ⟨_, stage.arrive forwardable.toRoutable⟩

section Reachable

variable {state : Courier.State (Node → Router Device) (Message Node Device) Unit
  (Node × Header)}
  {way : List Nat}

theorem Sends.exactlyOnce (sends : Sends network routers source header target way)
    (forwardable : Forwardable network routers) (keeps : ∀ word, wide word = word)
    (reached : (step (network.handle wide)).Reachable
      (Event.Permitted (network.Permits routers between)) { system := fun _ => {} } state)
    (pair : between source target) {address : Ipv4Address}
    (departs : Departs network source header.destination address) :
    ExactlyOnce (network.handle wide) (network.Permits routers between)
      (state.post (.output source header)) state.sent
      { tag := state.sent
        hops := way.length
        content := (target, forwardedHeader header address (way.length - 1)) } := by
  have kept := routedTraffic_kept forwardable keeps between
  have holds := kept.holds_of_reachable (remembers_start network) reached
  have allowed : network.Permits routers between (.output source header) :=
    ⟨target, way, pair, sends⟩
  have posts :
      (Event.send (.output source header) : Event (Message Node Device) Unit).Permitted
      (network.Permits routers between) := allowed
  exact (course forwardable keeps departs target way.length).exactlyOnce kept
    (kept.holds_step holds posts rfl) (holds.tagged.unspent_post _) (.sent sends rfl)

/-- The routers of every reachable state remember what is right. -/
theorem Forwardable.remembers_of_reachable (forwardable : Forwardable network routers)
    (keeps : ∀ word, wide word = word)
    (reached : (step (network.handle wide)).Reachable
      (Event.Permitted (network.Permits routers between)) { system := fun _ => {} } state)
    (node : Node) : Remembers network node (state.system node) :=
  ((routedTraffic_kept forwardable keeps between).holds_of_reachable
    (remembers_start network) reached).good node

/-- Every packet that was handled was on its first route. -/
theorem Forwardable.fits_of_visited (forwardable : Forwardable network routers)
    (keeps : ∀ word, wide word = word)
    (reached : (step (network.handle wide)).Reachable
      (Event.Permitted (network.Permits routers between)) { system := fun _ => {} } state)
    {visit : Visit (Message Node Device) Unit (Node × Header)}
    (member : visit ∈ state.visits) :
    network.Fits routers between visit.parcel.content := by
  have kept := routedTraffic_kept forwardable keeps between
  rcases kept.legal_of_reachable (remembers_start network) reached visit member with
    ⟨past, system, next, legal⟩
  exact legal.fit

/-- A router with more bits for its neighbors than for its devices cannot send to
itself. -/
theorem Forwardable.handle_own (forwardable : Forwardable network routers)
    (keeps : ∀ word, wide word = word)
    (reached : (step (network.handle wide)).Reachable
      (Event.Permitted (network.Permits routers between)) { system := fun _ => {} } state)
    (addressed : Addressed network header.destination source)
    (wider : (bitCount (.ofNat (network.devices source).length)).toNat <
      (bitCount (.ofNat (network.remotes source).length)).toNat) :
    network.handle wide state.system (.output source header) () = none := by
  have remembers := forwardable.remembers_of_reachable keeps reached source
  rw [Network.handle, remembers.routeOutput_own addressed wider]
  rfl

/-- A packet to a router that can be reached is delivered exactly once: at that router,
after as many hops as the shortest way has, with the address of the device that it left
its source by and with a time to live that has gone down by one at each node in between.
In every state its source hands it to the one device behind that device to which the
route leads. -/
theorem delivered_exactly_once (forwardable : Forwardable network routers)
    (keeps : ∀ word, wide word = word)
    (reached : (step (network.handle wide)).Reachable
      (Event.Permitted (network.Permits routers between)) { system := fun _ => {} } state)
    (pair : between source target)
    (sends : Sends network routers source header target way) :
    ∃ index later route remote, way = index :: later ∧
      FirstHop network source header.destination index route remote ∧
      Departs network source header.destination route.source ∧
      (∀ other, (step (network.handle wide)).Reachable
          (Event.Permitted (network.Permits routers between)) { system := fun _ => {} }
            other →
        ∃ router vector,
          network.handle wide other.system (.output source header) () = some
          { system := Function.update other.system source router
            outputs := [.input remote { header with source := route.source } vector] }) ∧
      ExactlyOnce (network.handle wide) (network.Permits routers between)
        (state.post (.output source header)) state.sent
        { tag := state.sent
          hops := way.length
          content :=
            (target, forwardedHeader header route.source (way.length - 1)) } := by
  rcases sends.exists_cons with ⟨index, later, -, rfl, -⟩
  rcases sends.exists_firstHop forwardable.toRoutable with ⟨route, remote, hop⟩
  refine ⟨index, later, route, remote, rfl, hop, hop.departs sends, ?_,
    sends.exactlyOnce forwardable keeps reached pair (hop.departs sends)⟩
  intro other otherReached
  rcases hop.exists_handle sends forwardable keeps
    (forwardable.remembers_of_reachable keeps otherReached source) with
    ⟨router, vector, result, -, -⟩
  exact ⟨router, vector, result⟩

end Reachable

end Runs

end DataCenter.NixVectorRouting
