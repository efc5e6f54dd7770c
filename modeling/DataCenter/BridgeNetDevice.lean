import DataCenter.Address
import DataCenter.Portland.SwitchNetDevice

/-! # The learning bridge

`BridgeNetDevice` joins the devices of a segment.  It learns from the frames that it
forwards behind which port an address is, and forgets it after a time. -/

namespace DataCenter

open Std Portland

/-! ## The device -/

structure LearnedState (Port : Type) where
  associatedPort : Port
  expirationTime : Int

/-- The members of a bridge.  300 s is the default of `ExpirationTime`, and a time is a
number of nanoseconds. -/
structure BridgeNetDevice (Port : Type) where
  address : Mac48Address
  ports : List Port
  enableLearning : Bool := true
  expirationTime : Int := 300000000000
  learnState : ExtTreeMap Mac48Address (LearnedState Port) compare := ∅

/-- A frame that a port receives, as the port classifies it. -/
structure BridgeArrival (Port : Type) where
  now : Int
  incomingPort : Port
  src : Mac48Address
  dst : Mac48Address
  packetType : PacketType
  deriving DecidableEq, Repr

/-- What becomes of a frame: whether the bridge's own stack gets it, and the ports that
send a copy as it came. -/
structure BridgeOutcome (Port : Type) where
  bridge : BridgeNetDevice Port
  received : Bool
  sent : List Port

namespace BridgeNetDevice

variable {Port : Type}

def learn (bridge : BridgeNetDevice Port) (now : Int) (source : Mac48Address)
    (port : Port) :
    BridgeNetDevice Port :=
  if bridge.enableLearning then
    let state := { associatedPort := port, expirationTime := now + bridge.expirationTime }
    { bridge with learnState := bridge.learnState.insert source state }
  else bridge

/-- `GetLearnedState`, which removes what has expired. -/
def getLearnedState (bridge : BridgeNetDevice Port) (now : Int) (source : Mac48Address) :
    Option Port × BridgeNetDevice Port :=
  if bridge.enableLearning then
    match bridge.learnState[source]? with
    | some state =>
        if state.expirationTime > now then (some state.associatedPort, bridge)
        else (none, { bridge with learnState := bridge.learnState.erase source })
    | none => (none, bridge)
  else (none, bridge)

variable [DecidableEq Port]

/-- All ports but the one that a frame comes from. -/
def otherPorts (bridge : BridgeNetDevice Port) (incomingPort : Port) : List Port :=
  bridge.ports.filter fun port => port ≠ incomingPort

/-- `ForwardUnicast`, with the ports that send. -/
def forwardUnicast (bridge : BridgeNetDevice Port) (arrival : BridgeArrival Port) :
    List Port × BridgeNetDevice Port :=
  let bridge := bridge.learn arrival.now arrival.src arrival.incomingPort
  let (outPort, bridge) := bridge.getLearnedState arrival.now arrival.dst
  match outPort.filter fun port => port ≠ arrival.incomingPort with
  | some outPort => ([outPort], bridge)
  | none => (bridge.otherPorts arrival.incomingPort, bridge)

/-- `ForwardBroadcast`, with the ports that send. -/
def forwardBroadcast (bridge : BridgeNetDevice Port) (arrival : BridgeArrival Port) :
    List Port × BridgeNetDevice Port :=
  let bridge := bridge.learn arrival.now arrival.src arrival.incomingPort
  (bridge.otherPorts arrival.incomingPort, bridge)

def receiveFromDevice (bridge : BridgeNetDevice Port) (arrival : BridgeArrival Port) :
    BridgeOutcome Port :=
  match arrival.packetType with
  | .host => { bridge, received := decide (arrival.dst = bridge.address), sent := [] }
  | .broadcast | .multicast =>
      let (sent, bridge) := bridge.forwardBroadcast arrival
      { bridge, received := true, sent }
  | .otherhost =>
      if arrival.dst = bridge.address then { bridge, received := true, sent := [] }
      else
        let (sent, bridge) := bridge.forwardUnicast arrival
        { bridge, received := false, sent }

/-- The bridge after frames have come. -/
def after (bridge : BridgeNetDevice Port) (arrivals : List (BridgeArrival Port)) :
    BridgeNetDevice Port :=
  arrivals.foldl (fun bridge arrival => (bridge.receiveFromDevice arrival).bridge) bridge

end BridgeNetDevice

/-! ## What a bridge has heard -/

/-- Frames that a bridge with this address forwards.  From other frames it learns
nothing. -/
def BridgeArrival.IsForwarded {Port : Type} (address : Mac48Address)
    (arrival : BridgeArrival Port) : Prop :=
  match arrival.packetType with
  | .host => False
  | .broadcast | .multicast => True
  | .otherhost => arrival.dst ≠ address

instance {Port : Type} (address : Mac48Address) (arrival : BridgeArrival Port) :
    Decidable (arrival.IsForwarded address) := by
  unfold BridgeArrival.IsForwarded
  split <;> infer_instance

/-- The last frame from a source that a bridge forwarded. -/
def lastHeard {Port : Type} (address source : Mac48Address)
    (arrivals : List (BridgeArrival Port)) : Option (BridgeArrival Port) :=
  (arrivals.filter fun arrival => arrival.IsForwarded address ∧
    arrival.src = source).getLast?

/-- The port of the last frame from a source, unless that is too long ago. -/
def recentPort {Port : Type} (bridge : BridgeNetDevice Port) (now : Int)
    (source : Mac48Address) (arrivals : List (BridgeArrival Port)) : Option Port :=
  (lastHeard bridge.address source arrivals).bind fun arrival =>
    if arrival.now + bridge.expirationTime > now then some arrival.incomingPort else none

/-- The ports that a frame is meant to leave by: the one behind which its destination
was heard last, or all others. -/
def portsFor {Port : Type} [DecidableEq Port] (bridge : BridgeNetDevice Port)
    (arrivals : List (BridgeArrival Port)) (arrival : BridgeArrival Port) : List Port :=
  if arrival.IsForwarded bridge.address then
    match (if arrival.packetType = .otherhost then
        recentPort bridge arrival.now arrival.dst (arrivals ++ [arrival])
      else none).filter fun port => port ≠ arrival.incomingPort with
    | some port => [port]
    | none => bridge.otherPorts arrival.incomingPort
  else []

namespace BridgeNetDevice

variable {Port : Type} {bridge : BridgeNetDevice Port} {now later : Int}
  {source other : Mac48Address} {port incomingPort : Port}

/-! ## Learning and looking up -/

/-- Nothing but what is learned ever changes. -/
structure SameConfig (bridge next : BridgeNetDevice Port) : Prop where
  address : next.address = bridge.address
  ports : next.ports = bridge.ports
  enableLearning : next.enableLearning = bridge.enableLearning
  expirationTime : next.expirationTime = bridge.expirationTime

theorem sameConfig_refl (bridge : BridgeNetDevice Port) : SameConfig bridge bridge :=
  ⟨rfl, rfl, rfl, rfl⟩

theorem SameConfig.trans {middle next : BridgeNetDevice Port}
    (first : SameConfig bridge middle)
    (second : SameConfig middle next) : SameConfig bridge next where
  address := second.address.trans first.address
  ports := second.ports.trans first.ports
  enableLearning := second.enableLearning.trans first.enableLearning
  expirationTime := second.expirationTime.trans first.expirationTime

theorem sameConfig_learn : SameConfig bridge (bridge.learn now source port) := by
  rw [learn]
  split
  · exact ⟨rfl, rfl, rfl, rfl⟩
  · exact sameConfig_refl bridge

theorem sameConfig_getLearnedState :
    SameConfig bridge (bridge.getLearnedState now source).2 := by
  rw [getLearnedState]
  split
  · split
    · split
      · exact sameConfig_refl bridge
      · exact ⟨rfl, rfl, rfl, rfl⟩
    · exact sameConfig_refl bridge
  · exact sameConfig_refl bridge

/-- What a lookup answers. -/
theorem getLearnedState_eq (enabled : bridge.enableLearning = true) :
    (bridge.getLearnedState now source).1 = bridge.learnState[source]?.bind fun state =>
      if state.expirationTime > now then some state.associatedPort else none := by
  rw [getLearnedState, if_pos enabled]
  cases bridge.learnState[source]? with
  | none => rfl
  | some state =>
      simp only [Option.bind_some]
      split <;> rfl

theorem getLearnedState_learn (enabled : bridge.enableLearning = true) :
    ((bridge.learn now source port).getLearnedState later other).1 =
      if source = other then if now + bridge.expirationTime > later then some port
      else none
      else (bridge.getLearnedState later other).1 := by
  rw [getLearnedState_eq (sameConfig_learn.enableLearning.trans enabled),
    getLearnedState_eq enabled, learn, if_pos enabled]
  simp only [ExtTreeMap.getElem?_insert, LawfulEqCmp.compare_eq_iff_eq]
  by_cases here : source = other
  · rw [if_pos here, if_pos here]
    rfl
  · rw [if_neg here, if_neg here]

/-- A lookup removes only what later lookups would not find either. -/
theorem getLearnedState_getLearnedState (enabled : bridge.enableLearning = true)
    (inOrder : now ≤ later) :
    ((bridge.getLearnedState now source).2.getLearnedState later other).1 =
      (bridge.getLearnedState later other).1 := by
  rw [getLearnedState_eq (sameConfig_getLearnedState.enableLearning.trans enabled),
    getLearnedState_eq enabled, getLearnedState, if_pos enabled]
  cases stored : bridge.learnState[source]? with
  | none => rfl
  | some state =>
      by_cases fresh : state.expirationTime > now
      · simp only [if_pos fresh]
      · simp only [if_neg fresh, ExtTreeMap.getElem?_erase, LawfulEqCmp.compare_eq_iff_eq]
        by_cases here : source = other
        · subst here
          rw [if_pos rfl, stored, Option.bind_none, Option.bind_some, if_neg (by omega)]
        · rw [if_neg here]

/-- An address is found only behind a port behind which it was learned. -/
theorem learnState_learn {state : LearnedState Port}
    (stored : (bridge.learn now source port).learnState[other]? = some state) :
    source = other ∧ state.associatedPort = port ∨
      bridge.learnState[other]? = some state := by
  rw [learn] at stored
  split at stored
  · simp only [ExtTreeMap.getElem?_insert, LawfulEqCmp.compare_eq_iff_eq] at stored
    split at stored
    · next here =>
        cases stored
        exact .inl ⟨here, rfl⟩
    · exact .inr stored
  · exact .inr stored

theorem learnState_getLearnedState {state : LearnedState Port}
    (stored : (bridge.getLearnedState now source).2.learnState[other]? = some state) :
    bridge.learnState[other]? = some state := by
  rw [getLearnedState] at stored
  split at stored
  · split at stored
    · split at stored
      · exact stored
      · simp only [ExtTreeMap.getElem?_erase] at stored
        split at stored
        · cases stored
        · exact stored
    · exact stored
  · exact stored

theorem exists_of_getLearnedState
    (found : (bridge.getLearnedState now source).1 = some port) :
    ∃ state, bridge.learnState[source]? = some state ∧ state.associatedPort = port := by
  rw [getLearnedState] at found
  split at found
  · split at found
    · next state stored =>
        split at found
        · exact ⟨state, stored, Option.some.inj found⟩
        · cases found
    · cases found
  · cases found

/-! ## One frame -/

section Frames

variable [DecidableEq Port] {arrival : BridgeArrival Port}
  {arrivals : List (BridgeArrival Port)}

theorem otherPorts_learn :
    (bridge.learn now source port).otherPorts incomingPort =
      bridge.otherPorts incomingPort := by
  rw [otherPorts, otherPorts, sameConfig_learn.ports]

theorem otherPorts_getLearnedState :
    (bridge.getLearnedState now source).2.otherPorts incomingPort =
      bridge.otherPorts incomingPort := by
  rw [otherPorts, otherPorts, sameConfig_getLearnedState.ports]

/-- A frame is forwarded as a broadcast, forwarded as a unicast, or not forwarded. -/
theorem receiveFromDevice_cases (bridge : BridgeNetDevice Port)
    (arrival : BridgeArrival Port) :
    (¬ arrival.IsForwarded bridge.address ∧
      (bridge.receiveFromDevice arrival).bridge = bridge ∧
      (bridge.receiveFromDevice arrival).sent = []) ∨
    (arrival.IsForwarded bridge.address ∧ arrival.packetType ≠ .otherhost ∧
      (bridge.receiveFromDevice arrival).bridge =
        bridge.learn arrival.now arrival.src arrival.incomingPort ∧
      (bridge.receiveFromDevice arrival).sent = bridge.otherPorts arrival.incomingPort) ∨
    arrival.IsForwarded bridge.address ∧ arrival.packetType = .otherhost ∧
      (bridge.receiveFromDevice arrival).bridge =
        ((bridge.learn arrival.now arrival.src arrival.incomingPort).getLearnedState
          arrival.now arrival.dst).2 ∧
      (bridge.receiveFromDevice arrival).sent =
        match ((bridge.learn arrival.now arrival.src arrival.incomingPort).getLearnedState
          arrival.now arrival.dst).1.filter fun port => port ≠ arrival.incomingPort with
        | some port => [port]
        | none => bridge.otherPorts arrival.incomingPort := by
  cases isType : arrival.packetType with
  | host => simp [BridgeArrival.IsForwarded, receiveFromDevice, isType]
  | broadcast =>
      simp [BridgeArrival.IsForwarded, receiveFromDevice, forwardBroadcast, isType,
        otherPorts_learn]
  | multicast =>
      simp [BridgeArrival.IsForwarded, receiveFromDevice, forwardBroadcast, isType,
        otherPorts_learn]
  | otherhost =>
      by_cases own : arrival.dst = bridge.address
      · simp [BridgeArrival.IsForwarded, receiveFromDevice, isType, own]
      · refine .inr
          (.inr ⟨by simpa [BridgeArrival.IsForwarded, isType] using own, rfl, ?_, ?_⟩)
        · rw [receiveFromDevice, isType]
          simp only [if_neg own, forwardUnicast]
          split <;> rfl
        · rw [receiveFromDevice, isType]
          simp only [if_neg own, forwardUnicast]
          split
          · rfl
          · exact otherPorts_getLearnedState.trans otherPorts_learn

theorem sameConfig_receive :
    SameConfig bridge (bridge.receiveFromDevice arrival).bridge := by
  rcases receiveFromDevice_cases bridge arrival with
    ⟨-, isNext, -⟩ | ⟨-, -, isNext, -⟩ | ⟨-, -, isNext, -⟩
  · rw [isNext]
    exact sameConfig_refl bridge
  · rw [isNext]
    exact sameConfig_learn
  · rw [isNext]
    exact sameConfig_learn.trans sameConfig_getLearnedState

/-- What is looked up after a frame. -/
theorem getLearnedState_receive (enabled : bridge.enableLearning = true)
    (inOrder : arrival.now ≤ later) :
    ((bridge.receiveFromDevice arrival).bridge.getLearnedState later other).1 =
      if arrival.IsForwarded bridge.address ∧ arrival.src = other then
        if arrival.now + bridge.expirationTime > later then some arrival.incomingPort
        else none
      else (bridge.getLearnedState later other).1 := by
  rcases receiveFromDevice_cases bridge arrival with
    ⟨kept, isNext, -⟩ | ⟨forwarded, -, isNext, -⟩ | ⟨forwarded, -, isNext, -⟩
  · rw [isNext, if_neg fun both => kept both.1]
  · rw [isNext, getLearnedState_learn enabled]
    simp only [forwarded, true_and]
  · have stillEnabled : (bridge.learn arrival.now arrival.src
        arrival.incomingPort).enableLearning = true :=
      sameConfig_learn.enableLearning.trans enabled
    rw [isNext, getLearnedState_getLearnedState stillEnabled inOrder,
      getLearnedState_learn enabled]
    simp only [forwarded, true_and]

/-! ## Runs -/

theorem after_concat (bridge : BridgeNetDevice Port)
    (arrivals : List (BridgeArrival Port)) (arrival : BridgeArrival Port) :
    bridge.after (arrivals ++ [arrival]) =
      ((bridge.after arrivals).receiveFromDevice arrival).bridge := by
  rw [after, List.foldl_append]
  rfl

theorem sameConfig_after (bridge : BridgeNetDevice Port)
    (arrivals : List (BridgeArrival Port)) :
    SameConfig bridge (bridge.after arrivals) := by
  induction arrivals using List.reverseRecOn with
  | nil => exact sameConfig_refl bridge
  | append_singleton arrivals arrival induction =>
      rw [after_concat]
      exact induction.trans sameConfig_receive

omit [DecidableEq Port] in
theorem recentPort_concat :
    recentPort bridge later source (arrivals ++ [arrival]) =
      if arrival.IsForwarded bridge.address ∧ arrival.src = source then
        if arrival.now + bridge.expirationTime > later then some arrival.incomingPort
        else none
      else recentPort bridge later source arrivals := by
  rw [recentPort, recentPort, lastHeard, lastHeard, List.filter_append,
    List.filter_singleton]
  by_cases last : arrival.IsForwarded bridge.address ∧ arrival.src = source
  · rw [decide_eq_true last, cond_true, if_pos last, List.getLast?_concat,
      Option.bind_some]
  · rw [decide_eq_false last, cond_false, if_neg last, List.append_nil]

/-- A new bridge has learned of an address what it has heard of it. -/
theorem getLearnedState_after (enabled : bridge.enableLearning = true)
    (new : bridge.learnState = ∅)
    (inOrder : arrivals.Pairwise fun first second => first.now ≤ second.now)
    (past : ∀ arrival ∈ arrivals, arrival.now ≤ later) :
    ((bridge.after arrivals).getLearnedState later source).1 =
      recentPort bridge later source arrivals := by
  induction arrivals using List.reverseRecOn with
  | nil =>
      rw [getLearnedState_eq ((sameConfig_after bridge []).enableLearning.trans enabled)]
      simp [after, new, recentPort, lastHeard]
  | append_singleton arrivals arrival induction =>
      have same := sameConfig_after bridge arrivals
      have earlier := (List.pairwise_append.mp inOrder).1
      have before := induction earlier fun other member =>
        past other (List.mem_append_left _ member)
      rw [after_concat, getLearnedState_receive (same.enableLearning.trans enabled)
        (past arrival (by simp)), same.address, same.expirationTime, before,
          recentPort_concat]

/-- A new bridge that learns sends each frame by the ports that it is meant for: a
unicast goes only where its destination was heard last, unless that is too long ago. -/
theorem sent_after (enabled : bridge.enableLearning = true) (new : bridge.learnState = ∅)
    (inOrder : (arrivals ++ [arrival]).Pairwise fun first second =>
      first.now ≤ second.now) :
    ((bridge.after arrivals).receiveFromDevice arrival).sent =
      portsFor bridge arrivals arrival := by
  have same := sameConfig_after bridge arrivals
  rcases List.pairwise_append.mp inOrder with ⟨earlier, -, past⟩
  have before : ((bridge.after arrivals).getLearnedState arrival.now arrival.dst).1 =
      recentPort bridge arrival.now arrival.dst arrivals :=
    getLearnedState_after enabled new earlier
      fun other member => past other member arrival (List.mem_singleton_self arrival)
  rw [portsFor]
  rcases receiveFromDevice_cases (bridge.after arrivals) arrival with
    ⟨kept, -, isSent⟩ | ⟨forwarded, broadcast, -, isSent⟩ | ⟨forwarded, unicast,
      -, isSent⟩
  · rw [same.address] at kept
    rw [if_neg kept, isSent]
  · rw [same.address] at forwarded
    rw [if_pos forwarded, if_neg broadcast, isSent, otherPorts, same.ports]
    rfl
  · rw [same.address] at forwarded
    rw [if_pos forwarded, if_pos unicast, isSent,
      getLearnedState_learn (same.enableLearning.trans
      enabled), same.expirationTime, before, recentPort_concat, otherPorts, same.ports]
    simp only [forwarded, true_and]
    rfl

/-- The answer to a frame goes back by the port that the frame came from. -/
theorem sent_after_answer :
    let bridge : BridgeNetDevice Nat := { address := { octet5 := 1 }, ports := [0, 1, 2] }
    let question : BridgeArrival Nat :=
      ⟨0, 0, { octet5 := 3 }, { octet5 := 2 }, .otherhost⟩
    let answer : BridgeArrival Nat := ⟨5, 1, { octet5 := 2 }, { octet5 := 3 }, .otherhost⟩
    ((bridge.after [question]).receiveFromDevice answer).sent = [0] := by
  intro bridge question answer
  have isSent : ((bridge.after [question]).receiveFromDevice answer).sent =
      portsFor bridge [question] answer := sent_after rfl rfl (by decide)
  rw [isSent]
  decide

/-- No address is learned at a port other than its own. -/
theorem learnState_after {home : Mac48Address → Port} (new : bridge.learnState = ∅)
    (located : ∀ arrival ∈ arrivals, arrival.incomingPort = home arrival.src)
    {state : LearnedState Port}
    (stored : (bridge.after arrivals).learnState[source]? = some state) :
    state.associatedPort = home source := by
  induction arrivals using List.reverseRecOn with
  | nil =>
      rw [after, List.foldl_nil, new, ExtTreeMap.getElem?_empty] at stored
      cases stored
  | append_singleton arrivals arrival induction =>
      have before :=
        induction fun other member => located other (List.mem_append_left _ member)
      have learned (stored : ((bridge.after arrivals).learn arrival.now arrival.src
          arrival.incomingPort).learnState[source]? = some state) :
          state.associatedPort = home source := by
        rcases learnState_learn stored with ⟨here, isPort⟩ | earlier
        · rw [isPort, ← here, located arrival (by simp)]
        · exact before earlier
      rw [after_concat] at stored
      rcases receiveFromDevice_cases (bridge.after arrivals) arrival with
        ⟨-, isNext, -⟩ | ⟨-, -, isNext, -⟩ | ⟨-, -, isNext, -⟩
      · exact before (isNext ▸ stored)
      · exact learned (isNext ▸ stored)
      · exact learned (learnState_getLearnedState (isNext ▸ stored))

/-- Whatever a new bridge has learned and forgotten, if each address is behind one port:
a frame that it forwards leaves by the port of its destination exactly once, and never
by the port that it came from. -/
theorem sent_to_home {home : Mac48Address → Port} (new : bridge.learnState = ∅)
    (located : ∀ other ∈ arrivals ++ [arrival], other.incomingPort = home other.src)
    (nodup : bridge.ports.Nodup) (member : home arrival.dst ∈ bridge.ports)
    (away : home arrival.dst ≠ arrival.incomingPort)
    (forwarded : arrival.IsForwarded bridge.address) :
    ((bridge.after arrivals).receiveFromDevice arrival).sent.count
      (home arrival.dst) = 1 ∧
      arrival.incomingPort ∉
        ((bridge.after arrivals).receiveFromDevice arrival).sent := by
  have same := sameConfig_after bridge arrivals
  have others : ((bridge.after arrivals).otherPorts arrival.incomingPort).count
        (home arrival.dst) = 1 ∧
      arrival.incomingPort ∉ (bridge.after arrivals).otherPorts arrival.incomingPort := by
    rw [otherPorts, same.ports]
    refine ⟨?_, by simp⟩
    apply List.count_eq_one_of_mem (nodup.filter _)
    exact List.mem_filter.mpr ⟨member, decide_eq_true away⟩
  rcases receiveFromDevice_cases (bridge.after arrivals) arrival with
    ⟨kept, -, -⟩ | ⟨-, -, -, isSent⟩ | ⟨-, -, -, isSent⟩
  · rw [same.address] at kept
    exact absurd forwarded kept
  · rw [isSent]
    exact others
  · rw [isSent]
    split
    · next port isPort =>
        rcases Option.filter_eq_some_iff.mp isPort with ⟨found, different⟩
        rcases exists_of_getLearnedState found with ⟨state, stored, isState⟩
        have isHome : port = home arrival.dst := by
          rw [← isState]
          rcases learnState_learn stored with ⟨here, isIncoming⟩ | earlier
          · rw [isIncoming, ← here, located arrival (by simp)]
          · exact learnState_after new
              (fun other member => located other (List.mem_append_left _ member)) earlier
        subst isHome
        exact ⟨by simp, by simpa using fun same => away same.symm⟩
    · exact others

/-- A bridge that has heard of an address, and forgets it again when a frame comes for
it too late, still sends the next frame to its port. -/
theorem sent_to_home_forgotten :
    let bridge : BridgeNetDevice Nat := { address := { octet5 := 1 }, ports := [0, 1, 2] }
    let question : BridgeArrival Nat :=
      ⟨0, 0, { octet5 := 3 }, { octet5 := 2 }, .otherhost⟩
    let answer : BridgeArrival Nat := ⟨5, 1, { octet5 := 2 }, { octet5 := 3 }, .otherhost⟩
    let late : BridgeArrival Nat :=
      ⟨bridge.expirationTime + 5, 2, { octet5 := 4 }, { octet5 := 2 }, .otherhost⟩
    let again : BridgeArrival Nat := { question with now := bridge.expirationTime + 6 }
    ((bridge.after [question, answer]).learnState[({ octet5 := 2 } : Mac48Address)]?).map
        LearnedState.associatedPort = some 1 ∧
      ((bridge.after [question, answer, late]).learnState[
        ({ octet5 := 2 } : Mac48Address)]?).isNone ∧
      ((bridge.after [question, answer, late]).receiveFromDevice again).sent.count 1 = 1 ∧
      0 ∉ ((bridge.after [question, answer, late]).receiveFromDevice again).sent := by
  intro bridge question answer late again
  let home : Mac48Address → Nat := fun address =>
    if address = { octet5 := 2 } then 1 else if address = { octet5 := 4 } then 2 else 0
  have delivered := @sent_to_home Nat bridge _ again [question, answer, late] home rfl
    (by decide) (by decide) (by decide) (by decide) (by decide)
  exact ⟨by decide, by decide, delivered⟩

end Frames

end BridgeNetDevice

end DataCenter
