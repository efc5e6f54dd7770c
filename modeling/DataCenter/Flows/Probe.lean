import DataCenter.Address
import DataCenter.Flows.RunningDifference

/-! # The probes

`Ipv4FlowClassifier` numbers the flows, and an `Ipv4FlowProbe` at each node tells the
monitor what becomes of the packets there.  All probes share the classifier and the
monitor. -/

namespace DataCenter

/-- 255.255.255.255. -/
def Ipv4Address.getBroadcast : Ipv4Address := ⟨0xffffffff⟩

namespace Flows

open Std OrderedMap

/-! ## The classifier -/

structure FiveTuple where
  sourceAddress : Ipv4Address
  destinationAddress : Ipv4Address
  protocol : UInt8
  sourcePort : UInt16
  destinationPort : UInt16
  deriving DecidableEq, Repr

namespace FiveTuple

/-- `operator <` -/
instance : Ord FiveTuple where
  compare := compareLex (compareOn sourceAddress) <|
    compareLex (compareOn destinationAddress) <|
    compareLex (compareOn protocol) <|
      compareLex (compareOn sourcePort) (compareOn destinationPort)

instance : TransOrd FiveTuple :=
  inferInstanceAs <| TransCmp <| compareLex (compareOn sourceAddress) <|
    compareLex (compareOn destinationAddress) <| compareLex (compareOn protocol) <|
      compareLex (compareOn sourcePort) (compareOn destinationPort)

instance : LawfulEqOrd FiveTuple where
  eq_of_compare {left right} equal := by
    have allEqual : compareLex (compareOn sourceAddress) (compareLex
      (compareOn destinationAddress) <| compareLex (compareOn protocol) <|
        compareLex (compareOn sourcePort) (compareOn destinationPort)) left right =
          .eq := equal
    cases left
    cases right
    simpa [compareLex, compareOn, Ordering.then_eq_eq, LawfulEqOrd.compare_eq_iff_eq]
      using allEqual

end FiveTuple

/-- What is read of a packet: fields of its IP header, the ports of its transport header
and the size of both with the payload. -/
structure FlowPacket where
  source : Ipv4Address
  destination : Ipv4Address
  protocol : UInt8
  identification : UInt16
  sourcePort : UInt16
  destinationPort : UInt16
  size : UInt32
  deriving DecidableEq, Repr

def tcpProtNumber : UInt8 := 6

def udpProtNumber : UInt8 := 17

namespace FlowPacket

def fiveTuple (packet : FlowPacket) : FiveTuple where
  sourceAddress := packet.source
  destinationAddress := packet.destination
  protocol := packet.protocol
  sourcePort := packet.sourcePort
  destinationPort := packet.destinationPort

/-- Broadcasts and other protocols are not classified. -/
def IsClassified (packet : FlowPacket) : Prop :=
  packet.destination ≠ .getBroadcast ∧
    (packet.protocol = udpProtNumber ∨ packet.protocol = tcpProtNumber)

instance (packet : FlowPacket) : Decidable packet.IsClassified :=
  inferInstanceAs (Decidable (_ ∧ (_ ∨ _)))

end FlowPacket

structure Ipv4FlowClassifier where
  flowMap : ExtTreeMap FiveTuple UInt32 compare := ∅
  lastNewFlowId : UInt32 := 0

namespace Ipv4FlowClassifier

/-- `Classify`, which gives a packet the key under which the monitor tracks it. -/
def classify (classifier : Ipv4FlowClassifier) (packet : FlowPacket) :
    Option TrackedKey × Ipv4FlowClassifier :=
  if packet.IsClassified then
    match classifier.flowMap[packet.fiveTuple]? with
    | some flowId => (some ⟨flowId, packet.identification.toUInt32⟩, classifier)
    | none =>
        let flowId := classifier.lastNewFlowId + 1
        (some ⟨flowId, packet.identification.toUInt32⟩,
          { flowMap := classifier.flowMap.insert packet.fiveTuple flowId
            lastNewFlowId := flowId })
  else (none, classifier)

/-- `FindFlow`; `none` if the flow is not there, which is fatal. -/
def findFlow (classifier : Ipv4FlowClassifier) (flowId : UInt32) : Option FiveTuple :=
  (scan classifier.flowMap fun found => found = flowId).map Prod.fst

end Ipv4FlowClassifier

/-! ## The probes -/

/-- `Ipv4L3Protocol::DropReason` -/
inductive DropReason where
  | ttlExpired
  | noRoute
  | badChecksum
  | interfaceDown
  | routeError
  | fragmentTimeout
  deriving DecidableEq, Repr

/-- `Ipv4FlowProbe::DropReason`, where 3 is `DROP_QUEUE`. -/
def DropReason.myReason : DropReason → UInt32
  | noRoute => 0
  | ttlExpired => 1
  | badChecksum => 2
  | interfaceDown => 4
  | routeError => 5
  | fragmentTimeout => 6

def dropQueue : UInt32 := 3

/-- `Ipv4FlowProbeTag` -/
structure FlowTag where
  flowId : UInt32
  packetId : UInt32
  packetSize : UInt32
  deriving DecidableEq, Repr

/-- The classifier and the monitor of a simulation. -/
structure Monitoring where
  classifier : Ipv4FlowClassifier := {}
  monitor : FlowMonitor := {}

namespace FlowPacket

variable (packet : FlowPacket) (key : TrackedKey)

def firstTx : Report := .firstTx key.flowId key.packetId packet.size

def forwarding : Report := .forwarding key.flowId key.packetId packet.size

def lastRx : Report := .lastRx key.flowId key.packetId packet.size

def drop (reason : DropReason) : Report :=
  .drop key.flowId key.packetId packet.size reason.myReason

end FlowPacket

namespace Monitoring

variable (state : Monitoring) (now : Int) (packet : FlowPacket)

/-- A logger reports a packet that is classified. -/
def logger (report : TrackedKey → Report) : Option Monitoring :=
  match state.classifier.classify packet with
  | (some key, classifier) =>
      (state.monitor.step ⟨now, report key⟩).map fun monitor => { classifier, monitor }
  | (none, classifier) => some { state with classifier }

def sendOutgoingLogger : Option Monitoring := state.logger now packet packet.firstTx

def forwardLogger : Option Monitoring := state.logger now packet packet.forwarding

def forwardUpLogger : Option Monitoring := state.logger now packet packet.lastRx

def dropLogger (reason : DropReason) : Option Monitoring :=
  state.logger now packet (packet.drop · reason)

/-- `QueueDropLogger` sees no header.  It asserts that the packet has the tag that
`SendOutgoingLogger` gave it. -/
def queueDropLogger (tag : Option FlowTag) : Option Monitoring := do
  let tag ← tag
  let monitor ← state.monitor.step
    ⟨now, .drop tag.flowId tag.packetId tag.packetSize dropQueue⟩
  return { state with monitor }

end Monitoring

/-- The traces that probes are connected to, and what the scheduler and the program tell
the monitor. -/
inductive Signal where
  | sendOutgoing (packet : FlowPacket)
  | unicastForward (packet : FlowPacket)
  | localDeliver (packet : FlowPacket)
  | drop (packet : FlowPacket) (reason : DropReason)
  | queueDrop (tag : Option FlowTag)
  | checkForLostPackets (maxDelay : Int)
  | periodicCheck
  | startRightNow
  | stopRightNow
  deriving DecidableEq, Repr

/-- A signal at a time of the simulator. -/
structure Moment where
  now : Int
  signal : Signal
  deriving DecidableEq, Repr

namespace Monitoring

/-- What the monitor is told without a probe. -/
def told (state : Monitoring) (event : Event) : Option Monitoring :=
  (state.monitor.step event).map fun monitor => { state with monitor }

/-- What a signal does. -/
def step : PartialStep Monitoring Moment
  | state, ⟨now, .sendOutgoing packet⟩ => state.sendOutgoingLogger now packet
  | state, ⟨now, .unicastForward packet⟩ => state.forwardLogger now packet
  | state, ⟨now, .localDeliver packet⟩ => state.forwardUpLogger now packet
  | state, ⟨now, .drop packet reason⟩ => state.dropLogger now packet reason
  | state, ⟨now, .queueDrop tag⟩ => state.queueDropLogger now tag
  | state, ⟨now, .checkForLostPackets maxDelay⟩ =>
      state.told ⟨now, .checkForLostPackets maxDelay⟩
  | state, ⟨now, .periodicCheck⟩ => state.told ⟨now, .periodicCheck⟩
  | state, ⟨now, .startRightNow⟩ => state.told ⟨now, .startRightNow⟩
  | state, ⟨now, .stopRightNow⟩ => state.told ⟨now, .stopRightNow⟩

end Monitoring

/-! ## Flows in the order in which they begin -/

/-- The flows after a packet more. -/
def addFlow (flows : List FiveTuple) (packet : FlowPacket) : List FiveTuple :=
  if packet.IsClassified ∧ packet.fiveTuple ∉ flows then flows ++ [packet.fiveTuple]
  else flows

/-- The packet that a probe classifies. -/
def Signal.packet? : Signal → Option FlowPacket
  | .sendOutgoing packet => some packet
  | .unicastForward packet => some packet
  | .localDeliver packet => some packet
  | .drop packet _ => some packet
  | _ => none

/-- The flows after a signal more. -/
def Moment.flowsAfter (flows : List FiveTuple) (moment : Moment) : List FiveTuple :=
  match moment.signal.packet? with
  | some packet => addFlow flows packet
  | none => flows

/-- The flows of a run. -/
def flowsOf (moments : List Moment) : List FiveTuple :=
  moments.foldl Moment.flowsAfter []

/-- The number of a flow. -/
def flowNumber (flows : List FiveTuple) (tuple : FiveTuple) : UInt32 :=
  .ofNat (flows.idxOf tuple + 1)

/-- The key of a packet: the number of its flow, and its identification. -/
def keyIn (flows : List FiveTuple) (packet : FlowPacket) : Option TrackedKey :=
  if packet.IsClassified then
    some ⟨flowNumber flows packet.fiveTuple, packet.identification.toUInt32⟩
  else none

/-- What the monitor is told, if the flows are numbered in this order. -/
def Moment.report (flows : List FiveTuple) : Moment → Option Event
  | ⟨now, .sendOutgoing packet⟩ =>
      (keyIn flows packet).map fun key => ⟨now, packet.firstTx key⟩
  | ⟨now, .unicastForward packet⟩ =>
      (keyIn flows packet).map fun key => ⟨now, packet.forwarding key⟩
  | ⟨now, .localDeliver packet⟩ =>
      (keyIn flows packet).map fun key => ⟨now, packet.lastRx key⟩
  | ⟨now, .drop packet reason⟩ =>
      (keyIn flows packet).map fun key => ⟨now, packet.drop key reason⟩
  | ⟨now, .queueDrop tag⟩ =>
      tag.map fun tag => ⟨now, .drop tag.flowId tag.packetId tag.packetSize dropQueue⟩
  | ⟨now, .checkForLostPackets maxDelay⟩ => some ⟨now, .checkForLostPackets maxDelay⟩
  | ⟨now, .periodicCheck⟩ => some ⟨now, .periodicCheck⟩
  | ⟨now, .startRightNow⟩ => some ⟨now, .startRightNow⟩
  | ⟨now, .stopRightNow⟩ => some ⟨now, .stopRightNow⟩

/-- The classifier has numbered these flows. -/
structure Numbers (classifier : Ipv4FlowClassifier) (flows : List FiveTuple) : Prop where
  nodup : flows.Nodup
  last : classifier.lastNewFlowId = .ofNat flows.length
  flowMap : ∀ tuple, classifier.flowMap[tuple]? =
    if tuple ∈ flows then some (flowNumber flows tuple) else none

section Flows

variable {flows more : List FiveTuple} {packet : FlowPacket} {tuple : FiveTuple}

theorem flowNumber_append (present : tuple ∈ flows) :
    flowNumber (flows ++ more) tuple = flowNumber flows tuple := by
  rw [flowNumber, flowNumber, List.idxOf_append_of_mem present]

theorem flowNumber_concat (new : tuple ∉ flows) :
    flowNumber (flows ++ [tuple]) tuple = .ofNat flows.length + 1 := by
  rw [flowNumber, List.idxOf_append_of_notMem new, List.idxOf_cons_self]
  simp [UInt32.ofNat_add]

theorem keyIn_append (present : packet.IsClassified → packet.fiveTuple ∈ flows) :
    keyIn (flows ++ more) packet = keyIn flows packet := by
  rw [keyIn, keyIn]
  split
  · next classified => rw [flowNumber_append (present classified)]
  · rfl

theorem addFlow_of_mem (present : packet.fiveTuple ∈ flows) :
    addFlow flows packet = flows :=
  if_neg fun both => both.2 present

theorem addFlow_of_new (classified : packet.IsClassified)
    (new : packet.fiveTuple ∉ flows) :
    addFlow flows packet = flows ++ [packet.fiveTuple] :=
  if_pos ⟨classified, new⟩

theorem addFlow_of_not_classified (unclassified : ¬ packet.IsClassified) :
    addFlow flows packet = flows :=
  if_neg fun both => unclassified both.1

theorem mem_addFlow (classified : packet.IsClassified) :
    packet.fiveTuple ∈ addFlow flows packet := by
  by_cases present : packet.fiveTuple ∈ flows
  · rwa [addFlow_of_mem present]
  · rw [addFlow_of_new classified present]
    exact List.mem_append_right _ (List.mem_singleton_self _)

theorem exists_addFlow (flows : List FiveTuple) (packet : FlowPacket) :
    ∃ more, addFlow flows packet = flows ++ more := by
  rw [addFlow]
  split
  · exact ⟨_, rfl⟩
  · exact ⟨[], (List.append_nil flows).symm⟩

theorem exists_flowsAfter (flows : List FiveTuple) (moment : Moment) :
    ∃ more, moment.flowsAfter flows = flows ++ more := by
  rw [Moment.flowsAfter]
  split
  · exact exists_addFlow flows _
  · exact ⟨[], (List.append_nil flows).symm⟩

theorem exists_foldl_flowsAfter (flows : List FiveTuple) (moments : List Moment) :
    ∃ more, moments.foldl Moment.flowsAfter flows = flows ++ more := by
  induction moments generalizing flows with
  | nil => exact ⟨[], (List.append_nil flows).symm⟩
  | cons moment moments induction =>
      rcases exists_flowsAfter flows moment with ⟨first, isFirst⟩
      rcases induction (moment.flowsAfter flows) with ⟨rest, isRest⟩
      refine ⟨first ++ rest, ?_⟩
      rw [List.foldl_cons, isRest, isFirst, List.append_assoc]

/-- What is reported at a signal does not depend on the flows that begin later. -/
theorem report_append (flows more : List FiveTuple) (moment : Moment) :
    moment.report (moment.flowsAfter flows ++ more) =
      moment.report (moment.flowsAfter flows) := by
  have same (packet : FlowPacket) :
      keyIn (addFlow flows packet ++ more) packet = keyIn (addFlow flows packet) packet :=
    keyIn_append mem_addFlow
  rcases moment with ⟨now, signal⟩
  cases signal with
  | sendOutgoing packet => exact congrArg (Option.map _) (same packet)
  | unicastForward packet => exact congrArg (Option.map _) (same packet)
  | localDeliver packet => exact congrArg (Option.map _) (same packet)
  | drop packet reason => exact congrArg (Option.map _) (same packet)
  | queueDrop tag => rfl
  | checkForLostPackets maxDelay => rfl
  | periodicCheck => rfl
  | startRightNow => rfl
  | stopRightNow => rfl

end Flows

/-! ## The classifier numbers the flows -/

section Classifier

variable {classifier : Ipv4FlowClassifier} {flows : List FiveTuple}

theorem numbers_start : Numbers {} [] where
  nodup := List.nodup_nil
  last := rfl
  flowMap tuple := by simp

theorem Numbers.concat (numbers : Numbers classifier flows) {tuple : FiveTuple}
    (new : tuple ∉ flows) :
    Numbers { flowMap := classifier.flowMap.insert tuple (classifier.lastNewFlowId + 1)
              lastNewFlowId := classifier.lastNewFlowId + 1 } (flows ++ [tuple]) where
  nodup := by
    rw [List.nodup_append]
    refine ⟨numbers.nodup, List.nodup_singleton _, ?_⟩
    intro other member last isLast same
    exact new (List.mem_singleton.mp isLast ▸ same ▸ member)
  last := by
    rw [numbers.last, List.length_append, List.length_singleton, UInt32.ofNat_add]
    rfl
  flowMap other := by
    simp only [ExtTreeMap.getElem?_insert, LawfulEqCmp.compare_eq_iff_eq, numbers.flowMap,
      List.mem_append, List.mem_singleton]
    by_cases here : tuple = other
    · subst here
      rw [if_pos rfl, if_pos (.inr rfl), flowNumber_concat new, numbers.last]
    · rw [if_neg here]
      by_cases present : other ∈ flows
      · rw [if_pos present, if_pos (.inl present), flowNumber_append present]
      · rw [if_neg present, if_neg]
        intro either
        exact either.elim present fun same => here same.symm

/-- A packet gets the key that it has among the flows, its own included. -/
theorem Numbers.classify (numbers : Numbers classifier flows) (packet : FlowPacket) :
    (classifier.classify packet).1 = keyIn (addFlow flows packet) packet ∧
      Numbers (classifier.classify packet).2 (addFlow flows packet) := by
  rw [Ipv4FlowClassifier.classify, keyIn]
  by_cases classified : packet.IsClassified
  · rw [if_pos classified, if_pos classified, numbers.flowMap]
    by_cases present : packet.fiveTuple ∈ flows
    · rw [if_pos present, addFlow_of_mem present]
      exact ⟨rfl, numbers⟩
    · rw [if_neg present, addFlow_of_new classified present, flowNumber_concat present,
        ← numbers.last]
      exact ⟨rfl, numbers.concat present⟩
  · rw [if_neg classified, if_neg classified, addFlow_of_not_classified classified]
    exact ⟨rfl, numbers⟩

/-- A flow number stands for one flow exactly if there are not too many flows for 32
bits. -/
theorem flowNumber_inj_iff (nodup : flows.Nodup) :
    (∀ first ∈ flows, ∀ second ∈ flows,
        flowNumber flows first = flowNumber flows second → first = second) ↔
      flows.length ≤ 2 ^ 32 := by
  constructor
  · intro injective
    by_contra many
    have start : 0 < flows.length := by omega
    have wrapped : 2 ^ 32 < flows.length := by omega
    have same := injective _ (List.getElem_mem start) _ (List.getElem_mem wrapped) (by
      rw [flowNumber, flowNumber, nodup.idxOf_getElem, nodup.idxOf_getElem]
      rfl)
    cases (nodup.getElem_inj_iff).mp same
  · intro few first firstMem second secondMem same
    have firstSmall := List.idxOf_lt_length_of_mem firstMem
    have secondSmall := List.idxOf_lt_length_of_mem secondMem
    have numbers := congrArg UInt32.toNat same
    rw [flowNumber, flowNumber, UInt32.toNat_ofNat', UInt32.toNat_ofNat'] at numbers
    apply (List.idxOf_inj firstMem).mp
    omega

/-- `FindFlow` finds a flow by its number. -/
theorem Numbers.findFlow (numbers : Numbers classifier flows)
    (few : flows.length ≤ 2 ^ 32) (flowId : UInt32) (tuple : FiveTuple) :
    classifier.findFlow flowId = some tuple ↔
      tuple ∈ flows ∧ flowNumber flows tuple = flowId := by
  have stored_iff (other : FiveTuple) (found : UInt32) :
      classifier.flowMap[other]? = some found ↔
        other ∈ flows ∧ flowNumber flows other = found := by
    rw [numbers.flowMap]
    split
    · next present => simp [present]
    · next absent => simp [absent]
  rw [Ipv4FlowClassifier.findFlow, Option.map_eq_some_iff]
  constructor
  · intro found
    rcases found with ⟨element, scanned, rfl⟩
    have listed := (stored_iff _ _).mp (getElem?_of_scan scanned)
    have passes := test_of_scan scanned
    exact ⟨listed.1, listed.2.trans (of_decide_eq_true passes)⟩
  · intro numbered
    refine ⟨(tuple, flowId),
      scan_eq_some_of_unique _ ((stored_iff _ _).mpr numbered) ?_ ?_, rfl⟩
    · exact decide_eq_true rfl
    · intro other found stored passes
      have listed := (stored_iff _ _).mp stored
      apply (flowNumber_inj_iff numbers.nodup).mpr few other listed.1 tuple numbered.1
      rw [listed.2, numbered.2]
      exact of_decide_eq_true passes

end Classifier

/-! ## Runs -/

section Runs

variable {state final : Monitoring} {flows : List FiveTuple} {moment : Moment}
  {moments : List Moment}

/-- What is left of a signal when the classifier has done its work. -/
def Monitoring.take (state : Monitoring) (classifier : Ipv4FlowClassifier) :
    Option Event → Option Monitoring
  | some event => (state.monitor.step event).map fun monitor => { classifier, monitor }
  | none => some { state with classifier }

theorem logger_eq (state : Monitoring) (now : Int) (packet : FlowPacket)
    (report : TrackedKey → Report) :
    state.logger now packet report = state.take (state.classifier.classify packet).2
      ((state.classifier.classify packet).1.map fun key => ⟨now, report key⟩) := by
  rw [Monitoring.logger]
  split
  · next key classifier isKey =>
      rw [isKey]
      rfl
  · next classifier isNone =>
      rw [isNone]
      rfl

/-- A signal makes the report that its place among the flows gives it. -/
theorem Numbers.step (numbers : Numbers state.classifier flows)
    (tagged : moment.signal ≠ .queueDrop none) :
    ∃ classifier, Numbers classifier (moment.flowsAfter flows) ∧
      Monitoring.step state moment =
        state.take classifier (moment.report (moment.flowsAfter flows)) := by
  have logged (now : Int) (packet : FlowPacket) (report : TrackedKey → Report) :
      Numbers (state.classifier.classify packet).2 (addFlow flows packet) ∧
        state.logger now packet report = state.take (state.classifier.classify packet).2
          ((keyIn (addFlow flows packet) packet).map fun key => ⟨now, report key⟩) := by
    rcases numbers.classify packet with ⟨isKey, after⟩
    rw [logger_eq, isKey]
    exact ⟨after, rfl⟩
  rcases moment with ⟨now, signal⟩
  cases signal with
  | sendOutgoing packet => exact ⟨_, logged now packet packet.firstTx⟩
  | unicastForward packet => exact ⟨_, logged now packet packet.forwarding⟩
  | localDeliver packet => exact ⟨_, logged now packet packet.lastRx⟩
  | drop packet reason => exact ⟨_, logged now packet (packet.drop · reason)⟩
  | queueDrop tag =>
      cases tag with
      | none => exact absurd rfl tagged
      | some tag => exact ⟨_, numbers, by
          simp [Monitoring.step, Monitoring.queueDropLogger, Monitoring.take,
            Moment.report, Option.map_eq_bind]⟩
  | checkForLostPackets maxDelay => exact ⟨_, numbers, rfl⟩
  | periodicCheck => exact ⟨_, numbers, rfl⟩
  | startRightNow => exact ⟨_, numbers, rfl⟩
  | stopRightNow => exact ⟨_, numbers, rfl⟩

/-- A signal that is handled has its tag. -/
theorem tagged_of_step {next : Monitoring}
    (stepped : Monitoring.step state moment = some next) :
    moment.signal ≠ .queueDrop none := by
  rcases moment with ⟨now, signal⟩
  intro untagged
  cases untagged
  cases stepped

theorem classifier_of_take {next : Monitoring} {classifier : Ipv4FlowClassifier}
    {event : Option Event} (taken : state.take classifier event = some next) :
    next.classifier = classifier := by
  cases event with
  | none =>
      cases taken
      rfl
  | some event =>
      rcases Option.map_eq_some_iff.mp taken with ⟨monitor, -, rfl⟩
      rfl

theorem Numbers.run (numbers : Numbers state.classifier flows)
    (ran : Monitoring.step.run state moments = some final) :
    Numbers final.classifier (moments.foldl Moment.flowsAfter flows) := by
  induction moments generalizing state flows with
  | nil =>
      cases ran
      exact numbers
  | cons moment moments induction =>
      rcases PartialStep.run_cons_eq_some.mp ran with ⟨next, stepped, rest⟩
      rcases numbers.step (tagged_of_step stepped) with ⟨classifier, after, isStep⟩
      rw [isStep] at stepped
      rw [← classifier_of_take stepped] at after
      exact induction after rest

/-- The monitor sees the reports of the numbered flows and nothing else. -/
theorem Numbers.run_monitor (numbers : Numbers state.classifier flows)
    (tagged : ∀ moment ∈ moments, moment.signal ≠ .queueDrop none) :
    (Monitoring.step.run state moments).map Monitoring.monitor =
      FlowMonitor.step.run state.monitor
        (moments.filterMap (Moment.report (moments.foldl Moment.flowsAfter flows))) := by
  induction moments generalizing state flows with
  | nil => rfl
  | cons moment moments induction =>
      have others := fun other member => tagged other (List.mem_cons_of_mem _ member)
      rcases numbers.step (tagged moment List.mem_cons_self) with
        ⟨classifier, after, isStep⟩
      rcases exists_foldl_flowsAfter (moment.flowsAfter flows) moments with ⟨more, isMore⟩
      rw [PartialStep.run_cons, isStep, List.foldl_cons, List.filterMap_cons, isMore,
        report_append, ← isMore]
      cases moment.report (moment.flowsAfter flows) with
      | none => exact @induction { state with classifier } _ after others
      | some event =>
          rw [Monitoring.take, PartialStep.run_cons, Option.bind_map, Option.map_bind]
          congr 1
          funext monitor
          exact @induction { classifier, monitor } _ after others

/-- Over a whole run the monitor does what it does when it is told each packet under the
number of its flow, in the order in which the flows begin, and its identification. -/
theorem monitor_of_run (monitor : FlowMonitor)
    (tagged : ∀ moment ∈ moments, moment.signal ≠ .queueDrop none) :
    (Monitoring.step.run { monitor } moments).map Monitoring.monitor =
      FlowMonitor.step.run monitor
        (moments.filterMap (Moment.report (flowsOf moments))) :=
  numbers_start.run_monitor tagged

/-- A packet there and one back, of which the first arrives and a queue drops the
other. -/
def exchange : List Moment :=
  let there : FlowPacket :=
    { source := ⟨0x0a000001⟩, destination := ⟨0x0a000102⟩, protocol := 17,
      identification := 0
      sourcePort := 49153, destinationPort := 9, size := 540 }
  let back : FlowPacket :=
    { source := ⟨0x0a000102⟩, destination := ⟨0x0a000001⟩, protocol := 17,
      identification := 0
      sourcePort := 9, destinationPort := 49153, size := 540 }
  [⟨0, .startRightNow⟩, ⟨1, .sendOutgoing there⟩, ⟨2, .sendOutgoing back⟩,
    ⟨3, .localDeliver there⟩, ⟨4, .queueDrop (some ⟨2, 0, 540⟩)⟩]

theorem monitor_of_run_exchange :
    (Monitoring.step.run {} exchange).map Monitoring.monitor =
      FlowMonitor.step.run {}
        [⟨0, .startRightNow⟩, ⟨1, .firstTx 1 0 540⟩, ⟨2, .firstTx 2 0 540⟩,
        ⟨3, .lastRx 1 0 540⟩, ⟨4, .drop 2 0 540 3⟩] :=
  monitor_of_run {} (by decide)

/-- After any run, no two flows have the same number exactly if there are at most 2 ^ 32
of them, and then `FindFlow` finds each of them by its number. -/
theorem findFlow_of_run {monitor : FlowMonitor}
    (ran : Monitoring.step.run { monitor } moments = some final) :
    ((∀ (first second : FiveTuple) (flowId : UInt32),
        final.classifier.flowMap[first]? = some flowId →
          final.classifier.flowMap[second]? = some flowId → first = second) ↔
      (flowsOf moments).length ≤ 2 ^ 32) ∧
    ((flowsOf moments).length ≤ 2 ^ 32 → ∀ flowId tuple,
      final.classifier.findFlow flowId = some tuple ↔
        tuple ∈ flowsOf moments ∧ flowNumber (flowsOf moments) tuple = flowId) := by
  have numbers : Numbers final.classifier (flowsOf moments) := numbers_start.run ran
  refine ⟨?_, fun few => numbers.findFlow few⟩
  rw [← flowNumber_inj_iff numbers.nodup]
  constructor
  · intro injective first firstMem second secondMem same
    apply injective first second (flowNumber (flowsOf moments) first)
    · rw [numbers.flowMap, if_pos firstMem]
    · rw [numbers.flowMap, if_pos secondMem, same]
  · intro injective first second flowId firstStored secondStored
    rw [numbers.flowMap, Option.ite_none_right_eq_some] at firstStored secondStored
    apply injective first firstStored.1 second secondStored.1
    rw [Option.some.inj firstStored.2, Option.some.inj secondStored.2]

theorem findFlow_of_run_exchange :
    ∃ final, Monitoring.step.run {} exchange = some final ∧
      final.classifier.findFlow 2 = some ⟨⟨0x0a000102⟩, ⟨0x0a000001⟩, 17, 9, 49153⟩ := by
  have ends : ∃ final, Monitoring.step.run {} exchange = some final :=
    Option.isSome_iff_exists.mp (by decide)
  rcases ends with ⟨final, ran⟩
  exact ⟨final, ran, ((findFlow_of_run ran).2 (by decide) _ _).mpr (by decide)⟩

end Runs

/-! ## Transmissions -/

/-- Whether the monitor is enabled after a report. -/
def Event.enables (enabled : Bool) (event : Event) : Bool :=
  match event.report with
  | .startRightNow => true
  | .stopRightNow => false
  | _ => enabled

/-- What a report adds to the transmissions of a flow. -/
def Event.sent (flowId : UInt32) (enabled : Bool) (event : Event) : UInt32 :=
  match event.report with
  | .firstTx other _ _ => if enabled ∧ other = flowId then 1 else 0
  | _ => 0

/-- Whether the monitor is enabled after a signal. -/
def Moment.enables (enabled : Bool) (moment : Moment) : Bool :=
  match moment.signal with
  | .startRightNow => true
  | .stopRightNow => false
  | _ => enabled

/-- Whether a signal is of a packet of the flow that is sent while the monitor is
enabled. -/
def Moment.sent (tuple : FiveTuple) (enabled : Bool) (moment : Moment) : Nat :=
  match moment.signal with
  | .sendOutgoing packet =>
      if enabled ∧ packet.IsClassified ∧ packet.fiveTuple = tuple then 1 else 0
  | _ => 0

/-- The packets of a flow that are sent while the monitor is enabled. -/
def sentWhileEnabled (tuple : FiveTuple) : Bool → List Moment → Nat
  | _, [] => 0
  | enabled, moment :: moments =>
      moment.sent tuple enabled + sentWhileEnabled tuple (moment.enables enabled) moments

section Transmissions

variable {monitor next : FlowMonitor} {now : Int}
  {flowId packetId packetSize reasonCode : UInt32}

/-- Reports that are not of a transmission leave the count as it is. -/
structure KeepsSent (monitor next : FlowMonitor) : Prop where
  enabled : next.enabled = monitor.enabled
  sent : ∀ flowId, (next.getStatsForFlow flowId).txPackets =
    (monitor.getStatsForFlow flowId).txPackets

theorem keepsSent_refl (monitor : FlowMonitor) : KeepsSent monitor monitor :=
  ⟨rfl, fun _ => rfl⟩

theorem KeepsSent.trans {middle : FlowMonitor} (first : KeepsSent monitor middle)
    (second : KeepsSent middle next) : KeepsSent monitor next where
  enabled := second.enabled.trans first.enabled
  sent flowId := (second.sent flowId).trans (first.sent flowId)

theorem keepsSent_settle (key : TrackedKey) {stats : FlowStats}
    (same : stats.txPackets = (monitor.getStatsForFlow key.flowId).txPackets) :
    KeepsSent monitor ((monitor.setStats key.flowId stats).untrack key) where
  enabled := rfl
  sent flowId := by
    rw [FlowMonitor.getStatsForFlow_untrack, FlowMonitor.getStatsForFlow_setStats]
    split
    · next here => rw [← here, same]
    · rfl

theorem keepsSent_reportForwarding :
    KeepsSent monitor (monitor.reportForwarding now flowId packetId) := by
  rw [FlowMonitor.reportForwarding]
  split
  · exact keepsSent_refl monitor
  · split
    · exact keepsSent_refl monitor
    · exact ⟨rfl, fun _ => rfl⟩

theorem keepsSent_reportLastRx :
    KeepsSent monitor (monitor.reportLastRx now flowId packetId packetSize) := by
  rw [FlowMonitor.reportLastRx]
  split
  · exact keepsSent_refl monitor
  · split
    · exact keepsSent_refl monitor
    · apply keepsSent_settle ⟨flowId, packetId⟩
      simp

theorem keepsSent_reportDrop
    (dropped : monitor.reportDrop flowId packetId packetSize reasonCode = some next) :
    KeepsSent monitor next := by
  rw [FlowMonitor.reportDrop] at dropped
  split at dropped
  · cases dropped
    exact keepsSent_refl monitor
  · dsimp only at dropped
    split at dropped
    · cases dropped
      apply keepsSent_settle ⟨flowId, packetId⟩
      simp
    · cases dropped

theorem keepsSent_checkTracked {maxDelay : Int} {entry : TrackedKey × TrackedPacket}
    (checked : FlowMonitor.checkTracked now maxDelay monitor entry = some next) :
    KeepsSent monitor next := by
  rw [FlowMonitor.checkTracked] at checked
  split at checked
  · rcases Option.map_eq_some_iff.mp checked with ⟨stats, stored, rfl⟩
    apply keepsSent_settle
    rw [FlowMonitor.getStatsForFlow, stored]
    rfl
  · cases checked
    exact keepsSent_refl monitor

theorem keepsSent_foldlM {maxDelay : Int} {entries : List (TrackedKey × TrackedPacket)}
    (ran : entries.foldlM (FlowMonitor.checkTracked now maxDelay) monitor = some next) :
    KeepsSent monitor next := by
  induction entries generalizing monitor with
  | nil =>
      cases ran
      exact keepsSent_refl _
  | cons entry entries induction =>
      rw [List.foldlM_cons] at ran
      rcases Option.bind_eq_some_iff.mp ran with ⟨middle, checked, rest⟩
      exact (keepsSent_checkTracked checked).trans (induction rest)

/-- One more for a transmission that comes while the monitor is enabled. -/
theorem step_counts {event : Event} (stepped : monitor.step event = some next)
    (flowId : UInt32) :
    next.enabled = event.enables monitor.enabled ∧
      (next.getStatsForFlow flowId).txPackets =
        (monitor.getStatsForFlow flowId).txPackets +
          event.sent flowId monitor.enabled := by
  have kept (keeps : KeepsSent monitor next) (enables : event.enables monitor.enabled =
      monitor.enabled) (none : event.sent flowId monitor.enabled = 0) :
      next.enabled = event.enables monitor.enabled ∧
        (next.getStatsForFlow flowId).txPackets =
          (monitor.getStatsForFlow flowId).txPackets +
            event.sent flowId monitor.enabled := by
    rw [enables, none, UInt32.add_zero]
    exact ⟨keeps.enabled, keeps.sent flowId⟩
  rcases event with ⟨now, report⟩
  cases report with
  | firstTx other packetId packetSize =>
      cases stepped
      simp only [FlowMonitor.reportFirstTx, Event.enables, Event.sent]
      split
      · next disabled => simp [disabled]
      · next enabled =>
          simp only [FlowMonitor.getStatsForFlow_setStats,
            FlowMonitor.getStatsForFlow_track]
          refine ⟨rfl, ?_⟩
          by_cases here : other = flowId
          · subst here
            simp_all
          · simp [here]
  | forwarding other packetId packetSize =>
      cases stepped
      exact kept keepsSent_reportForwarding rfl rfl
  | lastRx other packetId packetSize =>
      cases stepped
      exact kept keepsSent_reportLastRx rfl rfl
  | drop other packetId packetSize reasonCode =>
      exact kept (keepsSent_reportDrop stepped) rfl rfl
  | checkForLostPackets maxDelay => exact kept (keepsSent_foldlM stepped) rfl rfl
  | periodicCheck => exact kept (keepsSent_foldlM stepped) rfl rfl
  | startRightNow =>
      cases stepped
      exact ⟨rfl, (UInt32.add_zero _).symm⟩
  | stopRightNow =>
      rw [FlowMonitor.step, FlowMonitor.stopRightNow] at stepped
      split at stepped
      · next disabled =>
          cases stepped
          refine ⟨?_, (UInt32.add_zero _).symm⟩
          simpa [Event.enables] using disabled
      · have keeps := keepsSent_foldlM stepped
        exact ⟨keeps.enabled, (keeps.sent flowId).trans (UInt32.add_zero _).symm⟩

variable {state final after : Monitoring} {flows all : List FiveTuple} {tuple : FiveTuple}
  {moment : Moment} {moments : List Moment}

theorem quiet_of_map {α : Type} {key : Option α} {report : α → Event} {enabled : Bool}
    (enables : ∀ key, (report key).enables enabled = enabled)
    (sent : ∀ key, (report key).sent flowId enabled = 0) :
    ∀ event, key.map report = some event →
      event.enables enabled = enabled ∧ event.sent flowId enabled = 0 := by
  intro event isEvent
  rcases Option.map_eq_some_iff.mp isEvent with ⟨key, -, rfl⟩
  exact ⟨enables key, sent key⟩

/-- A report adds to the flow what its signal does. -/
theorem report_counts (nodup : all.Nodup) (few : all.length ≤ 2 ^ 32)
    (begun : tuple ∈ all)
    (present : ∀ packet, moment.signal.packet? = some packet → packet.IsClassified →
      packet.fiveTuple ∈ all) (enabled : Bool) :
    (∀ event, moment.report all = some event →
      event.enables enabled = moment.enables enabled ∧
        event.sent (flowNumber all tuple) enabled = .ofNat (moment.sent tuple enabled)) ∧
    (moment.report all = none →
      moment.enables enabled = enabled ∧ moment.sent tuple enabled = 0) := by
  have told {event : Event} (isReport : moment.report all = some event)
      (counts : event.enables enabled = moment.enables enabled ∧
        event.sent (flowNumber all tuple) enabled = .ofNat (moment.sent tuple enabled)) :
      (∀ event, moment.report all = some event →
        event.enables enabled = moment.enables enabled ∧
          event.sent (flowNumber all tuple) enabled =
            .ofNat (moment.sent tuple enabled)) ∧
      (moment.report all = none →
        moment.enables enabled = enabled ∧ moment.sent tuple enabled = 0) := by
    rw [isReport]
    refine ⟨?_, fun isNone => nomatch isNone⟩
    intro other isOther
    cases isOther
    exact counts
  rcases moment with ⟨now, signal⟩
  cases signal with
  | sendOutgoing packet =>
      by_cases classified : packet.IsClassified
      · have same : flowNumber all packet.fiveTuple = flowNumber all tuple ↔
            packet.fiveTuple = tuple :=
          ⟨(flowNumber_inj_iff nodup).mpr few _ (present packet rfl classified) _ begun,
            congrArg _⟩
        have isKey : keyIn all packet =
            some ⟨flowNumber all packet.fiveTuple, packet.identification.toUInt32⟩ :=
          if_pos classified
        refine told (congrArg (Option.map _) isKey) ⟨rfl, ?_⟩
        simp only [Event.sent, FlowPacket.firstTx, Moment.sent, same, classified,
          true_and]
        split <;> rfl
      · have isKey : keyIn all packet = none := if_neg classified
        rw [Moment.report, isKey]
        refine ⟨?_, fun _ => ⟨rfl, if_neg fun all => classified all.2.1⟩⟩
        intro event isEvent
        cases isEvent
  | unicastForward packet =>
      exact ⟨quiet_of_map (fun _ => rfl) (fun _ => rfl), fun _ => ⟨rfl, rfl⟩⟩
  | localDeliver packet =>
      exact ⟨quiet_of_map (fun _ => rfl) (fun _ => rfl), fun _ => ⟨rfl, rfl⟩⟩
  | drop packet reason =>
      exact ⟨quiet_of_map (fun _ => rfl) (fun _ => rfl), fun _ => ⟨rfl, rfl⟩⟩
  | queueDrop tag =>
      exact ⟨quiet_of_map (fun _ => rfl) (fun _ => rfl), fun _ => ⟨rfl, rfl⟩⟩
  | checkForLostPackets maxDelay => exact told rfl ⟨rfl, rfl⟩
  | periodicCheck => exact told rfl ⟨rfl, rfl⟩
  | startRightNow => exact told rfl ⟨rfl, rfl⟩
  | stopRightNow => exact told rfl ⟨rfl, rfl⟩

theorem present_of_flowsAfter {more : List FiveTuple} {packet : FlowPacket}
    (isPacket : moment.signal.packet? = some packet) (classified : packet.IsClassified) :
    packet.fiveTuple ∈ moment.flowsAfter flows ++ more := by
  apply List.mem_append_left
  rw [Moment.flowsAfter, isPacket]
  exact mem_addFlow classified

/-- One signal counts for the flow what it should. -/
theorem Numbers.step_counts (numbers : Numbers state.classifier flows)
    (stepped : Monitoring.step state moment = some after) {more : List FiveTuple}
    (isAll : all = moment.flowsAfter flows ++ more) (nodup : all.Nodup)
    (few : all.length ≤ 2 ^ 32) (begun : tuple ∈ all) :
    Numbers after.classifier (moment.flowsAfter flows) ∧
      after.monitor.enabled = moment.enables state.monitor.enabled ∧
      (after.monitor.getStatsForFlow (flowNumber all tuple)).txPackets =
        (state.monitor.getStatsForFlow (flowNumber all tuple)).txPackets +
          .ofNat (moment.sent tuple state.monitor.enabled) := by
  rcases numbers.step (tagged_of_step stepped) with ⟨classifier, numbered, isStep⟩
  have present : ∀ packet, moment.signal.packet? = some packet → packet.IsClassified →
      packet.fiveTuple ∈ all := by
    rw [isAll]
    exact fun packet => present_of_flowsAfter
  rcases report_counts nodup few begun present state.monitor.enabled with ⟨some, none⟩
  rw [isStep] at stepped
  refine ⟨classifier_of_take stepped ▸ numbered, ?_⟩
  rw [← report_append flows more, ← isAll] at stepped
  cases isReport : moment.report all with
  | none =>
      rw [isReport] at stepped
      cases stepped
      rcases none isReport with ⟨enables, sent⟩
      rw [enables, sent]
      exact ⟨rfl, (UInt32.add_zero _).symm⟩
  | some event =>
      rw [isReport] at stepped
      rcases Option.map_eq_some_iff.mp stepped with ⟨monitor, told, rfl⟩
      rcases some event isReport with ⟨enables, sent⟩
      rw [← enables, ← sent]
      exact Flows.step_counts told (flowNumber all tuple)

theorem Numbers.run_counts (numbers : Numbers state.classifier flows)
    (ran : Monitoring.step.run state moments = some final)
    (isAll : all = moments.foldl Moment.flowsAfter flows) (few : all.length ≤ 2 ^ 32)
    (begun : tuple ∈ all) :
    (final.monitor.getStatsForFlow (flowNumber all tuple)).txPackets =
      (state.monitor.getStatsForFlow (flowNumber all tuple)).txPackets +
        .ofNat (sentWhileEnabled tuple state.monitor.enabled moments) := by
  have nodup : all.Nodup := by
    rw [isAll]
    exact (numbers.run ran).nodup
  induction moments generalizing state flows with
  | nil =>
      cases ran
      exact (UInt32.add_zero _).symm
  | cons moment moments induction =>
      rcases PartialStep.run_cons_eq_some.mp ran with ⟨after, stepped, rest⟩
      rcases exists_foldl_flowsAfter (moment.flowsAfter flows) moments with ⟨more, isMore⟩
      rcases numbers.step_counts stepped (isAll.trans isMore) nodup few begun with
        ⟨numbered, enabled, sent⟩
      rw [induction numbered rest isAll, enabled, sent, sentWhileEnabled,
        UInt32.ofNat_add, UInt32.add_assoc]

/-- What the monitor counts as sent for a flow are the packets of its five-tuple that
were sent while the monitor was enabled. -/
theorem sent_of_run {monitor : FlowMonitor}
    (ran : Monitoring.step.run { monitor } moments = some final)
    (few : (flowsOf moments).length ≤ 2 ^ 32) (begun : tuple ∈ flowsOf moments) :
    (final.monitor.getStatsForFlow (flowNumber (flowsOf moments) tuple)).txPackets =
      (monitor.getStatsForFlow (flowNumber (flowsOf moments) tuple)).txPackets +
        .ofNat (sentWhileEnabled tuple monitor.enabled moments) :=
  numbers_start.run_counts ran rfl few begun

theorem sent_of_run_exchange :
    ∃ final, Monitoring.step.run {} exchange = some final ∧
      (final.monitor.getStatsForFlow 2).txPackets = 1 := by
  have ends : ∃ final, Monitoring.step.run {} exchange = some final :=
    Option.isSome_iff_exists.mp (by decide)
  rcases ends with ⟨final, ran⟩
  refine ⟨final, ran, ?_⟩
  exact @sent_of_run final ⟨⟨0x0a000102⟩, ⟨0x0a000001⟩, 17, 9, 49153⟩ exchange {} ran
    (by decide) (by decide)

end Transmissions

/-! ## Accounts -/

/-- The trace of a transmission. -/
def Moment.isSend (moment : Moment) : Bool :=
  match moment.signal with
  | .sendOutgoing _ => true
  | _ => false

section Accounts

variable {moments : List Moment} {flows : List FiveTuple} {moment : Moment}
  {event : Event}

/-- Probes report reasons that have a successor only, and a transmission for its trace
only. -/
theorem report_spec (isReport : moment.report flows = some event) :
    event.Defined ∧ (event.isTransmission = true → moment.isSend = true) := by
  rcases moment with ⟨now, signal⟩
  cases signal with
  | sendOutgoing packet =>
      rcases Option.map_eq_some_iff.mp isReport with ⟨key, -, rfl⟩
      exact ⟨fun _ _ _ isDrop => (nomatch isDrop), fun _ => rfl⟩
  | unicastForward packet =>
      rcases Option.map_eq_some_iff.mp isReport with ⟨key, -, rfl⟩
      exact ⟨fun _ _ _ isDrop => (nomatch isDrop), fun sends => nomatch sends⟩
  | localDeliver packet =>
      rcases Option.map_eq_some_iff.mp isReport with ⟨key, -, rfl⟩
      exact ⟨fun _ _ _ isDrop => (nomatch isDrop), fun sends => nomatch sends⟩
  | drop packet reason =>
      rcases Option.map_eq_some_iff.mp isReport with ⟨key, -, rfl⟩
      refine ⟨?_, fun sends => nomatch sends⟩
      intro flowId packetId packetSize isDrop
      cases reason <;> cases isDrop
  | queueDrop tag =>
      rcases Option.map_eq_some_iff.mp isReport with ⟨tag, -, rfl⟩
      refine ⟨?_, fun sends => nomatch sends⟩
      intro flowId packetId packetSize isDrop
      cases isDrop
  | checkForLostPackets maxDelay =>
      cases isReport
      exact ⟨fun _ _ _ isDrop => (nomatch isDrop), fun sends => nomatch sends⟩
  | periodicCheck =>
      cases isReport
      exact ⟨fun _ _ _ isDrop => (nomatch isDrop), fun sends => nomatch sends⟩
  | startRightNow =>
      cases isReport
      exact ⟨fun _ _ _ isDrop => (nomatch isDrop), fun sends => nomatch sends⟩
  | stopRightNow =>
      cases isReport
      exact ⟨fun _ _ _ isDrop => (nomatch isDrop), fun sends => nomatch sends⟩

theorem countP_isTransmission_le (flows : List FiveTuple) (moments : List Moment) :
    (moments.filterMap (Moment.report flows)).countP Event.isTransmission ≤
      moments.countP Moment.isSend := by
  rw [List.countP_filterMap]
  apply List.countP_mono_left
  intro moment _ sends
  cases isReport : moment.report flows with
  | none => simp [isReport] at sends
  | some event => exact (report_spec isReport).2 (by simpa [isReport] using sends)

theorem sentWhileEnabled_le (tuple : FiveTuple) (enabled : Bool) (moments : List Moment) :
    sentWhileEnabled tuple enabled moments ≤ moments.countP Moment.isSend := by
  induction moments generalizing enabled with
  | nil => exact Nat.le_refl 0
  | cons moment moments induction =>
      have one : moment.sent tuple enabled ≤ if moment.isSend then 1 else 0 := by
        rw [Moment.sent, Moment.isSend]
        split
        · split <;> simp
        · exact Nat.zero_le _
      have rest := induction (moment.enables enabled)
      rw [sentWhileEnabled, List.countP_cons]
      omega

/-- Whatever happens to the packets: the probes and the monitor never fail, and what a
flow has received and has in flight is no more than what was sent of its five-tuple
while the monitor was enabled. -/
theorem accounts_of_run (maxPerHopDelay : Int)
    (tagged : ∀ moment ∈ moments, moment.signal ≠ .queueDrop none)
    (few : (flowsOf moments).length ≤ 2 ^ 32)
    (fewSent : moments.countP Moment.isSend < 2 ^ 32) :
    ∃ final, Monitoring.step.run { monitor := { maxPerHopDelay } } moments = some final ∧
      ∀ tuple ∈ flowsOf moments,
        (final.monitor.getStatsForFlow
            (flowNumber (flowsOf moments) tuple)).rxPackets.toNat +
            final.monitor.inFlight (flowNumber (flowsOf moments) tuple) ≤
          sentWhileEnabled tuple false moments := by
  have initially := FlowMonitor.accounted_initial maxPerHopDelay
  have below := countP_isTransmission_le (flowsOf moments) moments
  have defined : ∀ event ∈ moments.filterMap (Moment.report (flowsOf moments)),
      event.Defined := by
    intro event member
    rcases List.mem_filterMap.mp member with ⟨moment, -, isReport⟩
    exact (report_spec isReport).1
  rcases initially.exists_run (by omega) defined with ⟨monitor, told⟩
  have same :=
    @Numbers.run_monitor { monitor := { maxPerHopDelay } } _ _ numbers_start tagged
  rcases Option.map_eq_some_iff.mp (same.trans told) with ⟨final, ran, rfl⟩
  refine ⟨final, ran, ?_⟩
  intro tuple begun
  have counted := numbers_start.run_counts ran rfl few begun
  have all := sentWhileEnabled_le tuple false moments
  have exactly : (final.monitor.getStatsForFlow
      (flowNumber (flowsOf moments) tuple)).txPackets.toNat =
        sentWhileEnabled tuple false moments := by
    have sent :
        (final.monitor.getStatsForFlow (flowNumber (flowsOf moments) tuple)).txPackets =
        .ofNat (sentWhileEnabled tuple false moments) := counted.trans (UInt32.zero_add _)
    rw [sent]
    exact UInt32.toNat_ofNat_of_lt' (all.trans_lt fewSent)
  rw [← exactly]
  exact (initially.run (by omega) told).received _

theorem accounts_of_run_exchange :
    ∃ final, Monitoring.step.run { monitor := { maxPerHopDelay := 5 } } exchange =
      some final ∧
      ∀ tuple ∈ flowsOf exchange,
        (final.monitor.getStatsForFlow
            (flowNumber (flowsOf exchange) tuple)).rxPackets.toNat +
            final.monitor.inFlight (flowNumber (flowsOf exchange) tuple) ≤
          sentWhileEnabled tuple false exchange :=
  accounts_of_run 5 (by decide) (by decide) (by decide)

end Accounts

end Flows

end DataCenter
