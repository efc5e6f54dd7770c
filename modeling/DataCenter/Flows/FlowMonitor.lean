import DataCenter.Foundation.OrderedMap
import DataCenter.Foundation.Run

/-! # The flow monitor

`FlowMonitor` as far as it counts: the statistics of each flow, the packets that
it tracks and the reports of the probes.  Histograms and the statistics of the
probes themselves are left out, and a time is a number of nanoseconds. -/

namespace DataCenter.Flows

open Std

/-! ## Data -/

structure FlowStats where
  timeFirstTxPacket : Int := 0
  timeFirstRxPacket : Int := 0
  timeLastTxPacket : Int := 0
  timeLastRxPacket : Int := 0
  delaySum : Int := 0
  jitterSum : Int := 0
  lastDelay : Int := 0
  txBytes : UInt64 := 0
  rxBytes : UInt64 := 0
  txPackets : UInt32 := 0
  rxPackets : UInt32 := 0
  lostPackets : UInt32 := 0
  timesForwarded : UInt32 := 0
  /-- `packetsDropped[reasonCode]`, and the same for octets. -/
  packetsDropped : List UInt32 := []
  bytesDropped : List UInt64 := []
  deriving DecidableEq, Repr

structure TrackedPacket where
  firstSeenTime : Int
  lastSeenTime : Int
  timesForwarded : UInt32
  deriving DecidableEq, Repr

/-- `std::pair<FlowId, FlowPacketId>` -/
structure TrackedKey where
  flowId : UInt32
  packetId : UInt32
  deriving DecidableEq, Repr

namespace TrackedKey

/-- `operator <` of the pair. -/
instance : Ord TrackedKey where
  compare := compareLex (compareOn flowId) (compareOn packetId)

instance : TransOrd TrackedKey :=
  inferInstanceAs <| TransCmp <| compareLex (compareOn flowId) (compareOn packetId)

instance : LawfulEqOrd TrackedKey where
  eq_of_compare {left right} equal := by
    have bothEqual : compareLex (compareOn flowId) (compareOn packetId) left right =
        .eq := equal
    cases left
    cases right
    simpa [compareLex, compareOn, Ordering.then_eq_eq, LawfulEqOrd.compare_eq_iff_eq]
      using bothEqual

end TrackedKey

/-- The members of `FlowMonitor`.  Ten seconds is the default of
`MaxPerHopDelay`. -/
structure FlowMonitor where
  flowStats : ExtTreeMap UInt32 FlowStats compare := ∅
  trackedPackets : ExtTreeMap TrackedKey TrackedPacket compare := ∅
  maxPerHopDelay : Int := 10000000000
  enabled : Bool := false

/-! ## Reports -/

/-- What probes, the scheduler and the program tell the monitor. -/
inductive Report where
  | firstTx (flowId packetId packetSize : UInt32)
  | forwarding (flowId packetId packetSize : UInt32)
  | lastRx (flowId packetId packetSize : UInt32)
  | drop (flowId packetId packetSize reasonCode : UInt32)
  | checkForLostPackets (maxDelay : Int)
  | periodicCheck
  | startRightNow
  | stopRightNow
  deriving DecidableEq, Repr

/-- A report at a time of the simulator. -/
structure Event where
  now : Int
  report : Report
  deriving DecidableEq, Repr

/-- `std::vector::resize (size, 0)` -/
def resize {α : Type} [Zero α] (items : List α) (size : Nat) : List α :=
  items.take size ++ List.replicate (size - items.length) 0

/-- The two vectors grow for a new reason. -/
def FlowStats.withReason (stats : FlowStats) (reasonCode : UInt32) : FlowStats :=
  let size := (reasonCode + 1).toNat
  if stats.packetsDropped.length < size then
    { stats with
      packetsDropped := resize stats.packetsDropped size
      bytesDropped := resize stats.bytesDropped size }
  else stats

/-- The jitter of a packet, from the second one on. -/
def FlowStats.withJitter (stats : FlowStats) (delay : Int) : FlowStats :=
  if stats.rxPackets > 0 then
    let jitter := stats.lastDelay - delay
    if jitter > 0 then { stats with jitterSum := stats.jitterSum + jitter }
    else { stats with jitterSum := stats.jitterSum - jitter }
  else stats

section WithJitter

variable (stats : FlowStats) (delay : Int)

theorem FlowStats.withJitter_eq :
    stats.withJitter delay =
      { stats with jitterSum := (stats.withJitter delay).jitterSum } := by
  rw [FlowStats.withJitter]
  dsimp only
  split
  · split <;> rfl
  · rfl

@[simp] theorem FlowStats.txPackets_withJitter :
    (stats.withJitter delay).txPackets = stats.txPackets := by
  rw [withJitter_eq]

@[simp] theorem FlowStats.rxPackets_withJitter :
    (stats.withJitter delay).rxPackets = stats.rxPackets := by
  rw [withJitter_eq]

@[simp] theorem FlowStats.lostPackets_withJitter :
    (stats.withJitter delay).lostPackets = stats.lostPackets := by
  rw [withJitter_eq]

@[simp] theorem FlowStats.packetsDropped_withJitter :
    (stats.withJitter delay).packetsDropped = stats.packetsDropped := by
  rw [withJitter_eq]

@[simp] theorem FlowStats.bytesDropped_withJitter :
    (stats.withJitter delay).bytesDropped = stats.bytesDropped := by
  rw [withJitter_eq]

end WithJitter

theorem length_resize {α : Type} [Zero α] (items : List α) (size : Nat) :
    (resize items size).length = size := by
  simp only [resize, List.length_append, List.length_take, List.length_replicate]
  omega

section WithReason

variable (stats : FlowStats) (reasonCode : UInt32)

theorem FlowStats.withReason_eq :
    stats.withReason reasonCode = { stats with
      packetsDropped := (stats.withReason reasonCode).packetsDropped
      bytesDropped := (stats.withReason reasonCode).bytesDropped } := by
  unfold FlowStats.withReason
  dsimp only
  split <;> rfl

@[simp] theorem FlowStats.txPackets_withReason :
    (stats.withReason reasonCode).txPackets = stats.txPackets := by
  rw [withReason_eq]

@[simp] theorem FlowStats.rxPackets_withReason :
    (stats.withReason reasonCode).rxPackets = stats.rxPackets := by
  rw [withReason_eq]

@[simp] theorem FlowStats.lostPackets_withReason :
    (stats.withReason reasonCode).lostPackets = stats.lostPackets := by
  rw [withReason_eq]

/-- Vectors of one length stay so, and have room for the new reason. -/
theorem FlowStats.length_withReason
    (same : stats.packetsDropped.length = stats.bytesDropped.length) :
    (stats.withReason reasonCode).packetsDropped.length =
        (stats.withReason reasonCode).bytesDropped.length ∧
      (reasonCode + 1).toNat ≤ (stats.withReason reasonCode).packetsDropped.length := by
  unfold FlowStats.withReason
  dsimp only
  split
  · simp [length_resize]
  · next room => exact ⟨same, Nat.le_of_not_lt room⟩

end WithReason

namespace FlowMonitor

/-- `GetStatsForFlow` -/
def getStatsForFlow (monitor : FlowMonitor) (flowId : UInt32) : FlowStats :=
  monitor.flowStats[flowId]?.getD {}

def setStats (monitor : FlowMonitor) (flowId : UInt32) (stats : FlowStats) :
    FlowMonitor :=
  { monitor with flowStats := monitor.flowStats.insert flowId stats }

def track (monitor : FlowMonitor) (key : TrackedKey) (tracked : TrackedPacket) :
    FlowMonitor :=
  { monitor with trackedPackets := monitor.trackedPackets.insert key tracked }

def untrack (monitor : FlowMonitor) (key : TrackedKey) : FlowMonitor :=
  { monitor with trackedPackets := monitor.trackedPackets.erase key }

/-- `ReportFirstTx` -/
def reportFirstTx (monitor : FlowMonitor) (now : Int)
    (flowId packetId packetSize : UInt32) :
    FlowMonitor :=
  if ¬ monitor.enabled then monitor
  else
    let monitor := monitor.track ⟨flowId, packetId⟩
      { firstSeenTime := now, lastSeenTime := now, timesForwarded := 0 }
    let stats := monitor.getStatsForFlow flowId
    let stats := { stats with
      txBytes := stats.txBytes + packetSize.toUInt64
      txPackets := stats.txPackets + 1 }
    monitor.setStats flowId { stats with
      timeFirstTxPacket := if stats.txPackets = (1 : UInt32) then now
        else stats.timeFirstTxPacket
      timeLastTxPacket := now }

/-- `ReportForwarding` -/
def reportForwarding (monitor : FlowMonitor) (now : Int) (flowId packetId : UInt32) :
    FlowMonitor :=
  if ¬ monitor.enabled then monitor
  else
    match monitor.trackedPackets[(⟨flowId, packetId⟩ : TrackedKey)]? with
    | none => monitor
    | some tracked => monitor.track ⟨flowId, packetId⟩
        { tracked with timesForwarded := tracked.timesForwarded + 1, lastSeenTime := now }

/-- `ReportLastRx` -/
def reportLastRx (monitor : FlowMonitor) (now : Int)
    (flowId packetId packetSize : UInt32) :
    FlowMonitor :=
  if ¬ monitor.enabled then monitor
  else
    match monitor.trackedPackets[(⟨flowId, packetId⟩ : TrackedKey)]? with
    | none => monitor
    | some tracked =>
        let delay := now - tracked.firstSeenTime
        let stats := monitor.getStatsForFlow flowId
        let stats := { stats with delaySum := stats.delaySum + delay }.withJitter delay
        let stats := { stats with
          lastDelay := delay
          rxBytes := stats.rxBytes + packetSize.toUInt64
          rxPackets := stats.rxPackets + 1 }
        let stats := { stats with
          timeFirstRxPacket := if stats.rxPackets = (1 : UInt32) then now
            else stats.timeFirstRxPacket
          timeLastRxPacket := now
          timesForwarded := stats.timesForwarded + tracked.timesForwarded }
        (monitor.setStats flowId stats).untrack ⟨flowId, packetId⟩

/-- `ReportDrop`, which counts whether or not the packet is tracked.  It is
undefined for the greatest reason code, for which `reasonCode + 1` is zero. -/
def reportDrop (monitor : FlowMonitor) (flowId packetId packetSize reasonCode : UInt32) :
    Option FlowMonitor :=
  if ¬ monitor.enabled then some monitor
  else
    let stats := monitor.getStatsForFlow flowId
    let stats := { stats with lostPackets := stats.lostPackets + 1 }
    let stats := stats.withReason reasonCode
    match stats.packetsDropped[reasonCode.toNat]?,
      stats.bytesDropped[reasonCode.toNat]? with
    | some packets, some bytes =>
        let stats := { stats with
          packetsDropped := stats.packetsDropped.set reasonCode.toNat (packets + 1)
          bytesDropped :=
            stats.bytesDropped.set reasonCode.toNat (bytes + packetSize.toUInt64) }
        some ((monitor.setStats flowId stats).untrack ⟨flowId, packetId⟩)
    | _, _ => none

/-- One iteration of the loop of `CheckForLostPackets`, which asserts that the
flow is there. -/
def checkTracked (now maxDelay : Int) (monitor : FlowMonitor)
    (entry : TrackedKey × TrackedPacket) : Option FlowMonitor :=
  if now - entry.2.lastSeenTime ≥ maxDelay then
    monitor.flowStats[entry.1.flowId]?.map fun stats =>
      (monitor.setStats entry.1.flowId { stats with
        lostPackets := stats.lostPackets + 1 }).untrack entry.1
  else some monitor

/-- `CheckForLostPackets` -/
def checkForLostPackets (monitor : FlowMonitor) (now maxDelay : Int) :
    Option FlowMonitor :=
  monitor.trackedPackets.toList.foldlM (checkTracked now maxDelay) monitor

def startRightNow (monitor : FlowMonitor) : FlowMonitor :=
  { monitor with enabled := true }

def stopRightNow (monitor : FlowMonitor) (now : Int) : Option FlowMonitor :=
  if ¬ monitor.enabled then some monitor
  else { monitor with enabled := false }.checkForLostPackets now monitor.maxPerHopDelay

/-- What a report does to the monitor. -/
def step : PartialStep FlowMonitor Event
  | monitor, ⟨now, .firstTx flowId packetId packetSize⟩ =>
      some (monitor.reportFirstTx now flowId packetId packetSize)
  | monitor, ⟨now, .forwarding flowId packetId _⟩ =>
      some (monitor.reportForwarding now flowId packetId)
  | monitor, ⟨now, .lastRx flowId packetId packetSize⟩ =>
      some (monitor.reportLastRx now flowId packetId packetSize)
  | monitor, ⟨_, .drop flowId packetId packetSize reasonCode⟩ =>
      monitor.reportDrop flowId packetId packetSize reasonCode
  | monitor, ⟨now, .checkForLostPackets maxDelay⟩ =>
      monitor.checkForLostPackets now maxDelay
  | monitor, ⟨now, .periodicCheck⟩ =>
      monitor.checkForLostPackets now monitor.maxPerHopDelay
  | monitor, ⟨_, .startRightNow⟩ => some monitor.startRightNow
  | monitor, ⟨now, .stopRightNow⟩ => monitor.stopRightNow now

end FlowMonitor

end DataCenter.Flows
