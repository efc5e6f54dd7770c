import DataCenter.Flows.FlowMonitor

/-! # Aggregated statistics

The integers that `PrintAggregatedStatistics` prints, in both of its versions.
The throughputs and delays are computed in `double` and left out, apart from the
integers they are computed from. -/

namespace DataCenter.Flows

open Std

/-! ## The two versions -/

/-- The local variables of `PrintAggregatedStatistics`. -/
structure Totals where
  txPackets : UInt32 := 0
  rxPackets : UInt32 := 0
  droppedPackets : UInt32 := 0
  lostPackets : UInt32 := 0
  rxBytes : UInt32 := 0
  deriving DecidableEq, Repr

/-- One iteration of the loop over the flows. -/
def Totals.addFlow (totals : Totals) (stats : FlowStats) : Totals :=
  let txPackets := totals.txPackets + stats.txPackets
  let rxPackets := totals.rxPackets + stats.rxPackets
  { txPackets
    rxPackets
    lostPackets := txPackets - rxPackets
    droppedPackets := totals.droppedPackets + stats.packetsDropped.length.toUInt32
    rxBytes := (totals.rxBytes.toUInt64 + stats.rxBytes).toUInt32 }

def FlowMonitor.totals (monitor : FlowMonitor) : Totals :=
  (monitor.flowStats.toList.map Prod.snd).foldl Totals.addFlow {}

/-- What is printed, and the octets that the average throughput is made of. -/
structure Printout where
  totals : Totals
  packetDeliveryRatio : UInt32
  packetLossRatio : UInt32
  deriving DecidableEq, Repr

/-- An integer is divided by zero. -/
inductive Fault where
  | divisionByZero
  deriving DecidableEq, Repr

def Totals.ratio (totals : Totals) (packets : UInt32) : Except Fault UInt32 :=
  if totals.txPackets = 0 then .error .divisionByZero
  else .ok (packets * 100 / totals.txPackets)

namespace FlowMonitor

/-- The first version. -/
def printAggregatedStatistics (monitor : FlowMonitor) : Except Fault Printout := do
  let totals := monitor.totals
  let packetDeliveryRatio ← totals.ratio totals.rxPackets
  let packetLossRatio ← totals.ratio totals.lostPackets
  return { totals, packetDeliveryRatio, packetLossRatio }

/-- The second version, which prints that there are no flows. -/
def printAggregatedStatistics' (monitor : FlowMonitor) : Except Fault (Option Printout) :=
  if monitor.flowStats.size = 0 then .ok none
  else monitor.printAggregatedStatistics.map some

end FlowMonitor

/-! ## The exact totals -/

namespace FlowMonitor

/-- A sum over all flows. -/
def sum (monitor : FlowMonitor) (figure : FlowStats → Nat) : Nat :=
  (monitor.flowStats.toList.map fun flow => figure flow.2).sum

def sentTotal (monitor : FlowMonitor) : Nat :=
  monitor.sum fun stats => stats.txPackets.toNat

def receivedTotal (monitor : FlowMonitor) : Nat :=
  monitor.sum fun stats => stats.rxPackets.toNat

def octetTotal (monitor : FlowMonitor) : Nat :=
  monitor.sum fun stats => stats.rxBytes.toNat

/-- The packets reported dropped, over all flows and reasons. -/
def droppedTotal (monitor : FlowMonitor) : Nat :=
  monitor.sum fun stats => (stats.packetsDropped.map UInt32.toNat).sum

/-- The numbers of reasons that the flows have counters for. -/
def reasonTotal (monitor : FlowMonitor) : Nat :=
  monitor.sum fun stats => stats.packetsDropped.length

/-- What is printed are the totals. -/
structure Exact (monitor : FlowMonitor) (printed : Printout) : Prop where
  txPackets : printed.totals.txPackets.toNat = monitor.sentTotal
  rxPackets : printed.totals.rxPackets.toNat = monitor.receivedTotal
  lostPackets : (printed.totals.lostPackets.toNat : Int) =
    monitor.sentTotal - monitor.receivedTotal
  droppedPackets : printed.totals.droppedPackets.toNat = monitor.droppedTotal
  rxBytes : printed.totals.rxBytes.toNat = monitor.octetTotal
  packetDeliveryRatio :
    printed.packetDeliveryRatio.toNat = 100 * monitor.receivedTotal / monitor.sentTotal
  packetLossRatio : printed.packetLossRatio.toNat =
    100 * (monitor.sentTotal - monitor.receivedTotal) / monitor.sentTotal

/-- Something was sent, no more was received than sent, nothing is too large for the 32
bits that the figures are computed in, and the reasons number as many as the drops. -/
structure Printable (monitor : FlowMonitor) : Prop where
  sent : 0 < monitor.sentTotal
  received : monitor.receivedTotal ≤ monitor.sentTotal
  receivedFits : 100 * monitor.receivedTotal < 2 ^ 32
  lostFits : 100 * (monitor.sentTotal - monitor.receivedTotal) < 2 ^ 32
  octetsFit : monitor.octetTotal < 2 ^ 32
  reasons : monitor.reasonTotal % 2 ^ 32 = monitor.droppedTotal

end FlowMonitor

/-! ## What the loop computes -/

section Loop

theorem toNat_toUInt32 (count : Nat) : count.toUInt32.toNat = count % 2 ^ 32 := by
  simp

/-- The loop computes the sums modulo 2^32. -/
theorem foldl_addFlow (flows : List FlowStats) (start : Totals) :
    let final := flows.foldl Totals.addFlow start
    final.txPackets.toNat =
        (start.txPackets.toNat +
          (flows.map fun stats => stats.txPackets.toNat).sum) % 2 ^ 32 ∧
      final.rxPackets.toNat =
        (start.rxPackets.toNat +
          (flows.map fun stats => stats.rxPackets.toNat).sum) % 2 ^ 32 ∧
      final.droppedPackets.toNat = (start.droppedPackets.toNat +
        (flows.map fun stats => stats.packetsDropped.length).sum) % 2 ^ 32 ∧
      final.rxBytes.toNat =
        (start.rxBytes.toNat +
          (flows.map fun stats => stats.rxBytes.toNat).sum) % 2 ^ 32 ∧
      (start.lostPackets = start.txPackets - start.rxPackets →
        final.lostPackets = final.txPackets - final.rxPackets) := by
  induction flows generalizing start with
  | nil =>
      have tx := start.txPackets.toNat_lt
      have rx := start.rxPackets.toNat_lt
      have dropped := start.droppedPackets.toNat_lt
      have octets := start.rxBytes.toNat_lt
      refine ⟨?_, ?_, ?_, ?_, id⟩ <;>
        simp only [List.foldl_nil, List.map_nil, List.sum_nil] <;> omega
  | cons stats flows induction =>
      rcases induction (start.addFlow stats) with ⟨tx, rx, dropped, octets, lost⟩
      simp only [List.foldl_cons, List.map_cons, List.sum_cons]
      refine ⟨?_, ?_, ?_, ?_, fun _ => lost rfl⟩
      · rw [tx]
        simp only [Totals.addFlow, UInt32.toNat_add]
        omega
      · rw [rx]
        simp only [Totals.addFlow, UInt32.toNat_add]
        omega
      · rw [dropped]
        simp only [Totals.addFlow, UInt32.toNat_add, toNat_toUInt32]
        omega
      · rw [octets]
        simp only [Totals.addFlow, UInt64.toNat_toUInt32, UInt64.toNat_add,
          UInt32.toNat_toUInt64]
        omega

end Loop

namespace FlowMonitor

theorem toNat_txPackets (monitor : FlowMonitor) :
    monitor.totals.txPackets.toNat = monitor.sentTotal % 2 ^ 32 := by
  have loop := (foldl_addFlow (monitor.flowStats.toList.map Prod.snd) {}).1
  simpa [totals, sentTotal, sum, Function.comp_def] using loop

theorem toNat_rxPackets (monitor : FlowMonitor) :
    monitor.totals.rxPackets.toNat = monitor.receivedTotal % 2 ^ 32 := by
  have loop := (foldl_addFlow (monitor.flowStats.toList.map Prod.snd) {}).2.1
  simpa [totals, receivedTotal, sum, Function.comp_def] using loop

theorem toNat_droppedPackets (monitor : FlowMonitor) :
    monitor.totals.droppedPackets.toNat = monitor.reasonTotal % 2 ^ 32 := by
  have loop := (foldl_addFlow (monitor.flowStats.toList.map Prod.snd) {}).2.2.1
  simpa [totals, reasonTotal, sum, Function.comp_def] using loop

theorem toNat_rxBytes (monitor : FlowMonitor) :
    monitor.totals.rxBytes.toNat = monitor.octetTotal % 2 ^ 32 := by
  have loop := (foldl_addFlow (monitor.flowStats.toList.map Prod.snd) {}).2.2.2.1
  simpa [totals, octetTotal, sum, Function.comp_def] using loop

theorem lostPackets_eq (monitor : FlowMonitor) :
    monitor.totals.lostPackets = monitor.totals.txPackets - monitor.totals.rxPackets :=
  (foldl_addFlow (monitor.flowStats.toList.map Prod.snd) {}).2.2.2.2 rfl

/-- Without a division by zero the figures are printed. -/
theorem printAggregatedStatistics_eq (monitor : FlowMonitor) :
    monitor.printAggregatedStatistics =
      if monitor.totals.txPackets = 0 then .error .divisionByZero
      else .ok
        { totals := monitor.totals
          packetDeliveryRatio := monitor.totals.rxPackets * 100 / monitor.totals.txPackets
          packetLossRatio :=
            monitor.totals.lostPackets * 100 / monitor.totals.txPackets } := by
  unfold printAggregatedStatistics Totals.ratio
  by_cases nothing : monitor.totals.txPackets = 0
  · simp [nothing, bind, Except.bind]
  · simp [nothing, bind, Except.bind, pure, Except.pure]

end FlowMonitor

/-! ## When they are exact -/

/-- A quotient by at most `modulus` is right for the remainder only if nothing was cut
off. -/
theorem lt_of_mod_div_eq {value divisor modulus : Nat} (positive : 0 < divisor)
    (small : divisor ≤ modulus) (same : value % modulus / divisor = value / divisor) :
    value < modulus := by
  by_contra large
  have cut : value % modulus + modulus ≤ value := by
    have whole := Nat.mod_add_div value modulus
    have some : 0 < value / modulus := Nat.div_pos (by omega) (by omega)
    have grows : modulus * 1 ≤ modulus * (value / modulus) := Nat.mul_le_mul_left _ some
    omega
  have less : (value % modulus + divisor) / divisor ≤ value / divisor :=
    Nat.div_le_div_right (by omega)
  rw [Nat.add_div_right _ positive] at less
  omega

/-- A percentage in 32 bits. -/
theorem toNat_percentage (packets total : UInt32) :
    (packets * 100 / total).toNat = 100 * packets.toNat % 2 ^ 32 / total.toNat := by
  rw [UInt32.toNat_div, UInt32.toNat_mul, Nat.mul_comm]
  rfl

namespace FlowMonitor

theorem exact_of_printable {monitor : FlowMonitor} (printable : monitor.Printable) :
    ∃ printed, monitor.printAggregatedStatistics = .ok printed ∧
      monitor.Exact printed := by
  rcases printable with ⟨sent, received, receivedFits, lostFits, octetsFit, reasons⟩
  have tx := monitor.toNat_txPackets
  have rx := monitor.toNat_rxPackets
  rw [Nat.mod_eq_of_lt (by omega)] at tx rx
  have lost :
      monitor.totals.lostPackets.toNat = monitor.sentTotal - monitor.receivedTotal := by
    rw [lostPackets_eq,
      UInt32.toNat_sub_of_le _ _ (by rw [UInt32.le_iff_toNat_le]; omega), tx, rx]
  have some : monitor.totals.txPackets ≠ 0 := by
    intro none
    rw [none] at tx
    exact absurd tx (Nat.ne_of_lt sent)
  refine ⟨_, monitor.printAggregatedStatistics_eq.trans (if_neg some), ?_⟩
  refine ⟨tx, rx, ?_, ?_, ?_, ?_, ?_⟩
  · rw [lost]
    omega
  · rw [toNat_droppedPackets, reasons]
  · rw [toNat_rxBytes, Nat.mod_eq_of_lt octetsFit]
  · rw [toNat_percentage, tx, rx, Nat.mod_eq_of_lt receivedFits]
  · rw [toNat_percentage, tx, lost, Nat.mod_eq_of_lt lostFits]

theorem printable_of_exact {monitor : FlowMonitor} {printed : Printout}
    (prints : monitor.printAggregatedStatistics = .ok printed)
    (exactly : monitor.Exact printed) :
    monitor.Printable := by
  rw [printAggregatedStatistics_eq] at prints
  split at prints
  · cases prints
  · next some =>
      cases prints
      rcases exactly with ⟨tx, rx, lost, dropped, octets, delivery, loss⟩
      dsimp only at tx rx lost dropped octets delivery loss
      have sent : 0 < monitor.sentTotal := by
        rw [← tx]
        exact Nat.pos_of_ne_zero fun none => some (UInt32.toNat_inj.mp none)
      have small := monitor.totals.txPackets.toNat_lt
      have received : monitor.receivedTotal ≤ monitor.sentTotal := by omega
      rw [toNat_percentage, tx, rx] at delivery
      rw [toNat_percentage, tx] at loss
      rw [toNat_droppedPackets] at dropped
      rw [toNat_rxBytes] at octets
      refine ⟨sent, received, lt_of_mod_div_eq sent (by omega) delivery, ?_, ?_, dropped⟩
      · have lostIs : monitor.totals.lostPackets.toNat =
            monitor.sentTotal - monitor.receivedTotal := by omega
        rw [lostIs] at loss
        exact lt_of_mod_div_eq sent (by omega) loss
      · rw [← octets]
        exact Nat.mod_lt _ (by norm_num)

/-- The figures of the two versions are the exact totals under the same condition, only
that the second version also stops without any flow. -/
theorem printed_exactly_iff (monitor : FlowMonitor) :
    ((∃ printed, monitor.printAggregatedStatistics = .ok printed ∧
        monitor.Exact printed) ↔
      monitor.Printable) ∧
    ((∃ printed, monitor.printAggregatedStatistics' = .ok printed ∧
        ∀ figures ∈ printed, monitor.Exact figures) ↔
      monitor.flowStats.size = 0 ∨ monitor.Printable) := by
  have first : (∃ printed, monitor.printAggregatedStatistics = .ok printed ∧
      monitor.Exact printed) ↔ monitor.Printable := by
    constructor
    · intro shown
      rcases shown with ⟨printed, prints, exactly⟩
      exact printable_of_exact prints exactly
    · exact exact_of_printable
  refine ⟨first, ?_⟩
  rw [← first]
  rw [printAggregatedStatistics']
  by_cases noFlows : monitor.flowStats.size = 0
  · simp [noFlows]
  · cases monitor.printAggregatedStatistics with
    | error fault => simp [noFlows, Except.map]
    | ok printed => simp [noFlows, Except.map]

/-- One packet is sent and dropped for the reason with number one: two are printed. -/
theorem one_drop_counts_twice :
    ∃ monitor,
        step.run {} [⟨0, .startRightNow⟩, ⟨1, .firstTx 1 1 100⟩, ⟨2, .drop 1 1 100 1⟩] =
        some monitor ∧
      monitor.droppedTotal = 1 ∧
      (∃ printed, monitor.printAggregatedStatistics = .ok printed ∧
        printed.totals.droppedPackets = 2) ∧
      ¬ ∃ printed, monitor.printAggregatedStatistics = .ok printed ∧
      monitor.Exact printed := by
  have counted : (step.run {} [⟨0, .startRightNow⟩, ⟨1, .firstTx 1 1 100⟩,
      ⟨2, .drop 1 1 100 1⟩]).map (fun monitor => (monitor.droppedTotal,
        monitor.printAggregatedStatistics.map fun printed =>
          printed.totals.droppedPackets)) =
      some (1, .ok 2) := by decide
  rcases Option.map_eq_some_iff.mp counted with ⟨monitor, ran, figures⟩
  rw [Prod.mk.injEq] at figures
  rcases figures with ⟨dropped, prints⟩
  cases printed : monitor.printAggregatedStatistics with
  | error fault =>
      rw [printed] at prints
      cases prints
  | ok figures =>
      rw [printed] at prints
      have two : figures.totals.droppedPackets = 2 := Except.ok.inj prints
      refine ⟨monitor, ran, dropped, ⟨figures, printed, two⟩, ?_⟩
      intro shown
      rcases shown with ⟨others, same, exactly⟩
      rw [printed] at same
      cases same
      have one := exactly.droppedPackets
      rw [two, dropped] at one
      cases one

end FlowMonitor

end DataCenter.Flows
