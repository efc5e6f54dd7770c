import DataCenter.Flows.AggregatedStatistics

/-! # Lost packets

A packet that was sent is received, lost or still tracked: how the count of the
lost packets that the monitor keeps for each flow compares with the difference
of those sent and received. -/

namespace DataCenter.Flows

open Std OrderedMap

namespace FlowMonitor

/-! ## The two accounts -/

/-- The packets of a flow that are tracked. -/
def inFlight (monitor : FlowMonitor) (flowId : UInt32) : Nat :=
  ((support monitor.trackedPackets).filter fun key => key.flowId = flowId).card

/-- What was sent and not received is lost or tracked. -/
def Balanced (monitor : FlowMonitor) : Prop :=
  ∀ flowId, ((monitor.getStatsForFlow flowId).txPackets.toNat : Int) -
      (monitor.getStatsForFlow flowId).rxPackets.toNat =
    (monitor.getStatsForFlow flowId).lostPackets.toNat + monitor.inFlight flowId

/-- The sum of what is written as `lostPackets` for the flows. -/
def lostTotal (monitor : FlowMonitor) : Nat :=
  monitor.sum fun stats => stats.lostPackets.toNat

/-- The account of each flow is balanced, and with nothing in flight the printed figure
is the sum of those that are written. -/
structure AccountsAgree (monitor : FlowMonitor) : Prop where
  balanced : monitor.Balanced
  printed : monitor.trackedPackets = ∅ →
    monitor.totals.lostPackets.toNat = monitor.lostTotal

/-- A packet is not sent again while it is tracked, its flow has not used up its
counter, and only tracked packets are dropped. -/
def Tidy (monitor : FlowMonitor) (event : Event) : Prop :=
  monitor.enabled → match event.report with
    | .firstTx flowId packetId _ =>
        (⟨flowId, packetId⟩ : TrackedKey) ∉ monitor.trackedPackets ∧
        (monitor.getStatsForFlow flowId).txPackets.toNat + 1 < 2 ^ 32
    | .drop flowId packetId _ _ =>
        (⟨flowId, packetId⟩ : TrackedKey) ∈ monitor.trackedPackets
    | _ => True

/-- With nothing in flight, the losses of all flows fit 32 bits. -/
def LossesFit (monitor : FlowMonitor) : Prop :=
  monitor.trackedPackets = ∅ → monitor.lostTotal < 2 ^ 32

/-! ## Statistics and tracked packets after an update -/

section Updates

variable (monitor : FlowMonitor) (flowId other : UInt32) (stats : FlowStats)
  (key : TrackedKey) (tracked : TrackedPacket)

@[simp] theorem getStatsForFlow_setStats :
    (monitor.setStats flowId stats).getStatsForFlow other =
      if flowId = other then stats else monitor.getStatsForFlow other := by
  rw [getStatsForFlow, setStats]
  simp only [ExtTreeMap.getElem?_insert, LawfulEqCmp.compare_eq_iff_eq]
  split <;> rfl

@[simp] theorem getStatsForFlow_track :
    (monitor.track key tracked).getStatsForFlow other =
      monitor.getStatsForFlow other := rfl

@[simp] theorem getStatsForFlow_untrack :
    (monitor.untrack key).getStatsForFlow other = monitor.getStatsForFlow other := rfl

@[simp] theorem inFlight_setStats :
    (monitor.setStats flowId stats).inFlight other = monitor.inFlight other := rfl

theorem inFlight_track :
    (monitor.track key tracked).inFlight other =
      monitor.inFlight other +
        if key.flowId = other ∧ key ∉ monitor.trackedPackets then 1 else 0 := by
  unfold inFlight track
  rw [support_insert, Finset.filter_insert]
  by_cases here : key.flowId = other
  · by_cases known : key ∈ monitor.trackedPackets
    · have member : key ∈ (support monitor.trackedPackets).filter fun key =>
          key.flowId = other :=
        Finset.mem_filter.mpr ⟨mem_support.mpr known, here⟩
      simp [here, known, Finset.insert_eq_of_mem member]
    · have absent : key ∉ (support monitor.trackedPackets).filter fun key =>
          key.flowId = other :=
        fun member => known (mem_support.mp (Finset.mem_filter.mp member).1)
      simp [here, known, Finset.card_insert_of_notMem absent]
  · simp [here]

theorem inFlight_untrack :
    (monitor.untrack key).inFlight other +
      (if key.flowId = other ∧ key ∈ monitor.trackedPackets then 1 else 0) =
        monitor.inFlight other := by
  unfold inFlight untrack
  rw [support_erase, Finset.filter_erase]
  by_cases tracked : key.flowId = other ∧ key ∈ monitor.trackedPackets
  · have member : key ∈ (support monitor.trackedPackets).filter fun key =>
        key.flowId = other :=
      Finset.mem_filter.mpr ⟨mem_support.mpr tracked.2, tracked.1⟩
    rw [if_pos tracked, Finset.card_erase_add_one member]
  · have absent : key ∉ (support monitor.trackedPackets).filter fun key =>
        key.flowId = other := by
      intro member
      rcases Finset.mem_filter.mp member with ⟨present, here⟩
      exact tracked ⟨here, mem_support.mp present⟩
    rw [if_neg tracked, Finset.erase_eq_of_notMem absent, Nat.add_zero]

variable {key} in
theorem inFlight_untrack_of_not_mem (unknown : key ∉ monitor.trackedPackets) :
    ((monitor.setStats flowId stats).untrack key).inFlight other =
      monitor.inFlight other := by
  have same := inFlight_untrack (monitor.setStats flowId stats) other key
  rw [if_neg fun both => unknown both.2] at same
  exact same

end Updates

/-! ## What each report does to the balance -/

section Reports

variable {monitor : FlowMonitor} {now : Int}
  {flowId packetId packetSize reasonCode : UInt32}

/-- A first transmission keeps the balance exactly if the packet is new and the counter
has room. -/
theorem balanced_reportFirstTx (balanced : monitor.Balanced)
    (enabled : monitor.enabled = true) :
    (monitor.reportFirstTx now flowId packetId packetSize).Balanced ↔
      (⟨flowId, packetId⟩ : TrackedKey) ∉ monitor.trackedPackets ∧
        (monitor.getStatsForFlow flowId).txPackets.toNat + 1 < 2 ^ 32 := by
  have before := balanced flowId
  have bound := (monitor.getStatsForFlow flowId).txPackets.toNat_lt
  rw [Balanced, reportFirstTx]
  rw [if_neg (not_not_intro enabled)]
  simp only [getStatsForFlow_setStats, getStatsForFlow_track, inFlight_setStats,
    inFlight_track]
  constructor
  · intro after
    have here := after flowId
    simp only [if_true, true_and, UInt32.toNat_add, UInt32.toNat_one] at here
    split at here
    · next unknown =>
        refine ⟨unknown, ?_⟩
        omega
    · omega
  · intro tidy other
    by_cases here : flowId = other
    · subst here
      simp only [if_true, true_and, UInt32.toNat_add, UInt32.toNat_one, tidy.1,
        not_false_eq_true]
      omega
    · simp only [here, if_false, false_and, Nat.add_zero]
      exact balanced other

theorem inFlight_pos {key : TrackedKey} (known : key ∈ monitor.trackedPackets) :
    0 < monitor.inFlight key.flowId :=
  Finset.card_pos.mpr ⟨key, Finset.mem_filter.mpr ⟨mem_support.mpr known, rfl⟩⟩

/-- A tracked packet that becomes a received or a lost one leaves the account balanced. -/
theorem Balanced.settle (balanced : monitor.Balanced) {key : TrackedKey}
    (known : key ∈ monitor.trackedPackets) {stats : FlowStats}
    (sent : stats.txPackets = (monitor.getStatsForFlow key.flowId).txPackets)
    (settled : stats.rxPackets.toNat + stats.lostPackets.toNat =
      (monitor.getStatsForFlow key.flowId).rxPackets.toNat +
        (monitor.getStatsForFlow key.flowId).lostPackets.toNat + 1) :
    ((monitor.setStats key.flowId stats).untrack key).Balanced := by
  intro other
  have before := balanced other
  have fewer := (monitor.setStats key.flowId stats).inFlight_untrack other key
  have still : key ∈ (monitor.setStats key.flowId stats).trackedPackets := known
  rw [inFlight_setStats] at fewer
  simp only [getStatsForFlow_untrack, getStatsForFlow_setStats]
  by_cases here : key.flowId = other
  · subst here
    rw [if_pos ⟨rfl, still⟩] at fewer
    rw [if_pos rfl, sent]
    omega
  · rw [if_neg fun both => here both.1] at fewer
    rw [if_neg here]
    omega

/-- A counter of a flow with a tracked packet has room for one more. -/
theorem Balanced.room (balanced : monitor.Balanced) {key : TrackedKey}
    (known : key ∈ monitor.trackedPackets) :
    (monitor.getStatsForFlow key.flowId).rxPackets.toNat + 1 < 2 ^ 32 ∧
      (monitor.getStatsForFlow key.flowId).lostPackets.toNat + 1 < 2 ^ 32 := by
  have before := balanced key.flowId
  have some := inFlight_pos known
  have bound := (monitor.getStatsForFlow key.flowId).txPackets.toNat_lt
  constructor <;> omega

theorem balanced_reportForwarding (balanced : monitor.Balanced) :
    (monitor.reportForwarding now flowId packetId).Balanced := by
  rw [reportForwarding]
  split
  · exact balanced
  · split
    · exact balanced
    · next tracked stored =>
        intro other
        have known : (⟨flowId, packetId⟩ : TrackedKey) ∈ monitor.trackedPackets :=
          ExtTreeMap.mem_iff_isSome_getElem?.mpr (by rw [stored]; rfl)
        simp only [getStatsForFlow_track, inFlight_track, known, not_true_eq_false,
          and_false, if_false, Nat.add_zero]
        exact balanced other

/-- A reception takes a tracked packet from one side of the account to the other. -/
theorem balanced_reportLastRx (balanced : monitor.Balanced) :
    (monitor.reportLastRx now flowId packetId packetSize).Balanced := by
  rw [reportLastRx]
  split
  · exact balanced
  · split
    · exact balanced
    · next tracked stored =>
        have known : (⟨flowId, packetId⟩ : TrackedKey) ∈ monitor.trackedPackets :=
          ExtTreeMap.mem_iff_isSome_getElem?.mpr (by rw [stored]; rfl)
        have room : (monitor.getStatsForFlow flowId).rxPackets.toNat + 1 < 2 ^ 32 :=
          (balanced.room known).1
        apply balanced.settle known
        · simp
        · simp [UInt32.toNat_add]
          omega

/-- A drop keeps the balance exactly if the packet is tracked. -/
theorem balanced_reportDrop (balanced : monitor.Balanced)
    (enabled : monitor.enabled = true) {next : FlowMonitor}
    (dropped : monitor.reportDrop flowId packetId packetSize reasonCode = some next) :
    next.Balanced ↔ (⟨flowId, packetId⟩ : TrackedKey) ∈ monitor.trackedPackets := by
  rw [reportDrop] at dropped
  rw [if_neg (not_not_intro enabled)] at dropped
  dsimp only at dropped
  split at dropped
  · cases dropped
    constructor
    · intro after
      by_contra unknown
      have here := after flowId
      have before := balanced flowId
      have bound := (monitor.getStatsForFlow flowId).lostPackets.toNat_lt
      rw [inFlight_untrack_of_not_mem _ _ _ _ unknown] at here
      simp [UInt32.toNat_add] at here
      omega
    · intro known
      have room : (monitor.getStatsForFlow flowId).lostPackets.toNat + 1 < 2 ^ 32 :=
        (balanced.room known).2
      apply balanced.settle known
      · simp
      · simp [UInt32.toNat_add]
        omega
  · cases dropped

/-- One iteration of the check, which touches no packet but its own. -/
theorem balanced_checkTracked (balanced : monitor.Balanced) {maxDelay : Int}
    {entry : TrackedKey × TrackedPacket} (present : entry.1 ∈ monitor.trackedPackets)
    {next : FlowMonitor} (checked : checkTracked now maxDelay monitor entry = some next) :
    next.Balanced ∧
      ∀ key ∈ monitor.trackedPackets, entry.1 ≠ key → key ∈ next.trackedPackets := by
  rw [checkTracked] at checked
  split at checked
  · rcases Option.map_eq_some_iff.mp checked with ⟨stats, stored, rfl⟩
    have statsIs : monitor.getStatsForFlow entry.1.flowId = stats := by
      rw [getStatsForFlow, stored]
      rfl
    have room := (balanced.room present).2
    constructor
    · apply balanced.settle present
      · rw [statsIs]
      · rw [statsIs] at room ⊢
        simp only [UInt32.toNat_add, UInt32.toNat_one]
        omega
    · intro key known different
      have other : compare entry.1 key ≠ .eq := by simpa using different
      exact ExtTreeMap.mem_erase.mpr ⟨other, known⟩
  · cases checked
    exact ⟨balanced, fun key known _ => known⟩

/-- The loop over tracked packets that are all different. -/
theorem balanced_foldlM {maxDelay : Int} {entries : List (TrackedKey × TrackedPacket)}
    (distinct : entries.Pairwise fun first second => first.1 ≠ second.1)
    (balanced : monitor.Balanced)
    (present : ∀ entry ∈ entries, entry.1 ∈ monitor.trackedPackets) {next : FlowMonitor}
    (checked : entries.foldlM (checkTracked now maxDelay) monitor = some next) :
    next.Balanced := by
  induction entries generalizing monitor with
  | nil =>
      cases checked
      exact balanced
  | cons entry entries induction =>
      rw [List.foldlM_cons] at checked
      rcases Option.bind_eq_some_iff.mp checked with ⟨middle, first, rest⟩
      have parts := List.pairwise_cons.mp distinct
      have step := balanced_checkTracked balanced (present entry List.mem_cons_self) first
      apply induction parts.2 step.1 ?_ rest
      intro later member
      exact step.2 later.1 (present later (List.mem_cons_of_mem _ member))
        (parts.1 later member)

theorem balanced_checkForLostPackets (balanced : monitor.Balanced) {maxDelay : Int}
    {next : FlowMonitor}
    (checked : monitor.checkForLostPackets now maxDelay = some next) :
    next.Balanced := by
  have distinct : monitor.trackedPackets.toList.Pairwise
      fun first second => first.1 ≠ second.1 := by
    apply ExtTreeMap.distinct_keys_toList.imp
    intro first second different same
    exact different (by simp [same])
  apply balanced_foldlM distinct balanced ?_ checked
  intro entry member
  have stored := ExtTreeMap.mem_toList_iff_getElem?_eq_some.mp member
  exact ExtTreeMap.mem_iff_isSome_getElem?.mpr (by rw [stored]; rfl)

theorem balanced_stopRightNow (balanced : monitor.Balanced) {next : FlowMonitor}
    (stopped : monitor.stopRightNow now = some next) : next.Balanced := by
  rw [stopRightNow] at stopped
  split at stopped
  · cases stopped
    exact balanced
  · have off : ({ monitor with enabled := false } : FlowMonitor).Balanced := balanced
    exact balanced_checkForLostPackets off stopped

/-- A report keeps the balance exactly if it is tidy. -/
theorem balanced_step (balanced : monitor.Balanced) {event : Event} {next : FlowMonitor}
    (stepped : step monitor event = some next) : next.Balanced ↔ monitor.Tidy event := by
  rcases event with ⟨now, report⟩
  cases report with
  | firstTx flowId packetId packetSize =>
      cases stepped
      by_cases enabled : monitor.enabled = true
      · have tidy : monitor.Tidy ⟨now, .firstTx flowId packetId packetSize⟩ ↔ _ :=
          forall_prop_of_true enabled
        exact (balanced_reportFirstTx balanced enabled).trans tidy.symm
      · rw [reportFirstTx, if_pos enabled]
        exact iff_of_true balanced fun on => absurd on enabled
  | drop flowId packetId packetSize reasonCode =>
      by_cases enabled : monitor.enabled = true
      · have tidy : monitor.Tidy ⟨now, .drop flowId packetId packetSize reasonCode⟩ ↔ _ :=
          forall_prop_of_true enabled
        exact (balanced_reportDrop balanced enabled stepped).trans tidy.symm
      · have dropped :
            monitor.reportDrop flowId packetId packetSize reasonCode = some next :=
          stepped
        rw [reportDrop, if_pos enabled] at dropped
        cases dropped
        exact iff_of_true balanced fun on => absurd on enabled
  | forwarding flowId packetId packetSize =>
      cases stepped
      exact iff_of_true (balanced_reportForwarding balanced) fun _ => trivial
  | lastRx flowId packetId packetSize =>
      cases stepped
      exact iff_of_true (balanced_reportLastRx balanced) fun _ => trivial
  | checkForLostPackets maxDelay =>
      exact iff_of_true (balanced_checkForLostPackets balanced stepped) fun _ => trivial
  | periodicCheck =>
      exact iff_of_true (balanced_checkForLostPackets balanced stepped) fun _ => trivial
  | startRightNow =>
      cases stepped
      exact iff_of_true balanced fun _ => trivial
  | stopRightNow =>
      exact iff_of_true (balanced_stopRightNow balanced stepped) fun _ => trivial

end Reports

/-! ## The printed figure -/

theorem inFlight_of_empty {monitor : FlowMonitor} (nothing : monitor.trackedPackets = ∅)
    (flowId : UInt32) : monitor.inFlight flowId = 0 := by
  simp [inFlight, nothing]

/-- With nothing in flight, the flows together have sent what they received and lost. -/
theorem sentTotal_eq {monitor : FlowMonitor} (balanced : monitor.Balanced)
    (nothing : monitor.trackedPackets = ∅) :
    monitor.sentTotal = monitor.receivedTotal + monitor.lostTotal := by
  unfold sentTotal receivedTotal lostTotal sum
  rw [← List.sum_map_add]
  congr 1
  apply List.map_congr_left
  intro flow member
  have stored := ExtTreeMap.mem_toList_iff_getElem?_eq_some.mp member
  have account := balanced flow.1
  rw [inFlight_of_empty nothing, getStatsForFlow, stored, Option.getD_some] at account
  dsimp only
  omega

/-- The printed figure is the sum of the written ones if that fits it. -/
theorem lostPackets_eq_iff {monitor : FlowMonitor} (balanced : monitor.Balanced)
    (nothing : monitor.trackedPackets = ∅) :
    monitor.totals.lostPackets.toNat = monitor.lostTotal ↔
      monitor.lostTotal < 2 ^ 32 := by
  have sent := sentTotal_eq balanced nothing
  rw [lostPackets_eq, UInt32.toNat_sub, toNat_txPackets, toNat_rxPackets]
  omega

theorem accountsAgree_iff (monitor : FlowMonitor) :
    monitor.AccountsAgree ↔ monitor.Balanced ∧ monitor.LossesFit := by
  constructor
  · intro agree
    exact ⟨agree.balanced, fun nothing =>
      (lostPackets_eq_iff agree.balanced nothing).mp (agree.printed nothing)⟩
  · intro both
    exact ⟨both.1, fun nothing =>
      (lostPackets_eq_iff both.1 nothing).mpr (both.2 nothing)⟩

/-! ## Whole runs -/

theorem balanced_initial (maxPerHopDelay : Int) :
    ({ maxPerHopDelay } : FlowMonitor).Balanced := by
  intro flowId
  rw [inFlight_of_empty rfl]
  simp [getStatsForFlow]

/-- From the construction of a monitor on, the two accounts agree in every state exactly
if every report is tidy and the losses fit 32 bits. -/
theorem accountsAgree_throughout_iff (maxPerHopDelay : Int) (events : List Event) :
    step.Throughout AccountsAgree { maxPerHopDelay } events ↔
      step.EveryStep Tidy { maxPerHopDelay } events ∧
        step.Throughout LossesFit { maxPerHopDelay } events := by
  rw [PartialStep.throughout_congr accountsAgree_iff, PartialStep.throughout_and]
  have decides : step.Throughout Balanced { maxPerHopDelay } events ↔
      step.EveryStep Tidy { maxPerHopDelay } events :=
    PartialStep.throughout_iff_everyStep
      (fun _ _ _ balanced stepped => balanced_step balanced stepped)
      (balanced_initial maxPerHopDelay) events
  rw [decides]

/-- A packet is dropped after the check has given it up: it is lost twice. -/
theorem late_drop_is_lost_twice :
    ¬ step.Throughout AccountsAgree {} [⟨0, .startRightNow⟩, ⟨1, .firstTx 1 1 100⟩,
      ⟨12, .checkForLostPackets 10⟩, ⟨13, .drop 1 1 100 0⟩] := by
  intro throughout
  have counted : (step.run {} [⟨0, .startRightNow⟩, ⟨1, .firstTx 1 1 100⟩,
      ⟨12, .checkForLostPackets 10⟩, ⟨13, .drop 1 1 100 0⟩]).map (fun monitor =>
        ((monitor.getStatsForFlow 1).txPackets, (monitor.getStatsForFlow 1).rxPackets,
          (monitor.getStatsForFlow 1).lostPackets)) = some (1, 0, 2) := by decide
  rcases Option.map_eq_some_iff.mp counted with ⟨final, ran, figures⟩
  simp only [Prod.mk.injEq] at figures
  have account := (throughout.last ran).balanced 1
  rw [figures.1, figures.2.1, figures.2.2] at account
  simp at account
  omega

end FlowMonitor

end DataCenter.Flows
