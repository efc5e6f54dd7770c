import DataCenter.Flows.LostPackets

/-! # The running difference

`PrintAggregatedStatistics` subtracts what was received so far from what was sent
so far, unsigned and in every iteration.  The tracked packets show that this never
goes below zero: a reception is counted only with a packet that leaves them. -/

namespace DataCenter.Flows

open Std OrderedMap

/-- The report of a transmission. -/
def Event.isTransmission (event : Event) : Bool :=
  match event.report with
  | .firstTx _ _ _ => true
  | _ => false

/-- Reports for which the source is defined: the drop that is not has a reason without a
successor. -/
def Event.Defined (event : Event) : Prop :=
  ∀ flowId packetId packetSize, event.report ≠ .drop flowId packetId packetSize 0xffffffff

namespace FlowMonitor

/-- What the statistics of all flows and the tracked packets have to do with each other,
when so many transmissions have been reported. -/
structure Accounted (monitor : FlowMonitor) (sent : Nat) : Prop where
  received : ∀ flowId, (monitor.getStatsForFlow flowId).rxPackets.toNat +
    monitor.inFlight flowId ≤
    (monitor.getStatsForFlow flowId).txPackets.toNat
  known : ∀ key ∈ monitor.trackedPackets, key.flowId ∈ monitor.flowStats
  reasons : ∀ flowId, (monitor.getStatsForFlow flowId).packetsDropped.length =
    (monitor.getStatsForFlow flowId).bytesDropped.length
  transmissions : monitor.sentTotal ≤ sent

/-- The flows that the loop of `PrintAggregatedStatistics` has gone through. -/
def flowsBefore (monitor : FlowMonitor) (count : Nat) : List FlowStats :=
  (monitor.flowStats.toList.map Prod.snd).take count

/-- Its variables after so many iterations. -/
def totalsBefore (monitor : FlowMonitor) (count : Nat) : Totals :=
  (monitor.flowsBefore count).foldl Totals.addFlow {}

/-! ## Sums over the flows -/

theorem sum_empty (figure : FlowStats → Nat) : ({} : FlowMonitor).sum figure = 0 := by
  have noKeys := sum_toList (∅ : ExtTreeMap UInt32 FlowStats compare) figure
  rw [support_empty, Finset.sum_empty] at noKeys
  exact noKeys

theorem sum_setStats (monitor : FlowMonitor) (figure : FlowStats → Nat)
    (zero : figure {} = 0) (flowId : UInt32) (stats : FlowStats) :
    (monitor.setStats flowId stats).sum figure + figure (monitor.getStatsForFlow flowId) =
      monitor.sum figure + figure stats := by
  have before : figure (monitor.getStatsForFlow flowId) =
      monitor.flowStats[flowId]?.elim 0 figure := by
    rw [getStatsForFlow]
    cases monitor.flowStats[flowId]? with
    | none => exact zero
    | some stats => rfl
  rw [before]
  exact sum_toList_insert monitor.flowStats flowId stats figure

theorem sentTotal_setStats (monitor : FlowMonitor) (flowId : UInt32) (stats : FlowStats) :
    (monitor.setStats flowId stats).sentTotal +
      (monitor.getStatsForFlow flowId).txPackets.toNat =
      monitor.sentTotal + stats.txPackets.toNat :=
  monitor.sum_setStats (fun stats => stats.txPackets.toNat) rfl flowId stats

theorem txPackets_le_sentTotal (monitor : FlowMonitor) (flowId : UInt32) :
    (monitor.getStatsForFlow flowId).txPackets.toNat ≤ monitor.sentTotal := by
  have without := monitor.sentTotal_setStats flowId {}
  change _ = monitor.sentTotal + 0 at without
  omega

theorem mem_flowStats_setStats {monitor : FlowMonitor} {flowId other : UInt32}
    {stats : FlowStats} :
    other ∈ (monitor.setStats flowId stats).flowStats ↔
      flowId = other ∨ other ∈ monitor.flowStats := by
  simp [setStats]

/-! ## One report -/

section Reports

variable {monitor next : FlowMonitor} {sent : Nat} {now : Int}
  {flowId packetId packetSize reasonCode : UInt32}

/-- A packet of a known flow that is tracked once more changes no account. -/
theorem Accounted.retrack (accounted : monitor.Accounted sent) {key : TrackedKey}
    (present : key ∈ monitor.trackedPackets) (tracked : TrackedPacket) :
    (monitor.track key tracked).Accounted sent := by
  constructor
  · intro other
    have same := inFlight_track monitor other key tracked
    rw [if_neg fun both => both.2 present] at same
    rw [same]
    exact accounted.received other
  · intro other member
    rcases ExtTreeMap.mem_insert.mp member with same | earlier
    · rw [← LawfulEqCmp.eq_of_compare same]
      exact accounted.known key present
    · exact accounted.known other earlier
  · exact accounted.reasons
  · exact accounted.transmissions

/-- A packet that is sent is counted before it can be received. -/
theorem Accounted.reportFirstTx (accounted : monitor.Accounted sent)
    (few : sent + 1 < 2 ^ 32) :
    (monitor.reportFirstTx now flowId packetId packetSize).Accounted (sent + 1) := by
  rw [FlowMonitor.reportFirstTx]
  split
  · exact { accounted with transmissions := Nat.le_succ_of_le accounted.transmissions }
  · have bound := monitor.txPackets_le_sentTotal flowId
    have below := accounted.transmissions
    have counted : ((monitor.getStatsForFlow flowId).txPackets + 1).toNat =
        (monitor.getStatsForFlow flowId).txPackets.toNat + 1 := by
      rw [UInt32.toNat_add, UInt32.toNat_one]
      omega
    constructor
    · intro other
      have before := accounted.received other
      have more := inFlight_track monitor other ⟨flowId, packetId⟩
        { firstSeenTime := now, lastSeenTime := now, timesForwarded := 0 }
      simp only [getStatsForFlow_setStats, getStatsForFlow_track, inFlight_setStats, more]
      by_cases here : flowId = other
      · subst here
        simp only [if_true, true_and, counted]
        split <;> omega
      · simp only [here, if_false, false_and, Nat.add_zero]
        exact before
    · intro other member
      apply mem_flowStats_setStats.mpr
      rcases ExtTreeMap.mem_insert.mp member with same | earlier
      · rw [← LawfulEqCmp.eq_of_compare same]
        exact .inl rfl
      · exact .inr (accounted.known other earlier)
    · intro other
      simp only [getStatsForFlow_setStats, getStatsForFlow_track]
      split
      · exact accounted.reasons flowId
      · exact accounted.reasons other
    · apply Nat.le_of_add_le_add_right
        (b := (monitor.getStatsForFlow flowId).txPackets.toNat)
      refine (sentTotal_setStats _ flowId _).trans_le ?_
      change monitor.sentTotal +
        ((monitor.getStatsForFlow flowId).txPackets + 1).toNat ≤ _
      omega

/-- A packet that is no longer tracked may have been received, which no other may. -/
theorem Accounted.settle (accounted : monitor.Accounted sent) (key : TrackedKey)
    {stats : FlowStats}
    (sentSame : stats.txPackets = (monitor.getStatsForFlow key.flowId).txPackets)
    (received : stats.rxPackets.toNat ≤
      (monitor.getStatsForFlow key.flowId).rxPackets.toNat +
      if key ∈ monitor.trackedPackets then 1 else 0)
    (reasons : stats.packetsDropped.length = stats.bytesDropped.length) :
    ((monitor.setStats key.flowId stats).untrack key).Accounted sent := by
  constructor
  · intro other
    have before := accounted.received other
    have fewer := (monitor.setStats key.flowId stats).inFlight_untrack other key
    rw [inFlight_setStats] at fewer
    change _ + (if key.flowId = other ∧ key ∈ monitor.trackedPackets then 1 else 0) = _
      at fewer
    simp only [getStatsForFlow_untrack, getStatsForFlow_setStats]
    by_cases here : key.flowId = other
    · subst here
      rw [if_pos rfl, sentSame]
      simp only [true_and] at fewer
      omega
    · rw [if_neg fun both => here both.1] at fewer
      rw [if_neg here]
      omega
  · intro other member
    apply mem_flowStats_setStats.mpr
    exact .inr (accounted.known other (ExtTreeMap.mem_of_mem_erase member))
  · intro other
    simp only [getStatsForFlow_untrack, getStatsForFlow_setStats]
    split
    · exact reasons
    · exact accounted.reasons other
  · have total := sentTotal_setStats monitor key.flowId stats
    rw [sentSame] at total
    change (monitor.setStats key.flowId stats).sentTotal ≤ sent
    have below := accounted.transmissions
    omega

theorem Accounted.reportForwarding (accounted : monitor.Accounted sent) :
    (monitor.reportForwarding now flowId packetId).Accounted sent := by
  rw [FlowMonitor.reportForwarding]
  split
  · exact accounted
  · split
    · exact accounted
    · next tracked stored =>
        have present : (⟨flowId, packetId⟩ : TrackedKey) ∈ monitor.trackedPackets :=
          ExtTreeMap.mem_iff_isSome_getElem?.mpr (by rw [stored]; rfl)
        exact accounted.retrack present _

theorem Accounted.reportLastRx (accounted : monitor.Accounted sent) :
    (monitor.reportLastRx now flowId packetId packetSize).Accounted sent := by
  rw [FlowMonitor.reportLastRx]
  split
  · exact accounted
  · split
    · exact accounted
    · next tracked stored =>
        have present : (⟨flowId, packetId⟩ : TrackedKey) ∈ monitor.trackedPackets :=
          ExtTreeMap.mem_iff_isSome_getElem?.mpr (by rw [stored]; rfl)
        apply accounted.settle ⟨flowId, packetId⟩
        · simp
        · rw [if_pos present]
          simp [UInt32.toNat_add]
          omega
        · simp [accounted.reasons flowId]

theorem Accounted.reportDrop (accounted : monitor.Accounted sent)
    (dropped : monitor.reportDrop flowId packetId packetSize reasonCode = some next) :
    next.Accounted sent := by
  rw [FlowMonitor.reportDrop] at dropped
  split at dropped
  · cases dropped
    exact accounted
  · dsimp only at dropped
    split at dropped
    · cases dropped
      apply accounted.settle ⟨flowId, packetId⟩
      · simp
      · simp
      · simp only [List.length_set]
        refine (FlowStats.length_withReason _ _ ?_).1
        exact accounted.reasons flowId
    · cases dropped

/-- A reason with a successor has its two counters. -/
theorem exists_counters (stats : FlowStats)
    (same : stats.packetsDropped.length = stats.bytesDropped.length)
    (defined : reasonCode ≠ 0xffffffff) :
    ∃ packets bytes,
      (stats.withReason reasonCode).packetsDropped[reasonCode.toNat]? = some packets ∧
        (stats.withReason reasonCode).bytesDropped[reasonCode.toNat]? = some bytes := by
  rcases stats.length_withReason reasonCode same with ⟨lengths, room⟩
  have bound : reasonCode.toNat < (reasonCode + 1).toNat := by
    have differ : reasonCode.toNat ≠ 0xffffffff :=
      fun same => defined (UInt32.toNat_inj.mp same)
    have small := reasonCode.toNat_lt
    rw [UInt32.toNat_add, UInt32.toNat_one]
    omega
  have packets :
      reasonCode.toNat < (stats.withReason reasonCode).packetsDropped.length := by omega
  have bytes :
      reasonCode.toNat < (stats.withReason reasonCode).bytesDropped.length := by omega
  exact ⟨_, _, List.getElem?_eq_getElem packets, List.getElem?_eq_getElem bytes⟩

/-- Of the drops, only the one without a successor of its reason is undefined. -/
theorem Accounted.exists_reportDrop (accounted : monitor.Accounted sent)
    (defined : reasonCode ≠ 0xffffffff) :
    ∃ next, monitor.reportDrop flowId packetId packetSize reasonCode = some next := by
  rw [FlowMonitor.reportDrop]
  split
  · exact ⟨monitor, rfl⟩
  · dsimp only
    split
    · exact ⟨_, rfl⟩
    · next missing =>
        rcases exists_counters
          { monitor.getStatsForFlow flowId with
            lostPackets := (monitor.getStatsForFlow flowId).lostPackets + 1 }
          (accounted.reasons flowId) defined with ⟨packets, bytes, packetsAre, bytesAre⟩
        exact absurd bytesAre (missing packets bytes packetsAre)

/-- One iteration of the check: the flow is there. -/
theorem Accounted.exists_checkTracked (accounted : monitor.Accounted sent)
    (maxDelay : Int)
    {entry : TrackedKey × TrackedPacket} (known : entry.1.flowId ∈ monitor.flowStats) :
    ∃ next, checkTracked now maxDelay monitor entry = some next ∧ next.Accounted sent ∧
      ∀ other ∈ monitor.flowStats, other ∈ next.flowStats := by
  rw [checkTracked]
  split
  · rcases Option.isSome_iff_exists.mp (ExtTreeMap.mem_iff_isSome_getElem?.mp known) with
      ⟨stats, stored⟩
    have statsAre : monitor.getStatsForFlow entry.1.flowId = stats := by
      rw [getStatsForFlow, stored]
      rfl
    refine ⟨_, by rw [stored]; rfl, ?_, fun other member => ?_⟩
    · rw [← statsAre]
      apply accounted.settle
      · rfl
      · exact Nat.le_add_right _ _
      · exact accounted.reasons entry.1.flowId
    · exact mem_flowStats_setStats.mpr (.inr member)
  · exact ⟨monitor, rfl, accounted, fun other member => member⟩

theorem Accounted.exists_foldlM (accounted : monitor.Accounted sent) (maxDelay : Int)
    {entries : List (TrackedKey × TrackedPacket)}
    (known : ∀ entry ∈ entries, entry.1.flowId ∈ monitor.flowStats) :
    ∃ next, entries.foldlM (checkTracked now maxDelay) monitor = some next ∧
      next.Accounted sent := by
  induction entries generalizing monitor with
  | nil => exact ⟨monitor, rfl, accounted⟩
  | cons entry entries induction =>
      rcases accounted.exists_checkTracked maxDelay (known entry List.mem_cons_self) with
        ⟨middle, checked, still, keeps⟩
      rcases induction still fun later member =>
        keeps _ (known later (List.mem_cons_of_mem _ member)) with ⟨next, rest, holds⟩
      refine ⟨next, ?_, holds⟩
      rw [List.foldlM_cons, checked]
      exact rest

/-- The assertion of the check never fails. -/
theorem Accounted.exists_checkForLostPackets (accounted : monitor.Accounted sent)
    (now maxDelay : Int) :
    ∃ next, monitor.checkForLostPackets now maxDelay = some next ∧
      next.Accounted sent := by
  apply accounted.exists_foldlM maxDelay
  intro entry member
  have stored := ExtTreeMap.mem_toList_iff_getElem?_eq_some.mp member
  exact accounted.known entry.1
    (ExtTreeMap.mem_iff_isSome_getElem?.mpr (by rw [stored]; rfl))

theorem Accounted.exists_stopRightNow (accounted : monitor.Accounted sent) (now : Int) :
    ∃ next, monitor.stopRightNow now = some next ∧ next.Accounted sent := by
  rw [stopRightNow]
  split
  · exact ⟨monitor, rfl, accounted⟩
  · have off : ({ monitor with enabled := false } : FlowMonitor).Accounted sent :=
      ⟨accounted.received, accounted.known, accounted.reasons, accounted.transmissions⟩
    exact off.exists_checkForLostPackets now _

theorem Accounted.of_exists {checked : Option FlowMonitor}
    (checkedIs : checked = some next)
    (all : ∃ state, checked = some state ∧ state.Accounted sent) :
    next.Accounted sent := by
  rcases all with ⟨state, same, holds⟩
  rw [checkedIs] at same
  cases same
  exact holds

/-- A report keeps the accounts, with one more transmission if it is one. -/
theorem Accounted.step (accounted : monitor.Accounted sent) {event : Event}
    (few : sent + (if event.isTransmission then 1 else 0) < 2 ^ 32)
    (stepped : FlowMonitor.step monitor event = some next) :
    next.Accounted (sent + if event.isTransmission then 1 else 0) := by
  rcases event with ⟨now, report⟩
  cases report with
  | firstTx flowId packetId packetSize =>
      cases stepped
      exact accounted.reportFirstTx few
  | forwarding flowId packetId packetSize =>
      cases stepped
      exact accounted.reportForwarding
  | lastRx flowId packetId packetSize =>
      cases stepped
      exact accounted.reportLastRx
  | drop flowId packetId packetSize reasonCode => exact accounted.reportDrop stepped
  | checkForLostPackets maxDelay =>
      exact .of_exists stepped (accounted.exists_checkForLostPackets now maxDelay)
  | periodicCheck =>
      exact .of_exists stepped (accounted.exists_checkForLostPackets now _)
  | startRightNow =>
      cases stepped
      exact ⟨accounted.received, accounted.known, accounted.reasons,
        accounted.transmissions⟩
  | stopRightNow => exact .of_exists stepped (accounted.exists_stopRightNow now)

theorem Accounted.exists_step (accounted : monitor.Accounted sent) {event : Event}
    (defined : event.Defined) : ∃ next, FlowMonitor.step monitor event = some next := by
  rcases event with ⟨now, report⟩
  cases report with
  | firstTx flowId packetId packetSize => exact ⟨_, rfl⟩
  | forwarding flowId packetId packetSize => exact ⟨_, rfl⟩
  | lastRx flowId packetId packetSize => exact ⟨_, rfl⟩
  | drop flowId packetId packetSize reasonCode =>
      apply accounted.exists_reportDrop
      intro same
      subst same
      exact defined flowId packetId packetSize rfl
  | checkForLostPackets maxDelay =>
      rcases accounted.exists_checkForLostPackets now maxDelay with ⟨next, checked, -⟩
      exact ⟨next, checked⟩
  | periodicCheck =>
      rcases accounted.exists_checkForLostPackets now monitor.maxPerHopDelay with
        ⟨next, checked, -⟩
      exact ⟨next, checked⟩
  | startRightNow => exact ⟨_, rfl⟩
  | stopRightNow =>
      rcases accounted.exists_stopRightNow now with ⟨next, stopped, -⟩
      exact ⟨next, stopped⟩

end Reports

/-! ## Whole runs -/

theorem accounted_initial (maxPerHopDelay : Int) :
    ({ maxPerHopDelay } : FlowMonitor).Accounted 0 := by
  constructor
  · intro flowId
    rw [inFlight_of_empty rfl]
    exact Nat.zero_le _
  · intro key member
    exact absurd member ExtTreeMap.not_mem_empty
  · intro flowId
    rw [getStatsForFlow, ExtTreeMap.getElem?_empty]
    rfl
  · exact Nat.le_of_eq (sum_empty fun stats => stats.txPackets.toNat)

section Runs

variable {monitor final : FlowMonitor} {sent : Nat} {events : List Event}

theorem Accounted.run (accounted : monitor.Accounted sent)
    (few : sent + events.countP Event.isTransmission < 2 ^ 32)
    (ran : FlowMonitor.step.run monitor events = some final) :
    final.Accounted (sent + events.countP Event.isTransmission) := by
  induction events generalizing monitor sent with
  | nil =>
      cases ran
      exact accounted
  | cons event events induction =>
      rcases PartialStep.run_cons_eq_some.mp ran with ⟨next, stepped, rest⟩
      rw [List.countP_cons] at few ⊢
      have after := accounted.step (by omega) stepped
      rw [Nat.add_comm (events.countP _), ← Nat.add_assoc] at few ⊢
      exact induction after few rest

theorem Accounted.exists_run (accounted : monitor.Accounted sent)
    (few : sent + events.countP Event.isTransmission < 2 ^ 32)
    (defined : ∀ event ∈ events, event.Defined) :
    ∃ final, FlowMonitor.step.run monitor events = some final := by
  induction events generalizing monitor sent with
  | nil => exact ⟨monitor, rfl⟩
  | cons event events induction =>
      rcases accounted.exists_step (defined event List.mem_cons_self) with ⟨next, stepped⟩
      rw [List.countP_cons] at few
      have after := accounted.step (by omega) stepped
      rcases induction after (by omega) fun later member =>
        defined later (List.mem_cons_of_mem _ member) with ⟨final, ran⟩
      exact ⟨final, PartialStep.run_cons_eq_some.mpr ⟨next, stepped, ran⟩⟩

/-! ## The printed difference -/

/-- The flows before an iteration of the loop have sent what they received and more, and
no more than all flows. -/
theorem Accounted.flowsBefore_le (accounted : monitor.Accounted sent) (count : Nat) :
    ((monitor.flowsBefore count).map fun stats => stats.rxPackets.toNat).sum ≤
        ((monitor.flowsBefore count).map fun stats => stats.txPackets.toNat).sum ∧
      ((monitor.flowsBefore count).map fun stats => stats.txPackets.toNat).sum ≤
        sent := by
  constructor
  · apply List.sum_le_sum
    intro stats member
    rcases List.mem_map.mp (List.mem_of_mem_take member) with ⟨flow, stored, same⟩
    have found := ExtTreeMap.mem_toList_iff_getElem?_eq_some.mp stored
    have received := accounted.received flow.1
    rw [getStatsForFlow, found, Option.getD_some, same] at received
    omega
  · have part := ((List.take_sublist count (monitor.flowStats.toList.map Prod.snd)).map
      fun stats => stats.txPackets.toNat).sum_le_sum fun _ _ => Nat.zero_le _
    rw [List.map_map] at part
    exact part.trans accounted.transmissions

/-- After any number of iterations, the difference is that of what the flows so far have
sent and received, without a wrap. -/
theorem Accounted.difference (accounted : monitor.Accounted sent) (few : sent < 2 ^ 32)
    (count : Nat) :
    (monitor.totalsBefore count).rxPackets ≤ (monitor.totalsBefore count).txPackets ∧
      ((monitor.totalsBefore count).lostPackets.toNat : Int) =
        ((monitor.flowsBefore count).map fun stats => stats.txPackets.toNat).sum -
          ((monitor.flowsBefore count).map fun stats => stats.rxPackets.toNat).sum := by
  rcases accounted.flowsBefore_le count with ⟨received, bounded⟩
  rcases foldl_addFlow (monitor.flowsBefore count) {} with ⟨tx, rx, -, -, lost⟩
  change (monitor.totalsBefore count).txPackets.toNat = (0 + _) % _ at tx
  change (monitor.totalsBefore count).rxPackets.toNat = (0 + _) % _ at rx
  rw [zero_add, Nat.mod_eq_of_lt (by omega)] at tx rx
  have below :
      (monitor.totalsBefore count).rxPackets ≤
        (monitor.totalsBefore count).txPackets := by
    rw [UInt32.le_iff_toNat_le]
    omega
  have difference : (monitor.totalsBefore count).lostPackets =
      (monitor.totalsBefore count).txPackets - (monitor.totalsBefore count).rxPackets :=
    lost rfl
  refine ⟨below, ?_⟩
  rw [difference, UInt32.toNat_sub_of_le _ _ below]
  omega

/-- With fewer than 2^32 transmissions, whatever is reported in whatever order: a flow
has sent what it received and has in flight, the check finds the flow of every packet,
and the printed difference is exact in each iteration.  Runs end early only at a drop
that the source has no meaning for. -/
theorem running_difference_exact (maxPerHopDelay : Int) (events : List Event)
    (few : events.countP Event.isTransmission < 2 ^ 32) :
    ((∀ event ∈ events, event.Defined) →
      ∃ state, FlowMonitor.step.run { maxPerHopDelay } events = some state) ∧
    ∀ state, FlowMonitor.step.run { maxPerHopDelay } events = some state →
      (∀ flowId, (state.getStatsForFlow flowId).rxPackets.toNat + state.inFlight flowId ≤
        (state.getStatsForFlow flowId).txPackets.toNat) ∧
      (∀ key ∈ state.trackedPackets, key.flowId ∈ state.flowStats) ∧
      (∀ now maxDelay, ∃ next, state.checkForLostPackets now maxDelay = some next) ∧
      (∀ flowId, (state.getStatsForFlow flowId).packetsDropped.length =
        (state.getStatsForFlow flowId).bytesDropped.length) ∧
      ∀ count, (state.totalsBefore count).rxPackets ≤
        (state.totalsBefore count).txPackets ∧
        ((state.totalsBefore count).lostPackets.toNat : Int) =
          ((state.flowsBefore count).map fun stats => stats.txPackets.toNat).sum -
            ((state.flowsBefore count).map fun stats => stats.rxPackets.toNat).sum := by
  have initially := accounted_initial maxPerHopDelay
  have allFew : 0 + events.countP Event.isTransmission < 2 ^ 32 := by omega
  refine ⟨initially.exists_run allFew, ?_⟩
  intro state ran
  have accounted := initially.run allFew ran
  refine ⟨accounted.received, accounted.known, ?_, accounted.reasons,
    accounted.difference allFew⟩
  intro now maxDelay
  rcases accounted.exists_checkForLostPackets now maxDelay with ⟨next, checked, -⟩
  exact ⟨next, checked⟩

/-- One packet sent twice under one identifier, received once and dropped once more. -/
theorem running_difference_exact_duplicate :
    ∃ state, FlowMonitor.step.run {} [⟨0, .startRightNow⟩, ⟨1, .firstTx 1 1 100⟩,
        ⟨2, .firstTx 1 1 100⟩, ⟨3, .lastRx 1 1 100⟩, ⟨4, .drop 1 1 100 0⟩] = some state ∧
      (state.totalsBefore 1).rxPackets ≤ (state.totalsBefore 1).txPackets := by
  have exactly := running_difference_exact 10000000000
    [⟨0, .startRightNow⟩, ⟨1, .firstTx 1 1 100⟩, ⟨2, .firstTx 1 1 100⟩,
      ⟨3, .lastRx 1 1 100⟩, ⟨4, .drop 1 1 100 0⟩] (by decide)
  have ends : ∃ state,
      FlowMonitor.step.run {} [⟨0, .startRightNow⟩, ⟨1, .firstTx 1 1 100⟩,
      ⟨2, .firstTx 1 1 100⟩, ⟨3, .lastRx 1 1 100⟩, ⟨4, .drop 1 1 100 0⟩] = some state :=
    Option.isSome_iff_exists.mp (by decide)
  rcases ends with ⟨state, ran⟩
  exact ⟨state, ran, ((exactly.2 state ran).2.2.2.2 1).1⟩

end Runs

end FlowMonitor

end DataCenter.Flows
