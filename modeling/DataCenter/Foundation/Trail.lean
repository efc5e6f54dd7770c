import DataCenter.Foundation.Courier

/-! # What comes of one message

The handlings that share a tag are a tree under the message that was sent: every
message sent on is in flight or was handled.  What a handling may cost bounds
what the whole tree costs. -/

namespace DataCenter.Courier

variable {σ μ ρ δ : Type} {handle : Handler σ μ ρ δ} {permitted : μ → Prop}
  {discipline : Discipline σ μ ρ δ}

/-! ## The tree of handlings -/

/-- A message that was handled or still is in flight. -/
def Appeared (state : State σ μ ρ δ) (tag : Nat) (parcel : Parcel μ) : Prop :=
  parcel ∈ state.copies tag ∨ ∃ visit ∈ state.visitsOf tag, visit.parcel = parcel

/-- A message that was sent, or sent on by a handling. -/
def Caused (state : State σ μ ρ δ) (tag : Nat) (message : μ) (parcel : Parcel μ) : Prop :=
  parcel = { tag, hops := 0, content := message } ∨
    ∃ visit ∈ state.visitsOf tag, parcel ∈ visit.forwarded

/-- All that has come of a message so far. -/
structure Trail (discipline : Discipline σ μ ρ δ) (handle : Handler σ μ ρ δ)
    (state : State σ μ ρ δ) (tag : Nat) (message : μ) : Prop where
  old : tag < state.sent
  legal : ∀ visit ∈ state.visitsOf tag, ∃ past system next,
    discipline.Legal handle past system visit next
  appeared_iff : ∀ parcel, Appeared state tag parcel ↔ Caused state tag message parcel
  received : state.received tag = (state.visitsOf tag).flatMap Visit.handedOver

theorem Unspent.trail {state : State σ μ ρ δ} {tag : Nat} {message : μ}
    (unspent : Unspent state tag message) :
    Trail discipline handle state tag message where
  old := unspent.old
  legal := by simp [unspent.visits]
  appeared_iff parcel := by simp [Appeared, Caused, unspent.copies, unspent.visits]
  received := by simp [unspent.visits, unspent.received]

theorem Trail.post {state : State σ μ ρ δ} {tag : Nat} {message : μ}
    (trail : Trail discipline handle state tag message) (other : μ) :
    Trail discipline handle (state.post other) tag message := by
  have copies : (state.post other).copies tag = state.copies tag := by
    rw [copies_post, if_neg (Nat.ne_of_gt trail.old), add_zero]
  refine ⟨Nat.lt_succ_of_lt trail.old, trail.legal, ?_, trail.received⟩
  intro parcel
  have unchanged := trail.appeared_iff parcel
  rw [Appeared, Caused] at unchanged ⊢
  rw [copies]
  exact unchanged

theorem Trail.record_other {state : State σ μ ρ δ} {tag : Nat} {message : μ}
    (trail : Trail discipline handle state tag message) {index : Nat}
    {visit : Visit μ ρ δ}
    (present : state.inFlight[index]? = some visit.parcel) (system : σ)
    (other : visit.parcel.tag ≠ tag) :
    Trail discipline handle (state.record index visit system) tag message := by
  have copies := copies_record_of_ne present system other
  have visits : (state.record index visit system).visitsOf tag = state.visitsOf tag := by
    rw [visitsOf_record, if_neg other, List.append_nil]
  refine ⟨trail.old, by rw [visits]; exact trail.legal, ?_, ?_⟩
  · intro parcel
    have unchanged := trail.appeared_iff parcel
    rw [Appeared, Caused] at unchanged ⊢
    rw [copies, visits]
    exact unchanged
  · rw [visits, received_record, if_neg other, List.append_nil, trail.received]

theorem Trail.record_own {state : State σ μ ρ δ} {message : μ} {visit : Visit μ ρ δ}
    (trail : Trail discipline handle state visit.parcel.tag message) {index : Nat}
    (present : state.inFlight[index]? = some visit.parcel) {system : σ}
    (legal : discipline.Legal handle state.visits state.system visit system) :
    Trail discipline handle (state.record index visit system) visit.parcel.tag
      message := by
  have visits : (state.record index visit system).visitsOf visit.parcel.tag =
      state.visitsOf visit.parcel.tag ++ [visit] := by
    rw [visitsOf_record, if_pos rfl]
  have replaced := copies_record present system
  refine ⟨trail.old, ?_, ?_, ?_⟩
  · rw [visits]
    intro other member
    rcases List.mem_append.mp member with earlier | new
    · exact trail.legal other earlier
    · rw [List.mem_singleton.mp new]
      exact ⟨_, _, _, legal⟩
  · intro parcel
    have unchanged := trail.appeared_iff parcel
    have exchange : parcel = visit.parcel ∨
        parcel ∈ (state.record index visit system).copies visit.parcel.tag ↔
          parcel ∈ state.copies visit.parcel.tag ∨ parcel ∈ visit.forwarded := by
      rw [← Multiset.mem_cons, replaced, Multiset.mem_add, Multiset.mem_coe]
    have handled : Appeared (state.record index visit system) visit.parcel.tag parcel ↔
        (parcel = visit.parcel ∨
          parcel ∈ (state.record index visit system).copies visit.parcel.tag) ∨
        ∃ earlier ∈ state.visitsOf visit.parcel.tag, earlier.parcel = parcel := by
      rw [Appeared]
      rw [visits]
      simp only [List.mem_append, List.mem_singleton, or_and_right, exists_or,
        exists_eq_left]
      rw [eq_comm (a := visit.parcel)]
      simp only [or_comm, or_left_comm, or_assoc]
    have caused : Caused (state.record index visit system) visit.parcel.tag message
        parcel ↔
        Caused state visit.parcel.tag message parcel ∨ parcel ∈ visit.forwarded := by
      rw [Caused]
      rw [visits]
      simp only [List.mem_append, List.mem_singleton, or_and_right, exists_or,
        exists_eq_left]
      exact or_assoc.symm
    rw [handled, caused, exchange, ← unchanged, Appeared, or_right_comm]
  · rw [visits, received_record, if_pos rfl, trail.received, List.flatMap_append]
    simp

theorem Trail.after_step {state next : State σ μ ρ δ} {tag : Nat} {message : μ}
    {event : Event μ ρ}
    (holds : discipline.Holds state) (trail : Trail discipline handle state tag message)
    (stepped : step handle state event = some next) :
    Trail discipline handle next tag message := by
  rcases step_cases stepped with
    ⟨other, rfl, rfl⟩ | ⟨index, visit, system, rfl, present, makes, rfl⟩
  · exact trail.post other
  · by_cases own : visit.parcel.tag = tag
    · subst own
      exact trail.record_own present (holds.legal present makes)
    · exact trail.record_other present system own

theorem Trail.after_run (kept : discipline.Kept handle permitted)
    {state final : State σ μ ρ δ}
    {tag : Nat} {message : μ} {events : List (Event μ ρ)} (holds : discipline.Holds state)
    (trail : Trail discipline handle state tag message)
    (allowed : ∀ event ∈ events, event.Permitted permitted)
    (ran : (step handle).run state events = some final) :
    Trail discipline handle final tag message := by
  have both := PartialStep.run_preserves
    (fun state => discipline.Holds state ∧
      Trail discipline handle state tag message)
    (fun _ _ _ eventAllowed stateBoth stepped =>
      ⟨kept.holds_step stateBoth.1 eventAllowed stepped,
        stateBoth.2.after_step stateBoth.1 stepped⟩)
    allowed ⟨holds, trail⟩ ran
  exact both.2

/-- What every handling hands on, from the message that was sent, all that comes
of it has. -/
theorem Trail.induction {state : State σ μ ρ δ} {tag : Nat} {message : μ}
    (trail : Trail discipline handle state tag message) {Carried : Nat → μ → Prop}
    (start : Carried 0 message) (carries : ∀ visit ∈ state.visitsOf tag,
      Carried visit.parcel.hops visit.parcel.content →
      ∀ output ∈ visit.outputs, Carried (visit.parcel.hops + 1) output)
    {parcel : Parcel μ} (appeared : Appeared state tag parcel) :
    Carried parcel.hops parcel.content := by
  generalize hopsIs : parcel.hops = hops
  induction hops generalizing parcel with
  | zero =>
      rcases (trail.appeared_iff parcel).mp appeared with rfl | ⟨visit, -, forwarded⟩
      · exact start
      · have hopped := (Visit.mem_forwarded.mp forwarded).2.1
        omega
  | succ hops induction =>
      rcases (trail.appeared_iff parcel).mp appeared with rfl | ⟨visit, member, forwarded⟩
      · cases hopsIs
      · rcases Visit.mem_forwarded.mp forwarded with ⟨-, hopped, output⟩
        have hopsOfVisit : visit.parcel.hops = hops := by omega
        have before := induction (.inr ⟨visit, member, rfl⟩) hopsOfVisit
        rw [← hopsOfVisit] at before ⊢
        exact carries visit member before _ output

/-- Once no copy is in flight, whatever was sent on has been handled. -/
theorem Trail.exists_visit {state : State σ μ ρ δ} {tag : Nat} {message : μ}
    (trail : Trail discipline handle state tag message) (quiet : state.copies tag = 0)
    {parcel : Parcel μ} (caused : Caused state tag message parcel) :
    ∃ visit ∈ state.visitsOf tag, visit.parcel = parcel := by
  rcases (trail.appeared_iff parcel).mpr caused with inFlight | visited
  · rw [quiet] at inFlight
    exact absurd inFlight (Multiset.notMem_zero _)
  · exact visited

/-! ## The first handling -/

/-- The message itself, in flight or handled, with no hop behind it. -/
def rootCount (state : State σ μ ρ δ) (tag : Nat) : Nat :=
  (state.copies tag).countP (fun parcel => parcel.hops = 0) +
    (state.visitsOf tag).countP fun visit => visit.parcel.hops = 0

theorem rootCount_post {state : State σ μ ρ δ} {tag : Nat} (old : tag < state.sent)
    (other : μ) :
    rootCount (state.post other) tag = rootCount state tag := by
  have copies : (state.post other).copies tag = state.copies tag := by
    rw [copies_post, if_neg (Nat.ne_of_gt old), add_zero]
  rw [rootCount, copies]
  rfl

theorem rootCount_record {state : State σ μ ρ δ} {index : Nat} {visit : Visit μ ρ δ}
    (present : state.inFlight[index]? = some visit.parcel) (system : σ) (tag : Nat) :
    rootCount (state.record index visit system) tag = rootCount state tag := by
  by_cases own : visit.parcel.tag = tag
  · subst own
    have none : Multiset.countP (fun parcel => parcel.hops = 0)
        (visit.forwarded : Multiset (Parcel μ)) = 0 := by
      rw [Multiset.countP_eq_zero]
      intro parcel member unmoved
      have hopped := (Visit.mem_forwarded.mp member).2.1
      omega
    have exchange := congrArg (Multiset.countP fun parcel => parcel.hops = 0)
      (copies_record present system)
    rw [Multiset.countP_cons, Multiset.countP_add, none] at exchange
    rw [rootCount, visitsOf_record, if_pos rfl, List.countP_append, List.countP_singleton,
      rootCount]
    simp only [decide_eq_true_eq]
    omega
  · rw [rootCount, copies_record_of_ne present system own, visitsOf_record, if_neg own,
      List.append_nil, rootCount]

theorem Unspent.rootCount {state : State σ μ ρ δ} {tag : Nat} {message : μ}
    (unspent : Unspent state tag message) : rootCount state tag = 1 := by
  rw [Courier.rootCount, unspent.copies, unspent.visits]
  simp [← Multiset.cons_zero]

theorem rootCount_run {state final : State σ μ ρ δ} {tag : Nat} {message : μ}
    {events : List (Event μ ρ)} (unspent : Unspent state tag message)
    (ran : (step handle).run state events = some final) : rootCount final tag = 1 := by
  have both := PartialStep.run_preserves
    (fun state => tag < state.sent ∧ Courier.rootCount state tag = 1) ?_
    (fun _ _ => trivial) ⟨unspent.old, unspent.rootCount⟩ ran
  · exact both.2
  · intro state event next _ before stepped
    rcases step_cases stepped with
      ⟨other, rfl, rfl⟩ | ⟨index, visit, system, rfl, present, makes, rfl⟩
    · exact ⟨Nat.lt_succ_of_lt before.1, (rootCount_post before.1 other).trans before.2⟩
    · exact ⟨before.1, (rootCount_record present system tag).trans before.2⟩

theorem eq_of_length_le_one {α : Type} {items : List α} (few : items.length ≤ 1)
    {first second : α}
    (firstMember : first ∈ items) (secondMember : second ∈ items) : first = second := by
  rcases List.mem_iff_getElem.mp firstMember with ⟨i, iBound, rfl⟩
  rcases List.mem_iff_getElem.mp secondMember with ⟨j, jBound, rfl⟩
  have same : i = j := by omega
  simp [same]

/-- A message is handled once. -/
theorem visit_eq_of_hops {state : State σ μ ρ δ} {tag : Nat}
    (once : rootCount state tag = 1)
    {first second : Visit μ ρ δ} (firstMember : first ∈ state.visitsOf tag)
    (firstUnmoved : first.parcel.hops = 0) (secondMember : second ∈ state.visitsOf tag)
    (secondUnmoved : second.parcel.hops = 0) : first = second := by
  have few : ((state.visitsOf tag).filter fun visit => visit.parcel.hops = 0).length ≤
      1 := by
    rw [← List.countP_eq_length_filter]
    rw [rootCount] at once
    omega
  have firstFiltered : first ∈ (state.visitsOf tag).filter fun visit =>
      visit.parcel.hops = 0 :=
    List.mem_filter.mpr ⟨firstMember, decide_eq_true firstUnmoved⟩
  have secondFiltered : second ∈ (state.visitsOf tag).filter fun visit =>
      visit.parcel.hops = 0 :=
    List.mem_filter.mpr ⟨secondMember, decide_eq_true secondUnmoved⟩
  exact eq_of_length_le_one few firstFiltered secondFiltered

/-! ## Rest -/

/-- If every handling sends on less than it got, a network comes to rest, whatever
is drawn. -/
theorem exists_rest (kept : discipline.Kept handle permitted) (weight : μ → Nat)
    (choice : ρ) (answers : ∀ {past system} message, discipline.Good past system →
      ∃ handling, handle system message choice = some handling)
    (lighter : ∀ {past system visit next},
      discipline.Legal handle past system visit next →
      (visit.outputs.map weight).sum < weight visit.parcel.content)
    {state : State σ μ ρ δ} (holds : discipline.Holds state) :
    ∃ events final, (∀ event ∈ events, ∃ index, event = .arrive index choice) ∧
      (step handle).run state events = some final ∧ final.inFlight = [] := by
  generalize load : (state.inFlight.map fun parcel => weight parcel.content).sum = total
  induction total using Nat.strong_induction_on generalizing state with
  | _ total induction =>
      cases flying : state.inFlight with
      | nil => exact ⟨[], state, by simp, rfl, flying⟩
      | cons parcel rest =>
          rcases answers parcel.content holds.good with ⟨handling, handled⟩
          let visit : Visit μ ρ δ :=
            { parcel, choice, outputs := handling.outputs,
              deliveries := handling.deliveries }
          have present : state.inFlight[0]? = some visit.parcel := by simp [flying, visit]
          have makes : Makes handle state.system visit handling.system := handled
          have stepped : step handle state (.arrive 0 choice) =
              some (state.record 0 visit handling.system) := step_arrive present makes
          have spends : (visit.outputs.map weight).sum < weight parcel.content :=
            lighter (holds.legal present makes)
          have arrival : (Event.arrive 0 choice : Event μ ρ).Permitted permitted :=
            trivial
          have after := kept.holds_step holds arrival stepped
          have inFlight : (state.record 0 visit handling.system).inFlight =
              rest ++ visit.forwarded := by
            simp [State.record, flying]
          have forwarded : (visit.forwarded.map fun parcel => weight parcel.content) =
              visit.outputs.map weight := by
            simp [Visit.forwarded, Function.comp_def]
          have lower : ((state.record 0 visit handling.system).inFlight.map
              fun parcel => weight parcel.content).sum < total := by
            rw [inFlight, List.map_append, List.sum_append, forwarded, ← load, flying,
              List.map_cons, List.sum_cons]
            omega
          rcases induction _ lower after rfl with ⟨events, final, arrivals, ran, quiet⟩
          refine ⟨.arrive 0 choice :: events, final, ?_, ?_, quiet⟩
          · intro event member
            rcases List.mem_cons.mp member with rfl | later
            · exact ⟨0, rfl⟩
            · exact arrivals event later
          · rw [PartialStep.run_cons, stepped]
            exact ran

/-- What was handled stays on record. -/
theorem mem_visitsOf_run {state final : State σ μ ρ δ} {tag : Nat} {visit : Visit μ ρ δ}
    {events : List (Event μ ρ)} (member : visit ∈ state.visitsOf tag)
    (ran : (step handle).run state events = some final) : visit ∈ final.visitsOf tag := by
  apply PartialStep.run_preserves (fun state => visit ∈ state.visitsOf tag) ?_
    (fun _ _ => trivial) member ran
  intro state event next _ earlier stepped
  rcases step_cases stepped with
    ⟨message, rfl, rfl⟩ | ⟨index, other, system, rfl, present, makes, rfl⟩
  · exact earlier
  · rw [visitsOf_record]
    exact List.mem_append_left _ earlier

/-- If all arrivals draw the same, all handlings have drawn it. -/
theorem choice_of_run {choice : ρ} {state final : State σ μ ρ δ}
    {events : List (Event μ ρ)}
    (arrivals : ∀ event ∈ events, ∃ index, event = .arrive index choice)
    (none : state.visits = []) (ran : (step handle).run state events = some final) :
    ∀ visit ∈ final.visits, visit.choice = choice := by
  apply PartialStep.run_preserves
    (fun state => ∀ visit ∈ state.visits, visit.choice = choice) ?_
    arrivals (by simp [none]) ran
  intro state event next arrival same stepped
  rcases arrival with ⟨place, rfl⟩
  rcases step_cases stepped with
    ⟨message, impossible, -⟩ | ⟨index, visit, system, arrives, present, makes, rfl⟩
  · cases impossible
  · intro other member
    rcases List.mem_append.mp member with earlier | new
    · exact same other earlier
    · rw [List.mem_singleton.mp new]
      simp only [Event.arrive.injEq] at arrives
      exact arrives.2.symm

/-! ## Budgets -/

/-- The weight of the copies in flight. -/
def charge (weight : μ → Nat) (state : State σ μ ρ δ) (tag : Nat) : Nat :=
  ((state.copies tag).map fun parcel => weight parcel.content).sum

/-- A quantity summed over the handlings. -/
def total (quantity : Visit μ ρ δ → Nat) (state : State σ μ ρ δ) (tag : Nat) : Nat :=
  ((state.visitsOf tag).map quantity).sum

theorem total_record (quantity : Visit μ ρ δ → Nat) (state : State σ μ ρ δ) (index : Nat)
    (visit : Visit μ ρ δ) (system : σ) (tag : Nat) :
    total quantity (state.record index visit system) tag =
      total quantity state tag + if visit.parcel.tag = tag then quantity visit
        else 0 := by
  unfold total
  rw [visitsOf_record]
  split <;> simp

theorem charge_record (weight : μ → Nat) {state : State σ μ ρ δ} {index : Nat}
    {visit : Visit μ ρ δ} (present : state.inFlight[index]? = some visit.parcel)
    (system : σ) :
    weight visit.parcel.content +
        charge weight (state.record index visit system) visit.parcel.tag =
      charge weight state visit.parcel.tag + (visit.outputs.map weight).sum := by
  have exchange := congrArg
    (fun copies => (copies.map fun parcel => weight parcel.content).sum)
    (copies_record present system)
  simp only [Multiset.map_cons, Multiset.sum_cons, Multiset.map_add, Multiset.sum_add,
    Multiset.map_coe, Multiset.sum_coe] at exchange
  simpa [charge, Visit.forwarded, Function.comp_def] using exchange

/-- If what a handling gains and the weight it sends on never exceed the weight
of its message and an extra allowance, then over a run the gains do not exceed
the weight of the first message and the allowances. -/
theorem budget (kept : discipline.Kept handle permitted) (weight : μ → Nat)
    (gain allowance : Visit μ ρ δ → Nat)
    (spends : ∀ {past system visit next}, discipline.Legal handle past system visit next →
      (visit.outputs.map weight).sum + gain visit ≤
        weight visit.parcel.content + allowance visit)
    {state final : State σ μ ρ δ} {tag : Nat} {message : μ} {events : List (Event μ ρ)}
    (holds : discipline.Holds state) (unspent : Unspent state tag message)
    (allowed : ∀ event ∈ events, event.Permitted permitted)
    (ran : (step handle).run state events = some final) :
    charge weight final tag + total gain final tag ≤
      weight message + total allowance final tag := by
  have kept := PartialStep.run_preserves
    (fun state => discipline.Holds state ∧ tag < state.sent ∧
      charge weight state tag + total gain state tag ≤
        weight message + total allowance state tag) ?_ allowed
          ⟨holds, unspent.old, ?_⟩ ran
  · exact kept.2.2
  · intro state event next eventAllowed both stepped
    rcases both with ⟨stateHolds, old, within⟩
    refine ⟨kept.holds_step stateHolds eventAllowed stepped, ?_⟩
    rcases step_cases stepped with
      ⟨other, rfl, rfl⟩ | ⟨index, visit, system, rfl, present, makes, rfl⟩
    · have copies : (state.post other).copies tag = state.copies tag := by
        rw [copies_post, if_neg (Nat.ne_of_gt old), add_zero]
      refine ⟨Nat.lt_succ_of_lt old, ?_⟩
      rw [charge]
      rw [copies]
      exact within
    · refine ⟨old, ?_⟩
      rw [total_record, total_record]
      by_cases own : visit.parcel.tag = tag
      · subst own
        have exchange := charge_record weight present system
        have cost := spends (stateHolds.legal present makes)
        simp only [if_true]
        omega
      · rw [charge]
        rw [copies_record_of_ne present system own]
        simp only [own, if_false, add_zero]
        exact within
  · simp [charge, total, unspent.copies, unspent.visits]

/-- If every handling sends on messages of smaller rank only, hops and rank
together stay within the rank of what senders may send. -/
theorem hops_add_rank_le (kept : discipline.Kept handle permitted) (rank : μ → Nat)
    {limit : Nat} (within : ∀ message, permitted message → rank message ≤ limit)
    (descends : ∀ {past system visit next},
      discipline.Legal handle past system visit next →
      ∀ output ∈ visit.outputs, rank output < rank visit.parcel.content)
    {system : σ} {state : State σ μ ρ δ} (good : discipline.Good [] system)
    (reached : (step handle).Reachable (Event.Permitted permitted) { system } state) :
    (∀ parcel ∈ state.inFlight, parcel.hops + rank parcel.content ≤ limit) ∧
      (∀ visit ∈ state.visits, visit.parcel.hops + rank visit.parcel.content ≤ limit) ∧
      ∀ parcel ∈ state.delivered, parcel.hops ≤ limit := by
  refine (reached.invariant (fun state => discipline.Holds state ∧
    (∀ parcel ∈ state.inFlight, parcel.hops + rank parcel.content ≤ limit) ∧
      (∀ visit ∈ state.visits, visit.parcel.hops + rank visit.parcel.content ≤ limit) ∧
      ∀ parcel ∈ state.delivered, parcel.hops ≤ limit) ?_ ?_).2
  · intro state event next eventAllowed all stepped
    rcases all with ⟨holds, inFlight, visits, delivered⟩
    refine ⟨kept.holds_step holds eventAllowed stepped, ?_⟩
    rcases step_cases stepped with
      ⟨message, rfl, rfl⟩ | ⟨index, visit, system, rfl, present, makes, rfl⟩
    · refine ⟨?_, visits, delivered⟩
      intro parcel member
      rcases List.mem_append.mp member with earlier | new
      · exact inFlight parcel earlier
      · rw [List.mem_singleton.mp new]
        simpa using within message eventAllowed
    · have before := inFlight visit.parcel (List.mem_of_getElem? present)
      refine ⟨?_, ?_, ?_⟩
      · intro parcel member
        rcases List.mem_append.mp member with earlier | new
        · exact inFlight parcel (List.mem_of_mem_eraseIdx earlier)
        · rcases Visit.mem_forwarded.mp new with ⟨-, hopped, output⟩
          have lower := descends (holds.legal present makes) _ output
          omega
      · intro other member
        rcases List.mem_append.mp member with earlier | new
        · exact visits other earlier
        · rw [List.mem_singleton.mp new]
          exact before
      · intro parcel member
        rcases List.mem_append.mp member with earlier | new
        · exact delivered parcel earlier
        · rcases List.mem_map.mp new with ⟨delivery, -, rfl⟩
          simp only
          omega
  · exact ⟨Discipline.holds_start good, by simp, by simp, by simp⟩

end DataCenter.Courier
