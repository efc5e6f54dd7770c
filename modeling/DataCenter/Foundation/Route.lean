import DataCenter.Foundation.Courier

/-! # Messages that take one course

A message has a route if every handling of it sends on one message that is one
stage further, and the last one delivers it.  Whatever else is in flight and in
whatever order messages arrive, it is delivered exactly once. -/

namespace DataCenter.Courier

variable {σ μ ρ δ : Type} {handle : Handler σ μ ρ δ} {permitted : μ → Prop}

/-! ## Delivery -/

/-- The message has been delivered and nothing of it is left. -/
structure Arrived (state : State σ μ ρ δ) (tag : Nat) (delivery : Parcel δ) : Prop where
  received : state.received tag = [delivery]
  copies : state.copies tag = 0

/-- One copy of the message is in flight, after as many handlings as it made
hops, and can be handled whatever is drawn. -/
structure InTransit (handle : Handler σ μ ρ δ) (state : State σ μ ρ δ) (tag limit : Nat) :
    Prop where
  received : state.received tag = []
  copies : ∃ parcel, state.copies tag = {parcel} ∧
    (state.visitsOf tag).length = parcel.hops ∧ parcel.hops ≤ limit
  enabled : ∀ index parcel choice, state.inFlight[index]? = some parcel →
    parcel.tag = tag →
    ∃ next, step handle state (.arrive index choice) = some next

/-- However a run goes on, the message is in transit until it is delivered once,
and it can always be brought to its end. -/
def ExactlyOnce (handle : Handler σ μ ρ δ) (permitted : μ → Prop) (state : State σ μ ρ δ)
    (tag : Nat) (delivery : Parcel δ) : Prop :=
  ∀ events later, (∀ event ∈ events, event.Permitted permitted) →
    (step handle).run state events = some later →
    (InTransit handle later tag delivery.hops ∨ Arrived later tag delivery) ∧
      ∃ more final, (∀ event ∈ more, event.Permitted permitted) ∧
        (step handle).run later more = some final ∧ Arrived final tag delivery

/-! ## Routes -/

/-- A course through a network: at stage `n` a message is `n` hops away from
where it is delivered. -/
structure Route (discipline : Discipline σ μ ρ δ) (handle : Handler σ μ ρ δ) where
  stage : Nat → σ → μ → Prop
  goal : δ
  stage_after : ∀ {past system visit next},
    discipline.Legal handle past system visit next →
    ∀ {remaining message}, stage remaining system message → stage remaining next message
  advance : ∀ {past system remaining message}, discipline.Good past system →
    stage (remaining + 1) system message → ∀ choice, ∃ next output,
      handle system message choice = some { system := next, outputs := [output] } ∧
        stage remaining next output
  arrive : ∀ {past system message}, discipline.Good past system → stage 0 system message →
    ∀ choice, ∃ next, handle system message choice = some
      { system := next, deliveries := [goal] }

namespace Route

variable {discipline : Discipline σ μ ρ δ}

/-- The one copy of the message is on the route. -/
structure OnTheWay (route : Route discipline handle) (state : State σ μ ρ δ)
    (tag total : Nat) (parcel : Parcel μ) (remaining : Nat) : Prop where
  copies : state.copies tag = {parcel}
  stage : route.stage remaining state.system parcel.content
  total : parcel.hops + remaining = total
  visits : (state.visitsOf tag).length = parcel.hops
  received : state.received tag = []

/-- The message is on the way or has arrived. -/
def Underway (route : Route discipline handle) (state : State σ μ ρ δ) (tag total : Nat) :
    Prop :=
  tag < state.sent ∧
    ((∃ parcel remaining, route.OnTheWay state tag total parcel remaining) ∨
      Arrived state tag { tag, hops := total, content := route.goal })

theorem underway_of_unspent {route : Route discipline handle} {state : State σ μ ρ δ}
    {tag remaining : Nat} {message : μ} (unspent : Unspent state tag message)
    (stage : route.stage remaining state.system message) :
    route.Underway state tag remaining :=
  ⟨unspent.old, .inl ⟨{ tag, hops := 0, content := message }, remaining,
    { copies := unspent.copies
      stage := stage
      total := Nat.zero_add remaining
      visits := by rw [unspent.visits]; rfl
      received := unspent.received }⟩⟩

theorem OnTheWay.tag_eq {route : Route discipline handle} {state : State σ μ ρ δ}
    {tag total remaining : Nat} {parcel : Parcel μ}
    (onTheWay : route.OnTheWay state tag total parcel remaining) : parcel.tag = tag := by
  have member : parcel ∈ state.copies tag := by simp [onTheWay.copies]
  exact (mem_copies.mp member).2

/-- Other traffic leaves the message where it is. -/
theorem underway_of_other {route : Route discipline handle} {state : State σ μ ρ δ}
    {tag total : Nat} (underway : route.Underway state tag total) {index : Nat}
    {visit : Visit μ ρ δ} {system : σ}
    (present : state.inFlight[index]? = some visit.parcel)
    (legal : discipline.Legal handle state.visits state.system visit system)
    (other : visit.parcel.tag ≠ tag) :
    route.Underway (state.record index visit system) tag total := by
  have copies := copies_record_of_ne present system other
  have received :
      (state.record index visit system).received tag = state.received tag := by
    rw [received_record, if_neg other, List.append_nil]
  have visits : (state.record index visit system).visitsOf tag = state.visitsOf tag := by
    rw [visitsOf_record, if_neg other, List.append_nil]
  rcases underway with ⟨old, ⟨parcel, remaining, onTheWay⟩ | arrived⟩
  · refine ⟨old, .inl ⟨parcel, remaining, ?_⟩⟩
    exact
      { copies := copies.trans onTheWay.copies
        stage := route.stage_after legal onTheWay.stage
        total := onTheWay.total
        visits := by rw [visits, onTheWay.visits]
        received := received.trans onTheWay.received }
  · exact ⟨old, .inr ⟨received.trans arrived.received, copies.trans arrived.copies⟩⟩

/-- A message on the way can be handled whatever is drawn, which brings it one
stage further. -/
theorem OnTheWay.step_own {route : Route discipline handle} {state : State σ μ ρ δ}
    {tag total remaining : Nat} {parcel : Parcel μ} (holds : discipline.Holds state)
    (onTheWay : route.OnTheWay state tag total parcel remaining) {index : Nat}
    (present : state.inFlight[index]? = some parcel) (choice : ρ) :
    ∃ next, step handle state (.arrive index choice) = some next ∧
      next.sent = state.sent ∧
      match remaining with
      | 0 => Arrived next tag { tag, hops := total, content := route.goal }
      | fewer + 1 => ∃ forwarded, route.OnTheWay next tag total forwarded fewer := by
  have tagIs := onTheWay.tag_eq
  have total := onTheWay.total
  have replaced (visit : Visit μ ρ δ) (same : visit.parcel = parcel) (system : σ) :
      (state.record index visit system).copies tag = visit.forwarded := by
    have presentVisit : state.inFlight[index]? = some visit.parcel := same ▸ present
    have exchange := copies_record presentVisit system
    rw [same, tagIs, onTheWay.copies, Multiset.singleton_add, Multiset.cons_inj_right]
      at exchange
    exact exchange
  cases remaining with
  | zero =>
      rcases route.arrive holds.good onTheWay.stage choice with ⟨system, result⟩
      let visit : Visit μ ρ δ :=
        { parcel, choice, outputs := [], deliveries := [route.goal] }
      have stepsTo : step handle state (.arrive index visit.choice) =
          some (state.record index visit system) := step_arrive present result
      refine ⟨state.record index visit system, stepsTo, rfl, ?_, ?_⟩
      · have hops : parcel.hops = _ := total
        rw [received_record, onTheWay.received]
        simp [visit, Visit.handedOver, tagIs, hops]
      · rw [replaced visit rfl]
        rfl
  | succ fewer =>
      rcases route.advance holds.good onTheWay.stage choice with
        ⟨system, output, result, stage⟩
      let visit : Visit μ ρ δ := { parcel, choice, outputs := [output], deliveries := [] }
      have stepsTo : step handle state (.arrive index visit.choice) =
          some (state.record index visit system) := step_arrive present result
      refine ⟨state.record index visit system, stepsTo, rfl,
        { tag := parcel.tag, hops := parcel.hops + 1, content := output }, ?_⟩
      exact
        { copies := replaced visit rfl system
          stage := stage
          total := by
            simp only
            omega
          visits := by
            rw [visitsOf_record, List.length_append, onTheWay.visits]
            simp [visit, tagIs]
          received := by
            rw [received_record, onTheWay.received]
            simp [visit, Visit.handedOver] }

theorem underway_step {route : Route discipline handle} {state next : State σ μ ρ δ}
    {tag total : Nat} {event : Event μ ρ} (holds : discipline.Holds state)
    (underway : route.Underway state tag total)
    (stepped : step handle state event = some next) : route.Underway next tag total := by
  rcases step_cases stepped with
    ⟨message, rfl, rfl⟩ | ⟨index, visit, system, rfl, present, makes, rfl⟩
  · rcases underway with ⟨old, progress⟩
    have copies : (state.post message).copies tag = state.copies tag := by
      rw [copies_post, if_neg (Nat.ne_of_gt old), add_zero]
    refine ⟨Nat.lt_succ_of_lt old, ?_⟩
    rcases progress with ⟨parcel, remaining, onTheWay⟩ | arrived
    · refine .inl ⟨parcel, remaining, ?_⟩
      exact
        { copies := copies.trans onTheWay.copies
          stage := onTheWay.stage
          total := onTheWay.total
          visits := onTheWay.visits
          received := onTheWay.received }
    · exact .inr ⟨arrived.received, copies.trans arrived.copies⟩
  · by_cases own : visit.parcel.tag = tag
    · have member : visit.parcel ∈ state.copies tag :=
        mem_copies.mpr ⟨List.mem_of_getElem? present, own⟩
      rcases underway with ⟨old, ⟨parcel, remaining, onTheWay⟩ | arrived⟩
      · have same : visit.parcel = parcel := by simpa [onTheWay.copies] using member
        rw [same] at present
        rcases onTheWay.step_own holds present visit.choice with
          ⟨next, stepsTo, sent, further⟩
        cases stepped.symm.trans stepsTo
        refine ⟨old, ?_⟩
        cases remaining with
        | zero => exact .inr further
        | succ fewer =>
            rcases further with ⟨forwarded, onward⟩
            exact .inl ⟨forwarded, fewer, onward⟩
      · rw [arrived.copies] at member
        exact absurd member (Multiset.notMem_zero _)
    · exact underway_of_other underway present (holds.legal present makes) own

theorem underway_run {route : Route discipline handle}
    (kept : discipline.Kept handle permitted)
    {state final : State σ μ ρ δ} {tag total : Nat} {events : List (Event μ ρ)}
    (holds : discipline.Holds state) (underway : route.Underway state tag total)
    (allowed : ∀ event ∈ events, event.Permitted permitted)
    (ran : (step handle).run state events = some final) :
    discipline.Holds final ∧ route.Underway final tag total := by
  apply PartialStep.run_preserves
    (fun state => discipline.Holds state ∧ route.Underway state tag total)
    ?_ allowed ⟨holds, underway⟩ ran
  intro state event next eventAllowed both stepped
  rcases both with ⟨stateHolds, stateUnderway⟩
  exact ⟨kept.holds_step stateHolds eventAllowed stepped,
    underway_step stateHolds stateUnderway stepped⟩

theorem OnTheWay.exists_index {route : Route discipline handle} {state : State σ μ ρ δ}
    {tag total remaining : Nat} {parcel : Parcel μ}
    (onTheWay : route.OnTheWay state tag total parcel remaining) :
    ∃ index : Nat, state.inFlight[index]? = some parcel := by
  have member : parcel ∈ state.copies tag := by simp [onTheWay.copies]
  exact List.mem_iff_getElem?.mp (mem_copies.mp member).1

/-- A message on the way can be brought to its end. -/
theorem OnTheWay.exists_arrived [Inhabited ρ] {route : Route discipline handle}
    (kept : discipline.Kept handle permitted) {state : State σ μ ρ δ}
    {tag total remaining : Nat} {parcel : Parcel μ} (holds : discipline.Holds state)
    (onTheWay : route.OnTheWay state tag total parcel remaining) :
    ∃ more final, (∀ event ∈ more, event.Permitted permitted) ∧
      (step handle).run state more = some final ∧
      Arrived final tag { tag, hops := total, content := route.goal } := by
  induction remaining generalizing state parcel with
  | zero =>
      rcases onTheWay.exists_index with ⟨index, present⟩
      rcases onTheWay.step_own holds present default with ⟨next, stepsTo, -, arrived⟩
      exact ⟨[.arrive index default], next, by simp [Event.Permitted],
        by rw [PartialStep.run_singleton, stepsTo], arrived⟩
  | succ fewer induction =>
      rcases onTheWay.exists_index with ⟨index, present⟩
      rcases onTheWay.step_own holds present default with
        ⟨next, stepsTo, -, forwarded, onward⟩
      have permits : (Event.arrive index default : Event μ ρ).Permitted permitted :=
        trivial
      have nextHolds := kept.holds_step holds permits stepsTo
      rcases induction nextHolds onward with ⟨more, final, allowed, ran, arrived⟩
      refine ⟨.arrive index default :: more, final, ?_, ?_, arrived⟩
      · simpa [Event.Permitted] using allowed
      · exact PartialStep.run_cons_eq_some.mpr ⟨next, stepsTo, ran⟩

/-- A message that starts on a route is delivered exactly once, at its goal. -/
theorem exactlyOnce [Inhabited ρ] (route : Route discipline handle)
    (kept : discipline.Kept handle permitted) {state : State σ μ ρ δ}
    (holds : discipline.Holds state) {tag remaining : Nat} {message : μ}
    (unspent : Unspent state tag message)
    (stage : route.stage remaining state.system message) :
    ExactlyOnce handle permitted state tag
      { tag, hops := remaining, content := route.goal } := by
  intro events later allowed ran
  rcases underway_run kept holds (underway_of_unspent unspent stage) allowed ran with
    ⟨laterHolds, -, ⟨parcel, ahead, onTheWay⟩ | arrived⟩
  · refine ⟨.inl ⟨onTheWay.received, ⟨parcel, onTheWay.copies, onTheWay.visits, ?_⟩, ?_⟩,
      onTheWay.exists_arrived kept laterHolds⟩
    · have total := onTheWay.total
      simp only
      omega
    · intro index other choice present sameTag
      have member : other ∈ later.copies tag :=
        mem_copies.mpr ⟨List.mem_of_getElem? present, sameTag⟩
      have same : other = parcel := by simpa [onTheWay.copies] using member
      subst same
      rcases onTheWay.step_own laterHolds present choice with ⟨next, stepsTo, -⟩
      exact ⟨next, stepsTo⟩
  · exact ⟨.inr arrived, [], later, by simp, rfl, arrived⟩

end Route

end DataCenter.Courier
