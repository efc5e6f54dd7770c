import DataCenter.Foundation.Run

/-! # Store-and-forward networks

A network hands the messages in flight to whatever stands at their ends, one at
a time and in any order.  What a message brings about keeps its tag, so that all
copies of one message can be told from other traffic. -/

namespace DataCenter

/-- What comes of one message: the system afterwards, the messages that are sent
on and what is delivered. -/
structure Handling (σ μ δ : Type) where
  system : σ
  outputs : List μ := []
  deliveries : List δ := []

/-- How a system handles a message, if it can.  `ρ` is what the handling draws
from outside. -/
abbrev Handler (σ μ ρ δ : Type) := σ → μ → ρ → Option (Handling σ μ δ)

namespace Courier

/-- A message or a delivery, with the tag of the message that it comes from and
the number of handlings in between. -/
structure Parcel (α : Type) where
  tag : Nat
  hops : Nat
  content : α
  deriving DecidableEq, Repr

/-- One handling that took place. -/
structure Visit (μ ρ δ : Type) where
  parcel : Parcel μ
  choice : ρ
  outputs : List μ
  deliveries : List δ

/-- A network with its messages in flight, its deliveries, its handlings and the
number of messages that were sent. -/
structure State (σ μ ρ δ : Type) where
  system : σ
  inFlight : List (Parcel μ) := []
  delivered : List (Parcel δ) := []
  visits : List (Visit μ ρ δ) := []
  sent : Nat := 0

/-- A new message, or the arrival of one of those in flight. -/
inductive Event (μ ρ : Type) where
  | send (message : μ)
  | arrive (index : Nat) (choice : ρ)

/-- Nothing but the messages of senders is restricted. -/
def Event.Permitted {μ ρ : Type} (permitted : μ → Prop) : Event μ ρ → Prop
  | .send message => permitted message
  | .arrive _ _ => True

variable {σ μ ρ δ : Type}

namespace Visit

def forwarded (visit : Visit μ ρ δ) : List (Parcel μ) :=
  visit.outputs.map fun message =>
    { tag := visit.parcel.tag, hops := visit.parcel.hops + 1, content := message }

def handedOver (visit : Visit μ ρ δ) : List (Parcel δ) :=
  visit.deliveries.map fun delivery =>
    { tag := visit.parcel.tag, hops := visit.parcel.hops, content := delivery }

theorem mem_forwarded {visit : Visit μ ρ δ} {parcel : Parcel μ} :
    parcel ∈ visit.forwarded ↔ parcel.tag = visit.parcel.tag ∧
      parcel.hops = visit.parcel.hops + 1 ∧ parcel.content ∈ visit.outputs := by
  cases parcel
  simp only [forwarded, List.mem_map, Parcel.mk.injEq]
  constructor
  · intro mapped
    rcases mapped with ⟨message, member, rfl, rfl, rfl⟩
    exact ⟨rfl, rfl, member⟩
  · intro same
    rcases same with ⟨rfl, rfl, member⟩
    exact ⟨_, member, rfl, rfl, rfl⟩

end Visit

namespace State

/-- A new message enters with a tag of its own. -/
def post (state : State σ μ ρ δ) (message : μ) : State σ μ ρ δ :=
  { state with
    inFlight := state.inFlight ++ [{ tag := state.sent, hops := 0, content := message }]
    sent := state.sent + 1 }

/-- A message in flight is handled. -/
def record (state : State σ μ ρ δ) (index : Nat) (visit : Visit μ ρ δ) (system : σ) :
    State σ μ ρ δ :=
  { state with
    system
    inFlight := state.inFlight.eraseIdx index ++ visit.forwarded
    delivered := state.delivered ++ visit.handedOver
    visits := state.visits ++ [visit] }

/-- The messages in flight that have a tag. -/
def copies (state : State σ μ ρ δ) (tag : Nat) : Multiset (Parcel μ) :=
  (state.inFlight : Multiset (Parcel μ)).filter fun parcel => parcel.tag = tag

def received (state : State σ μ ρ δ) (tag : Nat) : List (Parcel δ) :=
  state.delivered.filter fun parcel => parcel.tag = tag

def visitsOf (state : State σ μ ρ δ) (tag : Nat) : List (Visit μ ρ δ) :=
  state.visits.filter fun visit => visit.parcel.tag = tag

end State

def step (handle : Handler σ μ ρ δ) : PartialStep (State σ μ ρ δ) (Event μ ρ)
  | state, .send message => some (state.post message)
  | state, .arrive index choice =>
      state.inFlight[index]?.bind fun parcel =>
        (handle state.system parcel.content choice).map fun handling =>
          state.record index
            { parcel, choice, outputs := handling.outputs,
              deliveries := handling.deliveries }
            handling.system

/-- A visit that a system can make, with the system afterwards. -/
def Makes (handle : Handler σ μ ρ δ) (system : σ) (visit : Visit μ ρ δ) (next : σ) :
    Prop :=
  handle system visit.parcel.content visit.choice =
    some { system := next, outputs := visit.outputs, deliveries := visit.deliveries }

theorem step_cases {handle : Handler σ μ ρ δ} {state next : State σ μ ρ δ}
    {event : Event μ ρ} (stepped : step handle state event = some next) :
    (∃ message, event = .send message ∧ next = state.post message) ∨
      ∃ index visit system, event = .arrive index visit.choice ∧
        state.inFlight[index]? = some visit.parcel ∧
        Makes handle state.system visit system ∧
        next = state.record index visit system := by
  cases event with
  | send message =>
      cases stepped
      exact .inl ⟨message, rfl, rfl⟩
  | arrive index choice =>
      rcases Option.bind_eq_some_iff.mp stepped with ⟨parcel, present, handled⟩
      rcases Option.map_eq_some_iff.mp handled with ⟨handling, result, rfl⟩
      exact .inr ⟨index,
        { parcel, choice, outputs := handling.outputs,
          deliveries := handling.deliveries },
        handling.system, rfl, present, result, rfl⟩

theorem step_arrive {handle : Handler σ μ ρ δ} {state : State σ μ ρ δ} {index : Nat}
    {visit : Visit μ ρ δ} {system : σ}
    (present : state.inFlight[index]? = some visit.parcel)
    (makes : Makes handle state.system visit system) :
    step handle state (.arrive index visit.choice) =
      some (state.record index visit system) := by
  have result : handle state.system visit.parcel.content visit.choice = some _ := makes
  simp [step, present, result]

theorem reachable_post {handle : Handler σ μ ρ δ} {permitted : μ → Prop}
    {initial state : State σ μ ρ δ}
    (reached : (step handle).Reachable (Event.Permitted permitted) initial state)
    {message : μ} (allowed : permitted message) :
    (step handle).Reachable (Event.Permitted permitted) initial (state.post message) := by
  have permits : (Event.send message : Event μ ρ).Permitted permitted := allowed
  exact reached.step permits rfl

theorem reachable_record {handle : Handler σ μ ρ δ} {permitted : μ → Prop}
    {initial state : State σ μ ρ δ}
    (reached : (step handle).Reachable (Event.Permitted permitted) initial state)
    {index : Nat} {visit : Visit μ ρ δ} {system : σ}
    (present : state.inFlight[index]? = some visit.parcel)
    (makes : Makes handle state.system visit system) :
    (step handle).Reachable (Event.Permitted permitted) initial
      (state.record index visit system) := by
  have permits : (Event.arrive index visit.choice : Event μ ρ).Permitted permitted :=
    trivial
  exact reached.step permits (step_arrive present makes)

/-! ## Messages on their way -/

/-- A run of permitted messages leads to the system, with the message in flight. -/
def Carries (handle : Handler σ μ ρ δ) (permitted : μ → Prop) (initial : State σ μ ρ δ)
    (system : σ) (message : μ) : Prop :=
  ∃ state, (step handle).Reachable (Event.Permitted permitted) initial state ∧
    state.system = system ∧ ∃ parcel ∈ state.inFlight, parcel.content = message

section Carries

variable {handle : Handler σ μ ρ δ} {permitted : μ → Prop} {initial : State σ μ ρ δ}
  {system : σ} {message : μ} {choice : ρ} {handling : Handling σ μ δ}

theorem carries_post {state : State σ μ ρ δ}
    (reached : (step handle).Reachable (Event.Permitted permitted) initial state)
    {message : μ} (allowed : permitted message) :
    Carries handle permitted initial state.system message :=
  ⟨_, reachable_post reached allowed, rfl, _,
    List.mem_append_right _ (List.mem_singleton.mpr rfl), rfl⟩

/-- The message is handled. -/
theorem Carries.exists_handled (carries : Carries handle permitted initial system message)
    (handled : handle system message choice = some handling) :
    ∃ state, (step handle).Reachable (Event.Permitted permitted) initial state ∧
      state.system = handling.system ∧ ∀ output ∈ handling.outputs,
        ∃ parcel ∈ state.inFlight, parcel.content = output := by
  rcases carries with ⟨state, reached, rfl, parcel, member, rfl⟩
  rcases List.mem_iff_getElem?.mp member with ⟨index, present⟩
  let visit : Visit μ ρ δ :=
    { parcel, choice, outputs := handling.outputs, deliveries := handling.deliveries }
  have makes : Makes handle state.system visit handling.system := handled
  have stored : state.inFlight[index]? = some visit.parcel := present
  refine ⟨_, reachable_record reached stored makes, rfl, ?_⟩
  intro output sent
  let forwarded : Parcel μ :=
    { tag := parcel.tag, hops := parcel.hops + 1, content := output }
  have forwards : forwarded ∈ visit.forwarded := Visit.mem_forwarded.mpr ⟨rfl, rfl, sent⟩
  exact ⟨forwarded, List.mem_append_right _ forwards, rfl⟩

/-- What comes of a message is on its way next. -/
theorem Carries.hop (carries : Carries handle permitted initial system message)
    (handled : handle system message choice = some handling) {output : μ}
    (member : output ∈ handling.outputs) :
    Carries handle permitted initial handling.system output := by
  rcases carries.exists_handled handled with ⟨state, reached, same, forwards⟩
  exact ⟨state, reached, same, forwards output member⟩

theorem Carries.mono {allowed : μ → Prop}
    (weaken : ∀ message, permitted message → allowed message)
    (carries : Carries handle permitted initial system message) :
    Carries handle allowed initial system message := by
  rcases carries with ⟨state, reached, same, present⟩
  refine ⟨state, reached.mono ?_, same, present⟩
  intro event permits
  cases event with
  | send message => exact weaken message permits
  | arrive index choice => trivial

end Carries

/-! ## Copies of one message -/

theorem mem_copies {state : State σ μ ρ δ} {tag : Nat} {parcel : Parcel μ} :
    parcel ∈ state.copies tag ↔ parcel ∈ state.inFlight ∧ parcel.tag = tag := by
  simp [State.copies]

theorem copies_post (state : State σ μ ρ δ) (message : μ) (tag : Nat) :
    (state.post message).copies tag = state.copies tag +
      if state.sent = tag then {{ tag := state.sent, hops := 0, content := message }}
      else 0 := by
  rw [State.copies, State.post]
  rw [← Multiset.coe_add, Multiset.filter_add]
  congr 1
  split
  · next same => simp [same, Multiset.filter_singleton]
  · next different => simp [different, Multiset.filter_singleton]

theorem cons_eraseIdx {α : Type} {items : List α} {index : Nat} {item : α}
    (present : items[index]? = some item) :
    item ::ₘ (items.eraseIdx index : Multiset α) = (items : Multiset α) := by
  rcases List.getElem?_eq_some_iff.mp present with ⟨bound, rfl⟩
  exact Multiset.coe_eq_coe.mpr (List.getElem_cons_eraseIdx_perm bound)

/-- A handling replaces a message by what it sends on. -/
theorem copies_record {state : State σ μ ρ δ} {index : Nat} {visit : Visit μ ρ δ}
    (present : state.inFlight[index]? = some visit.parcel) (system : σ) :
    visit.parcel ::ₘ (state.record index visit system).copies visit.parcel.tag =
      state.copies visit.parcel.tag + visit.forwarded := by
  have sameTag : (visit.forwarded : Multiset (Parcel μ)).filter
      (fun parcel => parcel.tag = visit.parcel.tag) = visit.forwarded := by
    apply Multiset.filter_eq_self.mpr
    intro parcel member
    exact (Visit.mem_forwarded.mp member).1
  unfold State.copies State.record
  rw [← cons_eraseIdx present, ← Multiset.coe_add, Multiset.filter_add, sameTag,
    Multiset.filter_cons_of_pos
      (p := fun parcel : Parcel μ => parcel.tag = visit.parcel.tag) _ rfl,
    Multiset.cons_add]

theorem copies_record_of_ne {state : State σ μ ρ δ} {index : Nat} {visit : Visit μ ρ δ}
    (present : state.inFlight[index]? = some visit.parcel) (system : σ) {tag : Nat}
    (different : visit.parcel.tag ≠ tag) :
    (state.record index visit system).copies tag = state.copies tag := by
  have noneForwarded : (visit.forwarded : Multiset (Parcel μ)).filter
      (fun parcel => parcel.tag = tag) = 0 := by
    apply Multiset.filter_eq_nil.mpr
    intro parcel member
    rw [(Visit.mem_forwarded.mp member).1]
    exact different
  unfold State.copies State.record
  rw [← cons_eraseIdx present, ← Multiset.coe_add, Multiset.filter_add, noneForwarded,
    Multiset.filter_cons_of_neg (p := fun parcel : Parcel μ => parcel.tag = tag) _
      different,
    add_zero]

theorem received_record (state : State σ μ ρ δ) (index : Nat) (visit : Visit μ ρ δ)
    (system : σ) (tag : Nat) : (state.record index visit system).received tag =
      state.received tag ++ if visit.parcel.tag = tag then visit.handedOver else [] := by
  rw [State.received, State.record]
  rw [List.filter_append]
  congr 1
  split
  · next same => simp [Visit.handedOver, List.filter_eq_self, same]
  · next different => simp [Visit.handedOver, List.filter_eq_nil_iff, different]

theorem visitsOf_record (state : State σ μ ρ δ) (index : Nat) (visit : Visit μ ρ δ)
    (system : σ) (tag : Nat) : (state.record index visit system).visitsOf tag =
      state.visitsOf tag ++ if visit.parcel.tag = tag then [visit] else [] := by
  rw [State.visitsOf, State.record]
  rw [List.filter_append, List.filter_singleton]
  congr 1
  simp

/-- Nothing has come of a message yet: it is still in flight itself. -/
structure Unspent (state : State σ μ ρ δ) (tag : Nat) (message : μ) : Prop where
  old : tag < state.sent
  copies : state.copies tag = {{ tag, hops := 0, content := message }}
  received : state.received tag = []
  visits : state.visitsOf tag = []

/-- Tags are given out once, and a message that made no hop is unspent. -/
structure Tagged (state : State σ μ ρ δ) : Prop where
  inFlight : ∀ parcel ∈ state.inFlight, parcel.tag < state.sent
  delivered : ∀ parcel ∈ state.delivered, parcel.tag < state.sent
  visits : ∀ visit ∈ state.visits, visit.parcel.tag < state.sent
  unspent : ∀ parcel ∈ state.inFlight, parcel.hops = 0 →
    state.copies parcel.tag = {parcel} ∧ state.received parcel.tag = [] ∧
      state.visitsOf parcel.tag = []

theorem tagged_start (system : σ) : Tagged ({ system } : State σ μ ρ δ) where
  inFlight := by simp
  delivered := by simp
  visits := by simp
  unspent := by simp

theorem Tagged.unspent_of_hops {state : State σ μ ρ δ} (tagged : Tagged state)
    {parcel : Parcel μ} (member : parcel ∈ state.inFlight) (unmoved : parcel.hops = 0) :
    Unspent state parcel.tag parcel.content := by
  rcases tagged.unspent parcel member unmoved with ⟨copies, received, visits⟩
  refine ⟨tagged.inFlight parcel member, ?_, received, visits⟩
  rw [copies, ← unmoved]

theorem Tagged.unspent_post {state : State σ μ ρ δ} (tagged : Tagged state)
    (message : μ) :
    Unspent (state.post message) state.sent message where
  old := Nat.lt_succ_self _
  copies := by
    have noCopies : state.copies state.sent = 0 := by
      apply Multiset.eq_zero_of_forall_notMem
      intro parcel member
      rw [mem_copies] at member
      exact absurd member.2 (Nat.ne_of_lt (tagged.inFlight parcel member.1))
    rw [copies_post, noCopies, if_pos rfl, zero_add]
  received := by
    apply List.filter_eq_nil_iff.mpr
    intro parcel member
    simpa using Nat.ne_of_lt (tagged.delivered parcel member)
  visits := by
    apply List.filter_eq_nil_iff.mpr
    intro visit member
    simpa using Nat.ne_of_lt (tagged.visits visit member)

theorem Tagged.post {state : State σ μ ρ δ} (tagged : Tagged state) (message : μ) :
    Tagged (state.post message) where
  inFlight parcel member := by
    rcases List.mem_append.mp member with earlier | new
    · exact Nat.lt_succ_of_lt (tagged.inFlight parcel earlier)
    · rw [List.mem_singleton.mp new]
      exact Nat.lt_succ_self _
  delivered parcel member := Nat.lt_succ_of_lt (tagged.delivered parcel member)
  visits visit member := Nat.lt_succ_of_lt (tagged.visits visit member)
  unspent parcel member unmoved := by
    rcases List.mem_append.mp member with earlier | new
    · rcases tagged.unspent parcel earlier unmoved with ⟨copies, received, visits⟩
      refine ⟨?_, received, visits⟩
      rw [copies_post, if_neg (Nat.ne_of_gt (tagged.inFlight parcel earlier)), copies,
        add_zero]
    · rw [List.mem_singleton.mp new]
      have posted := tagged.unspent_post message
      exact ⟨posted.copies, posted.received, posted.visits⟩

theorem Tagged.record {state : State σ μ ρ δ} (tagged : Tagged state) {index : Nat}
    {visit : Visit μ ρ δ} (present : state.inFlight[index]? = some visit.parcel)
    (system : σ) :
    Tagged (state.record index visit system) where
  inFlight parcel member := by
    rcases List.mem_append.mp member with earlier | new
    · exact tagged.inFlight parcel (List.mem_of_mem_eraseIdx earlier)
    · rw [(Visit.mem_forwarded.mp new).1]
      exact tagged.inFlight _ (List.mem_of_getElem? present)
  delivered parcel member := by
    rcases List.mem_append.mp member with earlier | new
    · exact tagged.delivered parcel earlier
    · rcases List.mem_map.mp new with ⟨delivery, -, rfl⟩
      exact tagged.inFlight _ (List.mem_of_getElem? present)
  visits other member := by
    rcases List.mem_append.mp member with earlier | new
    · exact tagged.visits other earlier
    · rw [List.mem_singleton.mp new]
      exact tagged.inFlight _ (List.mem_of_getElem? present)
  unspent parcel member unmoved := by
    rcases List.mem_append.mp member with earlier | new
    · rcases tagged.unspent parcel (List.mem_of_mem_eraseIdx earlier) unmoved with
        ⟨copies, received, visits⟩
      have different : visit.parcel.tag ≠ parcel.tag := by
        intro same
        -- the one copy of that tag has just been handled, and a hop was counted for the
        -- others
        have replaced := copies_record present system
        have handled : visit.parcel ∈ state.copies parcel.tag :=
          mem_copies.mpr ⟨List.mem_of_getElem? present, same⟩
        rw [copies, Multiset.mem_singleton] at handled
        rw [same, copies, handled, Multiset.singleton_add, Multiset.cons_inj_right]
          at replaced
        have still : parcel ∈ (state.record index visit system).copies parcel.tag :=
          mem_copies.mpr ⟨member, rfl⟩
        rw [replaced, Multiset.mem_coe, Visit.mem_forwarded] at still
        omega
      exact ⟨by rw [copies_record_of_ne present system different, copies],
        by rw [received_record, if_neg different, List.append_nil, received],
        by rw [visitsOf_record, if_neg different, List.append_nil, visits]⟩
    · have hopped := (Visit.mem_forwarded.mp new).2.1
      omega

theorem Tagged.step {handle : Handler σ μ ρ δ} {state next : State σ μ ρ δ}
    {event : Event μ ρ}
    (tagged : Tagged state) (stepped : step handle state event = some next) :
    Tagged next := by
  rcases step_cases stepped with
    ⟨message, rfl, rfl⟩ | ⟨index, visit, system, rfl, present, -, rfl⟩
  · exact tagged.post message
  · exact tagged.record present system

/-! ## Disciplines -/

/-- What is to hold of a system with its past, of the messages in flight and of
the deliveries. -/
structure Discipline (σ μ ρ δ : Type) where
  Good : List (Visit μ ρ δ) → σ → Prop
  Fit : σ → μ → Prop
  Due : σ → δ → Prop

namespace Discipline

variable {handle : Handler σ μ ρ δ} {permitted : μ → Prop}

/-- A visit that takes place under a discipline. -/
structure Legal (discipline : Discipline σ μ ρ δ) (handle : Handler σ μ ρ δ)
    (past : List (Visit μ ρ δ)) (system : σ) (visit : Visit μ ρ δ) (next : σ) : Prop where
  good : discipline.Good past system
  fit : discipline.Fit system visit.parcel.content
  makes : Makes handle system visit next

/-- Senders and handlings keep a discipline. -/
structure Kept (discipline : Discipline σ μ ρ δ) (handle : Handler σ μ ρ δ)
    (permitted : μ → Prop) : Prop where
  fit_of_permitted : ∀ {past system message}, discipline.Good past system →
    permitted message → discipline.Fit system message
  good_after : ∀ {past system visit next},
    discipline.Legal handle past system visit next →
    discipline.Good (past ++ [visit]) next
  fit_after : ∀ {past system visit next}, discipline.Legal handle past system visit next →
    ∀ message, discipline.Fit system message → discipline.Fit next message
  due_after : ∀ {past system visit next}, discipline.Legal handle past system visit next →
    ∀ delivery, discipline.Due system delivery → discipline.Due next delivery
  fit_outputs : ∀ {past system visit next},
    discipline.Legal handle past system visit next →
    ∀ message ∈ visit.outputs, discipline.Fit next message
  due_deliveries : ∀ {past system visit next},
    discipline.Legal handle past system visit next →
    ∀ delivery ∈ visit.deliveries, discipline.Due next delivery

structure Holds (discipline : Discipline σ μ ρ δ) (state : State σ μ ρ δ) : Prop where
  tagged : Tagged state
  good : discipline.Good state.visits state.system
  fit : ∀ parcel ∈ state.inFlight, discipline.Fit state.system parcel.content
  due : ∀ parcel ∈ state.delivered, discipline.Due state.system parcel.content

theorem holds_start {discipline : Discipline σ μ ρ δ} {system : σ}
    (good : discipline.Good [] system) :
    discipline.Holds ({ system } : State σ μ ρ δ) where
  tagged := tagged_start system
  good := good
  fit := by simp
  due := by simp

theorem Holds.legal {discipline : Discipline σ μ ρ δ} {state : State σ μ ρ δ}
    (holds : discipline.Holds state) {index : Nat} {visit : Visit μ ρ δ} {system : σ}
    (present : state.inFlight[index]? = some visit.parcel)
    (makes : Makes handle state.system visit system) :
    discipline.Legal handle state.visits state.system visit system :=
  ⟨holds.good, holds.fit _ (List.mem_of_getElem? present), makes⟩

theorem Kept.holds_step {discipline : Discipline σ μ ρ δ}
    (kept : discipline.Kept handle permitted) {state next : State σ μ ρ δ}
    {event : Event μ ρ}
    (holds : discipline.Holds state) (allowed : event.Permitted permitted)
    (stepped : step handle state event = some next) : discipline.Holds next := by
  have tagged := holds.tagged.step stepped
  rcases step_cases stepped with
    ⟨message, rfl, rfl⟩ | ⟨index, visit, system, rfl, present, makes, rfl⟩
  · refine ⟨tagged, holds.good, ?_, holds.due⟩
    intro parcel member
    rcases List.mem_append.mp member with earlier | new
    · exact holds.fit parcel earlier
    · rw [List.mem_singleton.mp new]
      exact kept.fit_of_permitted holds.good allowed
  · have legal := holds.legal present makes
    refine ⟨tagged, kept.good_after legal, ?_, ?_⟩
    · intro parcel member
      rcases List.mem_append.mp member with earlier | new
      · exact kept.fit_after legal _ (holds.fit parcel (List.mem_of_mem_eraseIdx earlier))
      · exact kept.fit_outputs legal _ (Visit.mem_forwarded.mp new).2.2
    · intro parcel member
      rcases List.mem_append.mp member with earlier | new
      · exact kept.due_after legal _ (holds.due parcel earlier)
      · rcases List.mem_map.mp new with ⟨delivery, handed, rfl⟩
        exact kept.due_deliveries legal delivery handed

theorem Kept.holds_run {discipline : Discipline σ μ ρ δ}
    (kept : discipline.Kept handle permitted) {state final : State σ μ ρ δ}
    {events : List (Event μ ρ)} (holds : discipline.Holds state)
    (allowed : ∀ event ∈ events, event.Permitted permitted)
    (ran : (step handle).run state events = some final) : discipline.Holds final :=
  PartialStep.run_preserves discipline.Holds (fun _ _ _ eventAllowed stateHolds stepped =>
    kept.holds_step stateHolds eventAllowed stepped) allowed holds ran

theorem Kept.holds_of_reachable {discipline : Discipline σ μ ρ δ}
    (kept : discipline.Kept handle permitted) {system : σ} {state : State σ μ ρ δ}
    (good : discipline.Good [] system)
    (reached : (step handle).Reachable (Event.Permitted permitted) { system } state) :
    discipline.Holds state := by
  rcases reached with ⟨events, allowed, ran⟩
  exact kept.holds_run (holds_start good) allowed ran

/-- Every handling of a run took place under the discipline. -/
theorem Kept.legal_of_reachable {discipline : Discipline σ μ ρ δ}
    (kept : discipline.Kept handle permitted) {system : σ} {state : State σ μ ρ δ}
    (good : discipline.Good [] system)
    (reached : (step handle).Reachable (Event.Permitted permitted) { system } state) :
    ∀ visit ∈ state.visits, ∃ past system next,
      discipline.Legal handle past system visit next := by
  refine (reached.invariant (fun state => discipline.Holds state ∧
    ∀ visit ∈ state.visits, ∃ past system next,
      discipline.Legal handle past system visit next)
    ?_ ⟨holds_start good, by simp⟩).2
  intro state event next allowed both stepped
  rcases both with ⟨holds, legal⟩
  refine ⟨kept.holds_step holds allowed stepped, ?_⟩
  rcases step_cases stepped with
    ⟨message, rfl, rfl⟩ | ⟨index, visit, system, rfl, present, makes, rfl⟩
  · exact legal
  · intro other member
    rcases List.mem_append.mp member with earlier | new
    · exact legal other earlier
    · rw [List.mem_singleton.mp new]
      exact ⟨_, _, _, holds.legal present makes⟩

/-! ## Disciplines of systems with a lasting property -/

/-- A discipline together with a property of the system. -/
def restrict (discipline : Discipline σ μ ρ δ) (Lasting : σ → Prop) :
    Discipline σ μ ρ δ where
  Good past system := discipline.Good past system ∧ Lasting system
  Fit := discipline.Fit
  Due := discipline.Due

section Restrict

variable {discipline : Discipline σ μ ρ δ} {Lasting : σ → Prop}

theorem Legal.unrestrict {past : List (Visit μ ρ δ)} {system next : σ}
    {visit : Visit μ ρ δ}
    (legal : (discipline.restrict Lasting).Legal handle past system visit next) :
    discipline.Legal handle past system visit next :=
  ⟨legal.good.1, legal.fit, legal.makes⟩

theorem Kept.restrict (kept : discipline.Kept handle permitted)
    (lasts : ∀ {past system visit next}, discipline.Legal handle past system visit next →
      Lasting system → Lasting next) :
    (discipline.restrict Lasting).Kept handle permitted where
  fit_of_permitted good allowed := kept.fit_of_permitted good.1 allowed
  good_after legal :=
    ⟨kept.good_after legal.unrestrict, lasts legal.unrestrict legal.good.2⟩
  fit_after legal := kept.fit_after legal.unrestrict
  due_after legal := kept.due_after legal.unrestrict
  fit_outputs legal := kept.fit_outputs legal.unrestrict
  due_deliveries legal := kept.due_deliveries legal.unrestrict

theorem Holds.restrict {state : State σ μ ρ δ} (holds : discipline.Holds state)
    (lasting : Lasting state.system) : (discipline.restrict Lasting).Holds state where
  tagged := holds.tagged
  good := ⟨holds.good, lasting⟩
  fit := holds.fit
  due := holds.due

end Restrict

end Discipline

end Courier

end DataCenter
