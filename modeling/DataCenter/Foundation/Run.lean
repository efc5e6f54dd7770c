import Mathlib

/-! # Runs of a partial step function

A system is given by a step function that is undefined where an event cannot
happen.  Everything that an event draws from outside the system, such as the
value of a random number, is part of the event, so a run is determined by its
start and its list of events. -/

namespace DataCenter

/-- One step of a system: the next state, if the event can happen. -/
abbrev PartialStep (σ ε : Type) := σ → ε → Option σ

namespace PartialStep

variable {σ ε : Type}

/-- The state in which a list of events ends. -/
def run (step : PartialStep σ ε) : σ → List ε → Option σ
  | state, [] => some state
  | state, event :: events => (step state event).bind fun next => step.run next events

@[simp] theorem run_nil (step : PartialStep σ ε) (state : σ) :
    step.run state [] = some state := rfl

theorem run_cons (step : PartialStep σ ε) (state : σ) (event : ε) (events : List ε) :
    step.run state (event :: events) =
      (step state event).bind fun next => step.run next events := rfl

theorem run_cons_eq_some {step : PartialStep σ ε} {state final : σ} {event : ε}
    {events : List ε} :
    step.run state (event :: events) = some final ↔
      ∃ next, step state event = some next ∧ step.run next events = some final := by
  simp [run_cons, Option.bind_eq_some_iff]

theorem run_append (step : PartialStep σ ε) (state : σ) (first second : List ε) :
    step.run state (first ++ second) =
      (step.run state first).bind fun middle => step.run middle second := by
  induction first generalizing state with
  | nil => rfl
  | cons event events induction =>
      simp only [List.cons_append, run_cons, Option.bind_assoc]
      congr
      funext next
      exact induction next

theorem run_singleton (step : PartialStep σ ε) (state : σ) (event : ε) :
    step.run state [event] = step state event := by
  simp [run_cons]

/-- The states in which runs of allowed events end. -/
def Reachable (step : PartialStep σ ε) (allowed : ε → Prop) (initial state : σ) : Prop :=
  ∃ events, (∀ event ∈ events, allowed event) ∧ step.run initial events = some state

theorem Reachable.refl (step : PartialStep σ ε) (allowed : ε → Prop) (state : σ) :
    step.Reachable allowed state state :=
  ⟨[], by simp, rfl⟩

theorem Reachable.trans {step : PartialStep σ ε} {allowed : ε → Prop}
    {initial middle final : σ} (first : step.Reachable allowed initial middle)
    (second : step.Reachable allowed middle final) :
    step.Reachable allowed initial final := by
  rcases first with ⟨before, beforeAllowed, beforeRun⟩
  rcases second with ⟨after, afterAllowed, afterRun⟩
  refine ⟨before ++ after, ?_, by rw [run_append, beforeRun]; exact afterRun⟩
  intro event member
  rcases List.mem_append.mp member with member | member
  · exact beforeAllowed event member
  · exact afterAllowed event member

theorem Reachable.step {step : PartialStep σ ε} {allowed : ε → Prop}
    {initial state next : σ} {event : ε} (reached : step.Reachable allowed initial state)
    (eventAllowed : allowed event) (stepped : step state event = some next) :
    step.Reachable allowed initial next :=
  reached.trans ⟨[event], by simpa using eventAllowed, by rw [run_singleton, stepped]⟩

theorem Reachable.mono {step : PartialStep σ ε} {allowed weaker : ε → Prop}
    (weaken : ∀ event, allowed event → weaker event) {initial state : σ}
    (reached : step.Reachable allowed initial state) :
    step.Reachable weaker initial state := by
  rcases reached with ⟨events, eventsAllowed, ran⟩
  exact ⟨events, fun event member => weaken event (eventsAllowed event member), ran⟩

/-- What every allowed step preserves, every run of allowed events preserves. -/
theorem run_preserves {step : PartialStep σ ε} {allowed : ε → Prop} (Invariant : σ → Prop)
    (preserves : ∀ state event next, allowed event → Invariant state →
      step state event = some next → Invariant next)
    {initial final : σ} {events : List ε}
    (eventsAllowed : ∀ event ∈ events, allowed event)
    (holds : Invariant initial) (ran : step.run initial events = some final) :
    Invariant final := by
  induction events generalizing initial with
  | nil =>
      cases ran
      exact holds
  | cons event events induction =>
      rcases run_cons_eq_some.mp ran with ⟨next, stepped, rest⟩
      have nextHolds :=
        preserves initial event next (eventsAllowed event (by simp)) holds stepped
      exact induction (fun other member => eventsAllowed other (by simp [member]))
        nextHolds rest

/-- What holds at the start and is carried from each past to the next holds of a
whole run and its end. -/
theorem run_history {step : PartialStep σ ε} {Invariant : List ε → σ → Prop}
    {initial final : σ} {events : List ε} (start : Invariant [] initial)
    (extended : ∀ past event state next, Invariant past state →
      step state event = some next →
      Invariant (past ++ [event]) next)
    (ran : step.run initial events = some final) : Invariant events final := by
  induction events using List.reverseRecOn generalizing final with
  | nil =>
      cases ran
      exact start
  | append_singleton past event induction =>
      rw [run_append] at ran
      rcases Option.bind_eq_some_iff.mp ran with ⟨state, before, last⟩
      rw [run_singleton] at last
      exact extended past event state final (induction before) last

theorem Reachable.invariant {step : PartialStep σ ε} {allowed : ε → Prop}
    (Invariant : σ → Prop)
    (preserves : ∀ state event next, allowed event → Invariant state →
      step state event = some next → Invariant next)
    {initial state : σ} (holds : Invariant initial)
    (reached : step.Reachable allowed initial state) : Invariant state := by
  rcases reached with ⟨events, eventsAllowed, ran⟩
  exact run_preserves Invariant preserves eventsAllowed holds ran

/-! ## Every state and every step of a run -/

/-- A property of every state that a run passes through. -/
def Throughout (step : PartialStep σ ε) (holds : σ → Prop) : σ → List ε → Prop
  | state, [] => holds state
  | state, event :: events =>
      holds state ∧ ∀ next, step state event = some next →
        step.Throughout holds next events

/-- A property of every step that a run makes. -/
def EveryStep (step : PartialStep σ ε) (meets : σ → ε → Prop) : σ → List ε → Prop
  | _, [] => True
  | state, event :: events => ∀ next, step state event = some next →
      meets state event ∧ step.EveryStep meets next events

theorem Throughout.head {step : PartialStep σ ε} {holds : σ → Prop} {state : σ}
    {events : List ε} (throughout : step.Throughout holds state events) :
    holds state := by
  cases events with
  | nil => exact throughout
  | cons event events => exact throughout.1

theorem Throughout.last {step : PartialStep σ ε} {holds : σ → Prop} {state final : σ}
    {events : List ε} (throughout : step.Throughout holds state events)
    (ran : step.run state events = some final) : holds final := by
  induction events generalizing state with
  | nil =>
      cases ran
      exact throughout
  | cons event events induction =>
      rcases run_cons_eq_some.mp ran with ⟨next, stepped, rest⟩
      exact induction (throughout.2 next stepped) rest

/-- What the steps that meet a condition preserve, a run of such steps preserves. -/
theorem EveryStep.preserves {step : PartialStep σ ε} {meets : σ → ε → Prop}
    {allowed : ε → Prop} (Invariant : σ → Prop)
    (preserves : ∀ state event next, allowed event → meets state event → Invariant state →
      step state event = some next → Invariant next)
    {initial final : σ} {events : List ε} (every : step.EveryStep meets initial events)
    (eventsAllowed : ∀ event ∈ events, allowed event) (holds : Invariant initial)
    (ran : step.run initial events = some final) : Invariant final := by
  induction events generalizing initial with
  | nil =>
      cases ran
      exact holds
  | cons event events induction =>
      rcases run_cons_eq_some.mp ran with ⟨next, stepped, rest⟩
      rcases every next stepped with ⟨meet, later⟩
      have first := eventsAllowed event List.mem_cons_self
      have nextHolds := preserves initial event next first meet holds stepped
      exact induction later
        (fun other member => eventsAllowed other (List.mem_cons_of_mem _ member))
          nextHolds rest

theorem throughout_congr {step : PartialStep σ ε} {first second : σ → Prop}
    (same : ∀ state, first state ↔ second state) (state : σ) (events : List ε) :
    step.Throughout first state events ↔ step.Throughout second state events := by
  induction events generalizing state with
  | nil => exact same state
  | cons event events induction =>
      apply and_congr (same state)
      exact forall_congr' fun next => imp_congr_right fun _ => induction next

theorem throughout_and {step : PartialStep σ ε} {first second : σ → Prop} (state : σ)
    (events : List ε) :
    step.Throughout (fun state => first state ∧ second state) state events ↔
      step.Throughout first state events ∧ step.Throughout second state events := by
  induction events generalizing state with
  | nil => exact Iff.rfl
  | cons event events induction =>
      simp only [Throughout, induction]
      constructor
      · intro both
        exact ⟨⟨both.1.1, fun next stepped => (both.2 next stepped).1⟩,
          ⟨both.1.2, fun next stepped => (both.2 next stepped).2⟩⟩
      · intro both
        exact ⟨⟨both.1.1, both.2.1⟩, fun next stepped =>
          ⟨both.1.2 next stepped, both.2.2 next stepped⟩⟩

/-- A property that a step keeps exactly if the step meets a condition holds throughout
a run exactly if all of its steps meet it. -/
theorem throughout_iff_everyStep {step : PartialStep σ ε} {holds : σ → Prop}
    {meets : σ → ε → Prop}
    (decides : ∀ state event next, holds state → step state event = some next →
      (holds next ↔ meets state event))
    {state : σ} (initially : holds state) (events : List ε) :
    step.Throughout holds state events ↔ step.EveryStep meets state events := by
  induction events generalizing state with
  | nil => exact ⟨fun _ => trivial, fun _ => initially⟩
  | cons event events induction =>
      constructor
      · intro throughout next stepped
        have after := throughout.2 next stepped
        exact ⟨(decides state event next initially stepped).mp after.head,
          (induction after.head).mp after⟩
      · intro every
        refine ⟨initially, ?_⟩
        intro next stepped
        have after := every next stepped
        have holdsNext := (decides state event next initially stepped).mpr after.1
        exact (induction holdsNext).mpr after.2

end PartialStep

end DataCenter
