import Mathlib

/-! # Loops that may not end

A loop is given by one turn of it, which goes on from a new state or leaves with a
result.  `loop` makes as many turns as it has fuel for, and `Exits` says that some
number of turns is enough. -/

namespace DataCenter

/-- What one turn of a loop decides. -/
inductive Turn (σ ρ : Type) where
  | again (state : σ)
  | leave (result : ρ)
  deriving DecidableEq, Repr

section Loop

variable {σ ρ : Type} {turn : σ → Turn σ ρ} {start next : σ} {result : ρ}

/-- The result of a loop, if it leaves within the fuel. -/
def loop (turn : σ → Turn σ ρ) : Nat → σ → Option ρ
  | 0, _ => none
  | fuel + 1, state =>
      match turn state with
      | .again next => loop turn fuel next
      | .leave result => some result

/-- The loop ends, with this result. -/
def Exits (turn : σ → Turn σ ρ) (start : σ) (result : ρ) : Prop :=
  ∃ fuel, loop turn fuel start = some result

theorem loop_succ_of_leave (left : turn start = .leave result) (fuel : Nat) :
    loop turn (fuel + 1) start = some result := by
  rw [loop, left]

theorem loop_succ_of_again (goesOn : turn start = .again next) (fuel : Nat) :
    loop turn (fuel + 1) start = loop turn fuel next := by
  rw [loop, goesOn]

theorem exits_of_leave (left : turn start = .leave result) : Exits turn start result :=
  ⟨1, loop_succ_of_leave left 0⟩

theorem Exits.of_again (goesOn : turn start = .again next)
    (exits : Exits turn next result) :
    Exits turn start result := by
  rcases exits with ⟨fuel, ended⟩
  exact ⟨fuel + 1, (loop_succ_of_again goesOn fuel).trans ended⟩

/-- More fuel changes no result. -/
theorem loop_mono {fuel more : Nat} (enough : fuel ≤ more)
    (ended : loop turn fuel start = some result) :
    loop turn more start = some result := by
  induction fuel generalizing start more with
  | zero => cases ended
  | succ fuel induction =>
      cases more with
      | zero => cases enough
      | succ more =>
          cases decided : turn start with
          | leave value =>
              rw [loop_succ_of_leave decided] at ended ⊢
              exact ended
          | again next =>
              rw [loop_succ_of_again decided] at ended ⊢
              exact induction (Nat.le_of_succ_le_succ enough) ended

/-- More fuel changes nothing that is made of a result either. -/
theorem bind_loop_mono {α : Type} {rest : ρ → Option α} {fuel more : Nat}
    (enough : fuel ≤ more)
    {value : α} (made : (loop turn fuel start).bind rest = some value) :
    (loop turn more start).bind rest = some value := by
  rcases Option.bind_eq_some_iff.mp made with ⟨result, ended, after⟩
  rw [loop_mono enough ended]
  exact after

/-- A loop that goes on from every state of a set that it does not leave has no end. -/
theorem loop_eq_none_of_stuck (Stuck : σ → Prop)
    (continues : ∀ state, Stuck state → ∃ next, turn state = .again next ∧ Stuck next)
    (stuck : Stuck start) (fuel : Nat) : loop turn fuel start = none := by
  induction fuel generalizing start with
  | zero => rfl
  | succ fuel induction =>
      rcases continues start stuck with ⟨next, goesOn, still⟩
      rw [loop_succ_of_again goesOn]
      exact induction still

end Loop

section Redraw

variable {α : Type} {draw : Nat → α × Nat} {rejected : α → Bool}

/-- A random value is drawn again while it is rejected.  Next to the value stands how
many random numbers have been used up. -/
def redraw (draw : Nat → α × Nat) (rejected : α → Bool) :
    α × Nat → Turn (α × Nat) (α × Nat)
  | (value, position) =>
      if rejected value then .again (draw position) else .leave (value, position)

/-- The first value that is not rejected, of those drawn from a position on. -/
inductive FirstAccepted (draw : Nat → α × Nat) (rejected : α → Bool) :
    Nat → α × Nat → Prop
  | here {position : Nat} (accepted : rejected (draw position).1 = false) :
      FirstAccepted draw rejected position (draw position)
  | later {position : Nat} {result : α × Nat}
      (refused : rejected (draw position).1 = true)
      (rest : FirstAccepted draw rejected (draw position).2 result) :
      FirstAccepted draw rejected position result

theorem FirstAccepted.accepted {position : Nat} {result : α × Nat}
    (first : FirstAccepted draw rejected position result) :
    rejected result.1 = false := by
  induction first with
  | here accepted => exact accepted
  | later _ _ induction => exact induction

theorem FirstAccepted.exists_drawn {position : Nat} {result : α × Nat}
    (first : FirstAccepted draw rejected position result) :
    ∃ drawn, result = draw drawn := by
  induction first with
  | here => exact ⟨_, rfl⟩
  | later _ _ induction => exact induction

/-- The loop leaves with the first value that is not rejected, if there is one. -/
theorem exits_redraw_iff {position : Nat} {result : α × Nat} :
    Exits (redraw draw rejected) (draw position) result ↔
      FirstAccepted draw rejected position result := by
  constructor
  · intro exits
    rcases exits with ⟨fuel, ended⟩
    induction fuel generalizing position with
    | zero => cases ended
    | succ fuel induction =>
        by_cases refused : rejected (draw position).1 = true
        · have goesOn :
              redraw draw rejected (draw position) = .again (draw (draw position).2) :=
            if_pos refused
          rw [loop_succ_of_again goesOn] at ended
          exact .later refused (induction ended)
        · have left : redraw draw rejected (draw position) = .leave (draw position) :=
            if_neg refused
          rw [loop_succ_of_leave left] at ended
          cases ended
          exact .here (Bool.eq_false_iff.mpr refused)
  · intro first
    induction first with
    | @here position accepted =>
        exact exits_of_leave (if_neg (Bool.eq_false_iff.mp accepted))
    | later refused _ induction => exact induction.of_again (if_pos refused)

/-- A first value that is not rejected is the result. -/
theorem loop_redraw_of_accepted {position : Nat}
    (accepted : rejected (draw position).1 = false) (fuel : Nat) :
    loop (redraw draw rejected) (fuel + 1) (draw position) = some (draw position) := by
  apply loop_succ_of_leave
  rw [redraw, accepted]
  rfl

end Redraw

end DataCenter
