import Mathlib.Logic.Basic

/-!
# Loops

A loop is given by its body, which leaves the loop or goes on.  `Completes` says
that the loop ends and in which state, `Visits` which states it passes through,
ended or not; `iterate` and `run` run it with a bound on the number of rounds.  A
loop whose rounds lower a measure completes, in the state that `iterate` computes.
-/

namespace Sponge.Loop

variable {σ : Type*}

/-- What one round of a loop does: leave it, or go on. -/
inductive Round (σ : Type*) where
  | leave (final : σ)
  | again (next : σ)

/-- The loop ends in `final`. -/
inductive Completes (body : σ → Round σ) : σ → σ → Prop where
  | leave {state final : σ} (left : body state = .leave final) : Completes body state final
  | again {state next final : σ} (went : body state = .again next)
      (rest : Completes body next final) : Completes body state final

/-- The states in which the loop, begun in `start`, begins a round. -/
inductive Visits (body : σ → Round σ) (start : σ) : σ → Prop where
  | refl : Visits body start start
  | again {state next : σ} (earlier : Visits body start state) (went : body state = .again next) :
      Visits body start next

/-- The state in which the loop ends, if it does within a number of rounds. -/
def run (body : σ → Round σ) : Nat → σ → Option σ
  | 0, _ => none
  | fuel + 1, state =>
      match body state with
      | .leave final => some final
      | .again next => run body fuel next

/-- The loop, with a bound on the number of rounds. -/
def iterate (body : σ → Round σ) : Nat → σ → σ
  | 0, state => state
  | fuel + 1, state =>
      match body state with
      | .leave final => final
      | .again next => iterate body fuel next

variable {body : σ → Round σ} {state final other : σ}

theorem completes_of_run {fuel : Nat} (ran : run body fuel state = some final) :
    Completes body state final := by
  induction fuel generalizing state with
  | zero => cases ran
  | succ fuel ih =>
      rw [run] at ran
      cases round : body state with
      | leave last =>
          rw [round] at ran
          cases ran
          exact .leave round
      | again next =>
          rw [round] at ran
          exact .again round (ih ran)

/-- What holds at the start and is kept by every round holds in every state visited. -/
theorem Visits.invariant (visits : Visits body state final) (Holds : σ → Prop)
    (initially : Holds state)
    (kept : ∀ current next, Holds current → body current = .again next → Holds next) :
    Holds final := by
  induction visits with
  | refl => exact initially
  | again _ went ih => exact kept _ _ ih went

theorem Visits.before {next : σ} (visits : Visits body next final)
    (went : body state = .again next) : Visits body state final := by
  induction visits with
  | refl => exact .again .refl went
  | again _ later ih => exact .again ih later

/-- A loop that ends is left from a state that it visits. -/
theorem Completes.exists_visits (completes : Completes body state final) :
    ∃ last, Visits body state last ∧ body last = .leave final := by
  induction completes with
  | leave left => exact ⟨_, .refl, left⟩
  | again went _ ih =>
      obtain ⟨last, visits, left⟩ := ih
      exact ⟨last, visits.before went, left⟩

/-- A loop ends in at most one state. -/
theorem Completes.unique (first : Completes body state final)
    (second : Completes body state other) : final = other := by
  induction first with
  | leave left =>
      cases second with
      | leave left' =>
          rw [left] at left'
          exact Round.leave.inj left'
      | again went _ =>
          rw [left] at went
          cases went
  | again went _ ih =>
      cases second with
      | leave left =>
          rw [went] at left
          cases left
      | again went' rest =>
          rw [went] at went'
          cases went'
          exact ih rest

section Measure

variable (measure : σ → Nat) (idle : ∀ state, measure state = 0 → body state = .leave state)
  (lowers : ∀ state next, body state = .again next → measure next < measure state)

include idle lowers

theorem completes_iterate (fuel : Nat) (state : σ) (enough : measure state ≤ fuel) :
    Completes body state (iterate body fuel state) := by
  induction fuel generalizing state with
  | zero => exact .leave (idle state (Nat.le_zero.mp enough))
  | succ fuel ih =>
      rw [iterate]
      cases round : body state with
      | leave final => exact .leave round
      | again next =>
          have lower := lowers state next round
          exact .again round (ih next (by omega))

/-- With a measure the loop ends, and in the state computed. -/
theorem completes_iff {fuel : Nat} (enough : measure state ≤ fuel) :
    Completes body state final ↔ final = iterate body fuel state := by
  have ends := completes_iterate measure idle lowers fuel state enough
  constructor
  · exact fun completes => completes.unique ends
  · rintro rfl
    exact ends

end Measure

end Sponge.Loop
