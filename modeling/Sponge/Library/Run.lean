import Mathlib.Logic.Relation

/-!
# Runs of a guarded partial machine

A machine takes labelled steps that may fail.  `Reaches step allowed start` are
the states of the runs from `start` all of whose steps meet `allowed`; with the
guard `fun _ _ => True` these are all reachable states.
-/

namespace Sponge

variable {σ ι : Type*} {step : σ → ι → Option σ} {allowed : σ → ι → Prop} {start : σ}

/-- The states reached from `start` by steps that succeed and are allowed. -/
inductive Reaches (step : σ → ι → Option σ) (allowed : σ → ι → Prop) (start : σ) : σ → Prop where
  | refl : Reaches step allowed start start
  | tail {state final : σ} (op : ι) (earlier : Reaches step allowed start state)
      (permitted : allowed state op) (next : step state op = some final) :
      Reaches step allowed start final

/-- Any step of the machine may be taken. -/
def Always (_ : σ) (_ : ι) : Prop := True

instance (state : σ) (op : ι) : Decidable (Always state op) := inferInstanceAs (Decidable True)

namespace Reaches

/-- What holds at the start and is kept by every allowed step holds throughout. -/
theorem invariant {state : σ} (reached : Reaches step allowed start state) (Holds : σ → Prop)
    (initially : Holds start)
    (kept : ∀ state op final, Holds state → allowed state op → step state op = some final →
      Holds final) : Holds state := by
  induction reached with
  | refl => exact initially
  | tail op earlier permitted next ih => exact kept _ op _ ih permitted next

theorem trans {state final : σ} (first : Reaches step allowed start state)
    (second : Reaches step allowed state final) : Reaches step allowed start final := by
  induction second with
  | refl => exact first
  | tail op _ permitted next ih => exact ih.tail op permitted next

/-- Every run under a guard is a run under a weaker one. -/
theorem weaken {state : σ} {weaker : σ → ι → Prop} (reached : Reaches step allowed start state)
    (implies : ∀ state op, allowed state op → weaker state op) :
    Reaches step weaker start state := by
  induction reached with
  | refl => exact .refl
  | tail op earlier permitted next ih => exact ih.tail op (implies _ _ permitted) next

/--
A goal can be attained from every state in which the measure can be lowered without
leaving the states considered.
-/
theorem attain {Goal : σ → Prop} (Holds : σ → Prop) (measure : σ → Nat)
    (lowers : ∀ state, Holds state → ¬ Goal state → ∃ next, Reaches step allowed state next ∧
      (Goal next ∨ Holds next ∧ measure next < measure state))
    (initially : Holds start) : ∃ final, Reaches step allowed start final ∧ Goal final := by
  generalize bound : measure start = height
  induction height using Nat.strongRecOn generalizing start with
  | ind height ih =>
      by_cases done : Goal start
      · exact ⟨start, .refl, done⟩
      obtain ⟨next, reached, attained | ⟨holds, lower⟩⟩ := lowers start initially done
      · exact ⟨next, reached, attained⟩
      · obtain ⟨final, later, attained⟩ := ih (measure next) (by omega) holds rfl
        exact ⟨final, reached.trans later, attained⟩

end Reaches

/-- Take steps one after the other, each chosen in the state it is taken in. -/
def execute (step : σ → ι → Option σ) (allowed : σ → ι → Prop)
    [∀ state op, Decidable (allowed state op)] (state : σ) : List (σ → ι) → Option σ
  | [] => some state
  | op :: ops =>
      if allowed state (op state) then
        (step state (op state)).bind fun next => execute step allowed next ops
      else none

theorem reaches_of_execute [∀ state op, Decidable (allowed state op)] {state final : σ}
    {ops : List (σ → ι)} (ran : execute step allowed state ops = some final) :
    Reaches step allowed state final := by
  induction ops generalizing state with
  | nil =>
      cases ran
      exact .refl
  | cons op ops ih =>
      rw [execute] at ran
      split at ran
      · rename_i permitted
        obtain ⟨next, taken, rest⟩ := Option.bind_eq_some_iff.mp ran
        exact (Reaches.refl.tail (op state) permitted taken).trans (ih rest)
      · cases ran

/-- A state with a property is reached if the steps can be taken and lead to one. -/
theorem exists_reaches [∀ state op, Decidable (allowed state op)] {state : σ} {ops : List (σ → ι)}
    {Holds : σ → Prop} [DecidablePred Holds]
    (ran : (execute step allowed state ops).any (fun final => decide (Holds final)) = true) :
    ∃ final, Reaches step allowed state final ∧ Holds final := by
  cases outcome : execute step allowed state ops with
  | none =>
      rw [outcome] at ran
      cases ran
  | some final =>
      rw [outcome] at ran
      exact ⟨final, reaches_of_execute outcome, of_decide_eq_true ran⟩

end Sponge
