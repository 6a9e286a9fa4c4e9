import Mathlib.Order.ConditionallyCompleteLattice.Basic
import Mathlib.Order.Nat
import Mathlib.Order.Lattice.Nat

/-!
# First-write-wins partial maps with a sliding window

A stream under reassembly, seen from outside, is a partial map from indices to
values.  A substring offers a value for each of its indices; inside the window
the map takes the offer where it holds nothing yet, and it never gives up a
value.  `next` is the first index the map does not hold.
-/

namespace Sponge.FirstWrite

variable {α : Type*}

/-- The value a substring starting at `index` offers for index `j`. -/
def valueAt (data : List α) (index j : Nat) : Option α :=
  if index ≤ j then data[j - index]? else none

/-- Take the offers of a substring for the unheld indices of the window `[lo, hi)`. -/
def assign (held : Nat → Option α) (lo hi : Nat) (data : List α) (index : Nat) :
    Nat → Option α :=
  fun j => (held j).or (if lo ≤ j ∧ j < hi then valueAt data index j else none)

/-- The first index that is not held. -/
noncomputable def next (held : Nat → Option α) : Nat := sInf {j | held j = none}

theorem valueAt_eq_none_iff (data : List α) (index j : Nat) :
    valueAt data index j = none ↔ j < index ∨ index + data.length ≤ j := by
  unfold valueAt
  split
  · rw [List.getElem?_eq_none_iff]
    omega
  · simp only [true_iff]
    omega

@[simp] theorem valueAt_nil (index j : Nat) : valueAt ([] : List α) index j = none := by
  simp [valueAt]

theorem valueAt_append (first second : List α) (index j : Nat) :
    valueAt (first ++ second) index j =
      (valueAt first index j).or (valueAt second (index + first.length) j) := by
  unfold valueAt
  by_cases started : index ≤ j
  · rw [if_pos started, if_pos started, List.getElem?_append]
    by_cases early : j - index < first.length
    · rw [if_pos early, List.getElem?_eq_getElem early, Option.some_or]
    · have later : index + first.length ≤ j := by omega
      rw [if_neg early, List.getElem?_eq_none (Nat.not_lt.mp early), Option.none_or, if_pos later]
      congr 1
      omega
  · have notLater : ¬ (index + first.length ≤ j) := by omega
    rw [if_neg started, if_neg started, if_neg notLater, Option.none_or]

theorem next_eq {held : Nat → Option α} {n : Nat} (below : ∀ j < n, held j ≠ none)
    (gap : held n = none) : next held = n := by
  apply le_antisymm
  · exact Nat.sInf_le gap
  · apply le_csInf ⟨n, gap⟩
    intro j hj
    by_contra smaller
    exact below j (Nat.not_le.mp smaller) hj

/-- What is held stays held, with the same value. -/
theorem assign_of_some {held : Nat → Option α} {j : Nat} {value : α} (lo hi : Nat)
    (data : List α) (index : Nat) (present : held j = some value) :
    assign held lo hi data index j = some value := by
  simp [assign, present]

/-- Outside the window nothing is taken. -/
theorem assign_of_outside {held : Nat → Option α} {lo hi j : Nat} (data : List α) (index : Nat)
    (outside : j < lo ∨ hi ≤ j) : assign held lo hi data index j = held j := by
  have excluded : ¬ (lo ≤ j ∧ j < hi) := by omega
  simp [assign, excluded]

/-- A substring that offers nothing inside the window changes nothing. -/
theorem assign_of_no_offer (held : Nat → Option α) {lo hi : Nat} {data : List α} {index : Nat}
    (noOffer : ∀ j, lo ≤ j → j < hi → valueAt data index j = none) :
    assign held lo hi data index = held := by
  funext j
  unfold assign
  split
  · rename_i inside
    rw [noOffer j inside.1 inside.2, Option.or_none]
  · exact Option.or_none

/-- Taking the offers window by window is taking them in the joined window. -/
theorem assign_assign (held : Nat → Option α) {lo mid hi : Nat} (data : List α) (index : Nat)
    (lower : lo ≤ mid) (upper : mid ≤ hi) :
    assign (assign held lo mid data index) mid hi data index = assign held lo hi data index := by
  funext j
  unfold assign
  rw [Option.or_assoc]
  congr 1
  by_cases first : lo ≤ j ∧ j < mid
  · have later : ¬ (mid ≤ j ∧ j < hi) := by omega
    have inside : lo ≤ j ∧ j < hi := by omega
    rw [if_pos first, if_neg later, if_pos inside, Option.or_none]
  · have same : (mid ≤ j ∧ j < hi) ↔ (lo ≤ j ∧ j < hi) := by omega
    rw [if_neg first, Option.none_or]
    simp only [same]

/-- A map that holds the whole window takes nothing. -/
theorem assign_of_held {held : Nat → Option α} {lo hi : Nat} (data : List α) (index : Nat)
    (full : ∀ j, lo ≤ j → j < hi → held j ≠ none) : assign held lo hi data index = held := by
  funext j
  unfold assign
  split
  · rename_i inside
    obtain ⟨value, present⟩ := Option.ne_none_iff_exists'.mp (full j inside.1 inside.2)
    rw [present, Option.some_or]
  · exact Option.or_none

/-- An index is held afterwards when it was held or its value was offered inside the window. -/
theorem assign_ne_none_iff (held : Nat → Option α) (lo hi : Nat) (data : List α) (index j : Nat) :
    assign held lo hi data index j ≠ none ↔
      held j ≠ none ∨ (index ≤ j ∧ j < index + data.length) ∧ lo ≤ j ∧ j < hi := by
  unfold assign
  rw [ne_eq, Option.or_eq_none_iff, not_and_or]
  refine or_congr Iff.rfl ?_
  split
  · rename_i inside
    rw [valueAt_eq_none_iff]
    omega
  · rename_i outside
    simp only [not_true_eq_false, false_iff]
    exact fun offered => outside offered.2

/-- Values taken from an agreeing substring agree. -/
theorem assign_agrees {held whole : Nat → Option α} {lo hi : Nat} {data : List α} {index : Nat}
    (old : ∀ j value, held j = some value → whole j = some value)
    (offered : ∀ j value, lo ≤ j → j < hi → valueAt data index j = some value →
      whole j = some value)
    {j : Nat} {value : α} (taken : assign held lo hi data index j = some value) :
    whole j = some value := by
  unfold assign at taken
  rcases Option.or_eq_some_iff.mp taken with present | ⟨_, offer⟩
  · exact old j value present
  · split at offer
    · rename_i inside
      exact offered j value inside.1 inside.2 offer
    · cases offer

end Sponge.FirstWrite
