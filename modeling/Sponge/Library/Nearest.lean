import Mathlib.Data.Int.ModEq
import Mathlib.Data.Nat.Dist

/-!
# The number of a residue class nearest to a point

The numbers of one residue class modulo `m` stand `m` apart, so one of them is
nearest to a point exactly when it is within half of `m`, or when the point lies
below the whole class and the number is its first.
-/

namespace Sponge.Nearest

variable {m bound point candidate : Nat}

/-- No number below `bound` of the residue class of `candidate` is nearer to `point`. -/
def IsNearest (m bound point candidate : Nat) : Prop :=
  ∀ other < bound, other % m = candidate % m →
    Nat.dist candidate point ≤ Nat.dist other point

/-- Two different numbers of one residue class are at least `m` apart. -/
theorem add_le_of_mod_eq {low high : Nat} (same : low % m = high % m) (below : low < high) :
    low + m ≤ high := by
  have divides : m ∣ high - low := (Nat.modEq_iff_dvd' below.le).mp same
  have reaches := Nat.le_of_dvd (Nat.sub_pos_of_lt below) divides
  omega

/-- A number within half of `m` is nearest. -/
theorem isNearest_of_near (near : 2 * Nat.dist candidate point ≤ m) :
    IsNearest m bound point candidate := by
  intro other _ same
  unfold Nat.dist at near ⊢
  rcases Nat.lt_trichotomy other candidate with lower | rfl | higher
  · have apart := add_le_of_mod_eq same lower
    omega
  · exact Nat.le_refl _
  · have apart := add_le_of_mod_eq same.symm higher
    omega

/-- Below the first number of a class nothing of the class is nearer than that number. -/
theorem isNearest_of_first (ahead : point ≤ candidate) (first : candidate < m) :
    IsNearest m bound point candidate := by
  intro other _ same
  have notBelow : candidate ≤ other := by
    by_contra lower
    have apart := add_le_of_mod_eq same (Nat.lt_of_not_le lower)
    omega
  unfold Nat.dist
  omega

/-- The nearest numbers of a class, as long as the class goes on past the point. -/
theorem isNearest_iff (positive : 0 < m) (inBound : candidate < bound)
    (room : point + m ≤ bound) :
    IsNearest m bound point candidate ↔
      2 * Nat.dist candidate point ≤ m ∨ point ≤ candidate ∧ candidate < m := by
  constructor
  · intro nearest
    by_cases ahead : point ≤ candidate
    · by_cases first : candidate < m
      · exact Or.inr ⟨ahead, first⟩
      · -- the number one step down is not nearer
        left
        have closer := nearest (candidate - m) (by omega) (Nat.mod_eq_sub_mod (by omega)).symm
        unfold Nat.dist at closer ⊢
        omega
    · -- nor is the number one step up
      left
      have closer := nearest (candidate + m) (by omega) (Nat.add_mod_right _ _)
      unfold Nat.dist at closer ⊢
      omega
  · rintro (near | ⟨ahead, first⟩)
    · exact isNearest_of_near near
    · exact isNearest_of_first ahead first

end Sponge.Nearest
