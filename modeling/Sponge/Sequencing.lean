import Sponge.Library.Nearest
import Sponge.Model.WrappingIntegers

/-!
# Which absolute sequence number `unwrap` returns

A relative sequence number stands for every absolute one of its residue, and
`unwrap` is meant to return the one nearest to the checkpoint.  It misses it in
one place: it does not step down from `2 ^ 32` to 0.
-/

namespace Sponge

open MachineInt Nearest

/-- An absolute sequence number wraps to `n` when it has the residue of `n`. -/
theorem wrap_eq_iff (position : Nat) (n isn : WrappingInt32) :
    wrap position isn = n ↔ position % 2 ^ 32 = offset n isn := by
  constructor
  · rintro rfl
    exact (offset_wrap position isn).symm
  · intro residue
    exact eq_of_offset_eq isn ((offset_wrap position isn).trans residue)

/-- What `unwrap` is to return: a number that wraps to `n`, none of them nearer. -/
def UnwrapsToClosest (n isn : WrappingInt32) (checkpoint : Nat) : Prop :=
  wrap (unwrap n isn checkpoint) isn = n ∧
    ∀ x < 2 ^ 64, wrap x isn = n → Nat.dist (unwrap n isn checkpoint) checkpoint ≤
      Nat.dist x checkpoint

/-- The initial sequence number itself, seen from the first half cycle. -/
def IsnJustBehind (n isn : WrappingInt32) (checkpoint : Nat) : Prop :=
  n = isn ∧ 0 < checkpoint ∧ checkpoint < 2 ^ 31

theorem unwrapsToClosest_iff_isNearest (n isn : WrappingInt32) {checkpoint : Nat}
    (bound : checkpoint < 2 ^ 64) :
    UnwrapsToClosest n isn checkpoint ↔
      IsNearest (2 ^ 32) (2 ^ 64) checkpoint (unwrap n isn checkpoint) := by
  have residue := (unwrap_mod n isn bound).1
  rw [UnwrapsToClosest, IsNearest, residue, wrap_eq_iff, and_iff_right residue]
  simp only [wrap_eq_iff]

/-- How far from the checkpoint the result of `unwrap` can be. -/
theorem unwrap_near_iff (n isn : WrappingInt32) {checkpoint : Nat}
    (bound : checkpoint + 2 ^ 32 < 2 ^ 64) :
    (2 * Nat.dist (unwrap n isn checkpoint) checkpoint ≤ 2 ^ 32 ∨
        checkpoint ≤ unwrap n isn checkpoint ∧ unwrap n isn checkpoint < 2 ^ 32) ↔
      ¬ (offset n isn = 0 ∧ 0 < checkpoint ∧ checkpoint < 2 ^ 31) := by
  have small := offset_lt n isn
  by_cases ahead : checkpoint ≤ offset n isn
  · rw [unwrap_of_le n isn ahead]
    omega
  · simp only [unwrap, liftToCheckpoint, maxU32, add64, mul64, sub64, Nat.dist]
    split_ifs <;> omega

/--
`unwrap` returns a number that wraps to `n` and is nearest to the checkpoint,
except for the initial sequence number seen from the first half cycle after it.
-/
theorem unwrap_closest_iff (n isn : WrappingInt32) {checkpoint : Nat}
    (bound : checkpoint + 2 ^ 32 < 2 ^ 64) :
    UnwrapsToClosest n isn checkpoint ↔ ¬ IsnJustBehind n isn checkpoint := by
  have inBound := (unwrap_mod n isn (show checkpoint < 2 ^ 64 by omega)).2
  rw [unwrapsToClosest_iff_isNearest n isn (by omega),
    isNearest_iff (by decide) inBound bound.le, unwrap_near_iff n isn bound, IsnJustBehind,
    offset_eq_zero_iff]

/-- From the middle of the second cycle, the initial sequence number is its start. -/
theorem unwrap_closest_iff_second_cycle :
    unwrap ⟨5⟩ ⟨5⟩ (2 ^ 32 + 9) = 2 ^ 32 ∧ UnwrapsToClosest ⟨5⟩ ⟨5⟩ (2 ^ 32 + 9) :=
  ⟨by decide, (unwrap_closest_iff _ _ (by decide)).mpr fun behind =>
    absurd behind.2.2 (by decide)⟩

/-- One byte into the stream the initial sequence number is taken for the end of the cycle. -/
theorem unwrap_misses_isn :
    ¬ ∀ (n isn : WrappingInt32) (checkpoint : Nat), checkpoint + 2 ^ 32 < 2 ^ 64 →
      UnwrapsToClosest n isn checkpoint := by
  intro closest
  have nearer := (closest ⟨5⟩ ⟨5⟩ 1 (by decide)).2 0 (by decide) (wrap_zero _)
  exact absurd nearer (by decide)

/-- Less than half a cycle behind the checkpoint every position but the first is recovered. -/
theorem unwrap_wrap_behind (isn : WrappingInt32) {position checkpoint : Nat}
    (positive : 0 < position) (room : position + 2 ^ 32 < 2 ^ 64)
    (behind : position < checkpoint) (near : checkpoint - position < 2 ^ 31) :
    unwrap (wrap position isn) isn checkpoint = position := by
  have lifted : liftToCheckpoint (position % 2 ^ 32) checkpoint = position + 2 ^ 32 := by
    simp only [liftToCheckpoint, maxU32, add64, mul64]
    split_ifs <;> omega
  have far : ¬ sub64 (position + 2 ^ 32) checkpoint < maxU32 / 2 := by
    rw [sub64_of_le (by omega) (by omega)]
    unfold maxU32
    omega
  simp only [unwrap, offset_wrap, lifted]
  rw [if_neg far, if_pos (by unfold maxU32; omega), Nat.add_sub_cancel]

/--
The position of a byte or of the FIN survives the 32-bit wire format: any
checkpoint less than half a cycle away recovers it.
-/
theorem unwrap_wrap_of_near (isn : WrappingInt32) {position checkpoint : Nat}
    (positive : 1 ≤ position) (room : position + 2 ^ 32 < 2 ^ 64) (bound : checkpoint < 2 ^ 64)
    (near : Nat.dist position checkpoint < 2 ^ 31) :
    unwrap (wrap position isn) isn checkpoint = position := by
  unfold Nat.dist at near
  by_cases behind : position < checkpoint
  · exact unwrap_wrap_behind isn positive room behind (by omega)
  · have ahead : checkpoint + (position - checkpoint) = position := by omega
    have counted : offset (wrap position isn) isn =
        (checkpoint + (position - checkpoint)) % 2 ^ 32 := by rw [ahead, offset_wrap]
    rw [unwrap_ahead _ isn bound (by omega) counted, add64_of_lt (by omega), ahead]

/-- A byte just below the end of the first cycle, seen from just above it. -/
theorem unwrap_wrap_of_near_across :
    unwrap (wrap (2 ^ 32 - 1) ⟨7⟩) ⟨7⟩ (2 ^ 32 + 1) = 2 ^ 32 - 1 :=
  unwrap_wrap_of_near ⟨7⟩ (by decide) (by decide) (by decide) (by decide)

end Sponge
