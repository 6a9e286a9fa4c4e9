import Sponge.Library.MachineInt

/-!
# 32-bit sequence numbers

`wrapping_integers.hh` and `wrapping_integers.cc`.  A `WrappingInt32` is a raw
32-bit value relative to an initial sequence number.  Absolute sequence numbers
are 64-bit values, kept as natural numbers with the wrap written out.
-/

namespace Sponge

open MachineInt

/-- A 32-bit integer, expressed relative to an arbitrary initial sequence number. -/
structure WrappingInt32 where
  rawValue : UInt32
  deriving DecidableEq

namespace WrappingInt32

/-- The point `b` steps past `a`: `operator+(WrappingInt32, uint32_t)`. -/
def add (a : WrappingInt32) (b : UInt32) : WrappingInt32 := ⟨a.rawValue + b⟩

/-- The point `b` steps before `a`: `operator-(WrappingInt32, uint32_t)`. -/
def sub (a : WrappingInt32) (b : UInt32) : WrappingInt32 := a.add (-b)

end WrappingInt32

/-- Transform an absolute 64-bit sequence number into a relative one. -/
def wrap (n : Nat) (isn : WrappingInt32) : WrappingInt32 :=
  let seqno64bits := add64 n isn.rawValue.toNat
  ⟨UInt32.ofNat seqno64bits⟩

/-- The constant the source calls `MAX_U32`: one more than the largest `uint32_t`. -/
abbrev maxU32 : Nat := 2 ^ 32

/-- `n.raw_value() - isn.raw_value()`: a 32-bit subtraction that may overflow. -/
def offset (n isn : WrappingInt32) : Nat := (n.rawValue - isn.rawValue).toNat

/-- The first `if` of `unwrap`: move `absSeqno` up to the first candidate from `checkpoint` on. -/
def liftToCheckpoint (absSeqno checkpoint : Nat) : Nat :=
  if absSeqno < checkpoint then
    let indexDiff := checkpoint - absSeqno
    if indexDiff % maxU32 = 0 then checkpoint
    else add64 absSeqno (mul64 maxU32 (indexDiff / maxU32 + 1))
  else absSeqno

/-- Transform a relative sequence number into an absolute one near `checkpoint`. -/
def unwrap (n isn : WrappingInt32) (checkpoint : Nat) : Nat :=
  let absSeqno := liftToCheckpoint (offset n isn) checkpoint
  if sub64 absSeqno checkpoint < maxU32 / 2 then absSeqno
  else if absSeqno > maxU32 then absSeqno - maxU32 else absSeqno

/-! ## What the conversions compute -/

theorem offset_lt (n isn : WrappingInt32) : offset n isn < 2 ^ 32 :=
  (n.rawValue - isn.rawValue).toNat_lt

theorem offset_self (isn : WrappingInt32) : offset isn isn = 0 := by
  simp [offset]

@[simp] theorem wrap_zero (isn : WrappingInt32) : wrap 0 isn = isn := by
  have small := isn.rawValue.toNat_lt
  rw [wrap, add64_of_lt (by omega), Nat.zero_add, UInt32.ofNat_toNat]

/-- Wrapping keeps exactly the residue of the absolute sequence number. -/
theorem offset_wrap (n : Nat) (isn : WrappingInt32) : offset (wrap n isn) isn = n % 2 ^ 32 := by
  have small := isn.rawValue.toNat_lt
  simp only [offset, wrap, add64, UInt32.toNat_sub, UInt32.toNat_ofNat']
  omega

theorem offset_add (n isn : WrappingInt32) (steps : Nat) :
    offset (n.add (UInt32.ofNat steps)) isn = (offset n isn + steps) % 2 ^ 32 := by
  simp only [offset, WrappingInt32.add, UInt32.toNat_sub, UInt32.toNat_add, UInt32.toNat_ofNat']
  omega

/-- A sequence number is given by its offset. -/
theorem eq_of_offset_eq {n n' : WrappingInt32} (isn : WrappingInt32)
    (same : offset n isn = offset n' isn) : n = n' := by
  obtain ⟨value⟩ := n
  obtain ⟨value'⟩ := n'
  have difference := UInt32.toNat_inj.mp same
  simpa using difference

theorem offset_eq_zero_iff (n isn : WrappingInt32) : offset n isn = 0 ↔ n = isn := by
  constructor
  · intro none
    exact eq_of_offset_eq isn (none.trans (offset_self isn).symm)
  · rintro rfl
    exact offset_self n

theorem wrap_congr {a b : Nat} (isn : WrappingInt32) (same : a % 2 ^ 32 = b % 2 ^ 32) :
    wrap a isn = wrap b isn :=
  eq_of_offset_eq isn (by rw [offset_wrap, offset_wrap, same])

theorem liftToCheckpoint_mod {absSeqno checkpoint : Nat} (small : absSeqno < 2 ^ 32)
    (bound : checkpoint < 2 ^ 64) :
    liftToCheckpoint absSeqno checkpoint % 2 ^ 32 = absSeqno ∧
      liftToCheckpoint absSeqno checkpoint < 2 ^ 64 := by
  simp only [liftToCheckpoint, maxU32, add64, mul64]
  split_ifs <;> omega

/-- Whatever the checkpoint, `unwrap` returns a 64-bit number of the right residue. -/
theorem unwrap_mod (n isn : WrappingInt32) {checkpoint : Nat} (bound : checkpoint < 2 ^ 64) :
    unwrap n isn checkpoint % 2 ^ 32 = offset n isn ∧ unwrap n isn checkpoint < 2 ^ 64 := by
  obtain ⟨residue, small⟩ := liftToCheckpoint_mod (offset_lt n isn) bound
  simp only [unwrap, maxU32]
  split_ifs <;> omega

/-- An offset at or past the checkpoint is returned unchanged. -/
theorem unwrap_of_le (n isn : WrappingInt32) {checkpoint : Nat}
    (ahead : checkpoint ≤ offset n isn) : unwrap n isn checkpoint = offset n isn := by
  have small := offset_lt n isn
  simp only [unwrap, liftToCheckpoint, maxU32, if_neg (Nat.not_lt.mpr ahead)]
  split_ifs <;> omega

/--
An offset behind a checkpoint of the first cycle is lifted by one cycle when
that is nearer.  A zero offset is lifted in any case: the source compares with
`abs_seqno > MAX_U32` before it steps back down.
-/
theorem unwrap_of_lt (n isn : WrappingInt32) {checkpoint : Nat}
    (behind : offset n isn < checkpoint) (cycle : checkpoint < 2 ^ 32) :
    unwrap n isn checkpoint =
      if 2 ^ 31 < checkpoint - offset n isn ∨ offset n isn = 0 then offset n isn + 2 ^ 32
      else offset n isn := by
  have lifted : liftToCheckpoint (offset n isn) checkpoint = offset n isn + 2 ^ 32 := by
    simp only [liftToCheckpoint, maxU32, add64, mul64, if_pos behind]
    split_ifs <;> omega
  simp only [unwrap, lifted, maxU32, sub64]
  split_ifs <;> omega

/-- At the largest 64-bit checkpoint the lift wraps around to the offset itself. -/
theorem unwrap_of_max (n isn : WrappingInt32) (notLast : offset n isn ≠ 2 ^ 32 - 1) :
    unwrap n isn (2 ^ 64 - 1) = offset n isn := by
  have small := offset_lt n isn
  have lifted : liftToCheckpoint (offset n isn) (2 ^ 64 - 1) = offset n isn := by
    simp only [liftToCheckpoint, maxU32, add64, mul64]
    split_ifs <;> omega
  simp only [unwrap, lifted, maxU32]
  split_ifs <;> omega

/-- Up to half a cycle ahead of the checkpoint, positions are counted on modulo `2 ^ 64`. -/
theorem unwrap_ahead (n isn : WrappingInt32) {checkpoint distance : Nat}
    (bound : checkpoint < 2 ^ 64) (near : distance < 2 ^ 31)
    (ahead : offset n isn = (checkpoint + distance) % 2 ^ 32) :
    unwrap n isn checkpoint = add64 checkpoint distance := by
  have lifted : liftToCheckpoint (offset n isn) checkpoint = add64 checkpoint distance := by
    simp only [liftToCheckpoint, maxU32, add64, mul64, ahead]
    split_ifs <;> omega
  have diff : sub64 (add64 checkpoint distance) checkpoint < 2 ^ 31 := by
    unfold sub64 add64
    omega
  simp only [unwrap, lifted, maxU32]
  rw [if_pos (by omega)]

theorem unwrap_self (isn : WrappingInt32) {checkpoint : Nat} (bound : checkpoint < 2 ^ 64) :
    unwrap (wrap checkpoint isn) isn checkpoint = checkpoint := by
  rw [unwrap_ahead _ isn bound (Nat.two_pow_pos 31) (offset_wrap checkpoint isn),
    add64_of_lt bound, Nat.add_zero]

/-- Past the first cycle the result is less than half a cycle ahead of the checkpoint. -/
theorem unwrap_lt (n isn : WrappingInt32) {checkpoint : Nat} (bound : checkpoint < 2 ^ 64) :
    unwrap n isn checkpoint < checkpoint + 2 ^ 31 ∨ unwrap n isn checkpoint ≤ 2 ^ 32 := by
  have small := offset_lt n isn
  simp only [unwrap, liftToCheckpoint, maxU32, add64, mul64, sub64]
  split_ifs <;> omega

end Sponge
