import Mathlib.Algebra.Order.Ring.Nat

/-!
# One's-complement sums of 16-bit words

Words are added with the carry out of the top bit added back in.  Up to the two
representations of zero this is addition modulo `2 ^ 16 - 1`: `reduce` is the
representative the sum arrives at, which is 0 only if every word is.
-/

namespace Sponge.OnesComplement

/-- Addition with end-around carry. -/
def add (a b : Nat) : Nat := if a + b < 2 ^ 16 then a + b else a + b + 1 - 2 ^ 16

/-- The one's-complement sum of words. -/
def total (words : List Nat) : Nat := words.foldr add 0

/-- The representative of a number between 1 and `2 ^ 16 - 1`, and 0 for 0. -/
def reduce (n : Nat) : Nat := if n = 0 then 0 else (n - 1) % (2 ^ 16 - 1) + 1

theorem reduce_lt (n : Nat) : reduce n < 2 ^ 16 := by
  unfold reduce
  split <;> omega

/-- `reduce n` is the only word congruent to `n` that is zero just when `n` is. -/
theorem eq_reduce {word n : Nat} (small : word < 2 ^ 16)
    (congruent : word % (2 ^ 16 - 1) = n % (2 ^ 16 - 1)) (zero : word = 0 ↔ n = 0) :
    word = reduce n := by
  unfold reduce
  split <;> omega

theorem reduce_eq_iff (n : Nat) : reduce n = 2 ^ 16 - 1 ↔ 0 < n ∧ n % (2 ^ 16 - 1) = 0 := by
  unfold reduce
  split <;> omega

/-- Adding the complement of what a sum reduces to makes it reduce to all ones. -/
theorem reduce_add_complement (n : Nat) : reduce (n + (2 ^ 16 - 1 - reduce n)) = 2 ^ 16 - 1 := by
  unfold reduce
  split <;> split <;> omega

theorem add_reduce {word : Nat} (small : word < 2 ^ 16) (n : Nat) :
    add word (reduce n) = reduce (word + n) := by
  unfold add reduce
  split_ifs <;> omega

/-- The one's-complement sum is the representative of the sum. -/
theorem total_eq {words : List Nat} (small : ∀ word ∈ words, word < 2 ^ 16) :
    total words = reduce words.sum := by
  induction words with
  | nil => rfl
  | cons word rest ih =>
      have tail := ih fun other member => small other (List.mem_cons_of_mem _ member)
      rw [total, List.foldr_cons, ← total, tail, add_reduce (small word List.mem_cons_self),
        List.sum_cons]

/-! ## Folding the carries of an ordinary sum -/

/-- Add what is above the low 16 bits of a sum to them. -/
def foldCarry (n : Nat) : Nat := n / 2 ^ 16 + n % 2 ^ 16

theorem reduce_foldCarry (n : Nat) : reduce (foldCarry n) = reduce n := by
  unfold reduce foldCarry
  split_ifs <;> omega

theorem reduce_of_lt {n : Nat} (small : n < 2 ^ 16) : reduce n = n :=
  (eq_reduce small rfl Iff.rfl).symm

/-- The two halves of a 32-bit number stand for the same as the number. -/
theorem reduce_halves (n rest : Nat) :
    reduce (n / 2 ^ 16 + (n % 2 ^ 16 + rest)) = reduce (n + rest) := by
  unfold reduce
  split_ifs <;> omega

end Sponge.OnesComplement
