import Mathlib.Data.List.Basic
import Sponge.Library.Loop

/-!
# Ropes

A rope is a list of pieces and denotes the lists of its pieces one after the
other.  Its front is removed by a loop that drops whole pieces and cuts off a part
of the last one it reaches, whatever the pieces are.  To the list it denotes this
is `List.drop`.
-/

namespace Sponge.Rope

open Loop

/-- What the pieces of a rope denote, and how the front of a piece is cut off. -/
structure Pieces (α β : Type*) where
  contents : β → List α
  cut : β → Nat → Option β
  contents_cut : ∀ piece n, n ≤ (contents piece).length →
    ∃ rest, cut piece n = some rest ∧ contents rest = (contents piece).drop n

variable {α β : Type*} (P : Pieces α β)

/-- The list that a rope denotes. -/
def flat (rope : List β) : List α := rope.flatMap P.contents

@[simp] theorem flat_nil : flat P [] = [] := rfl

@[simp] theorem flat_cons (front : β) (rest : List β) :
    flat P (front :: rest) = P.contents front ++ flat P rest := rfl

/--
One round of removing a front.  The state is what is still to be removed and the
rope, or `none` after the rope has turned out too short.
-/
def removeRound : Option (Nat × List β) → Round (Option (Nat × List β))
  | none => .leave none
  | some (0, rope) => .leave (some (0, rope))
  | some (_ + 1, []) => .leave none
  | some (n + 1, front :: rest) =>
      if n + 1 < (P.contents front).length then
        .again ((P.cut front (n + 1)).map fun cut => (0, cut :: rest))
      else .again (some (n + 1 - (P.contents front).length, rest))

/-- The rope without its first elements, or `none` if it is too short. -/
def removeFront : Nat → List β → Option (List β)
  | 0, rope => some rope
  | _ + 1, [] => none
  | n + 1, front :: rest =>
      if n + 1 < (P.contents front).length then
        (P.cut front (n + 1)).map fun cut => cut :: rest
      else removeFront (n + 1 - (P.contents front).length) rest

/-- A loop that has nothing left to remove, or has failed, is done. -/
theorem completes_done (state : Option (List β)) :
    Completes (removeRound P) (state.map fun rope => (0, rope))
      (state.map fun rope => (0, rope)) := by
  cases state with
  | none => exact .leave rfl
  | some rope => exact .leave rfl

/-- The loop ends, with the rope that `removeFront` computes. -/
theorem completes_removeFront (n : Nat) (rope : List β) :
    Completes (removeRound P) (some (n, rope))
      ((removeFront P n rope).map fun rest => (0, rest)) := by
  induction rope generalizing n with
  | nil =>
      cases n with
      | zero => exact .leave rfl
      | succ n => exact .leave rfl
  | cons front rest ih =>
      cases n with
      | zero => exact .leave rfl
      | succ n =>
          rw [removeFront]
          by_cases inside : n + 1 < (P.contents front).length
          · rw [if_pos inside]
            refine .again (if_pos inside) ?_
            have done := completes_done P ((P.cut front (n + 1)).map fun cut => cut :: rest)
            rwa [Option.map_map] at done ⊢
          · rw [if_neg inside]
            exact .again (if_neg inside) (ih _)

/-- A rope that is long enough loses its front and nothing else. -/
theorem removeFront_of_le (n : Nat) (rope : List β) (enough : n ≤ (flat P rope).length) :
    ∃ rest, removeFront P n rope = some rest ∧ flat P rest = (flat P rope).drop n := by
  induction rope generalizing n with
  | nil =>
      rw [flat_nil, List.length_nil, Nat.le_zero] at enough
      rw [enough]
      exact ⟨[], rfl, rfl⟩
  | cons front rest ih =>
      cases n with
      | zero => exact ⟨front :: rest, rfl, rfl⟩
      | succ n =>
          rw [flat_cons, List.length_append] at enough
          rw [removeFront, flat_cons, List.drop_append]
          by_cases inside : n + 1 < (P.contents front).length
          · obtain ⟨cut, cuts, left⟩ := P.contents_cut front (n + 1) (Nat.le_of_lt inside)
            refine ⟨cut :: rest, by rw [if_pos inside, cuts]; rfl, ?_⟩
            rw [flat_cons, left, Nat.sub_eq_zero_of_le (Nat.le_of_lt inside), List.drop_zero]
          · obtain ⟨left, removed, same⟩ := ih (n + 1 - (P.contents front).length) (by omega)
            refine ⟨left, by rw [if_neg inside, removed], ?_⟩
            rw [same, List.drop_of_length_le (Nat.not_lt.mp inside), List.nil_append]

/-- A rope that is too short is reported as such. -/
theorem removeFront_of_lt (n : Nat) (rope : List β) (short : (flat P rope).length < n) :
    removeFront P n rope = none := by
  induction rope generalizing n with
  | nil =>
      cases n with
      | zero => exact absurd short (Nat.not_lt_zero _)
      | succ n => rfl
  | cons front rest ih =>
      cases n with
      | zero => exact absurd short (Nat.not_lt_zero _)
      | succ n =>
          rw [flat_cons, List.length_append] at short
          have beyond : ¬ n + 1 < (P.contents front).length := by omega
          rw [removeFront, if_neg beyond]
          exact ih _ (by omega)

theorem removeFront_eq_none_iff (n : Nat) (rope : List β) :
    removeFront P n rope = none ↔ (flat P rope).length < n := by
  refine ⟨fun failed => ?_, removeFront_of_lt P n rope⟩
  by_contra enough
  obtain ⟨rest, removed, _⟩ := removeFront_of_le P n rope (Nat.not_lt.mp enough)
  rw [failed] at removed
  cases removed

/-- What a removal took and what it left make up the rope. -/
theorem flat_of_removeFront {n : Nat} {rope rest : List β}
    (removed : removeFront P n rope = some rest) :
    n ≤ (flat P rope).length ∧ flat P rest = (flat P rope).drop n := by
  have enough : n ≤ (flat P rope).length := by
    by_contra short
    rw [removeFront_of_lt P n rope (Nat.not_le.mp short)] at removed
    cases removed
  obtain ⟨other, again, same⟩ := removeFront_of_le P n rope enough
  rw [removed] at again
  cases again
  exact ⟨enough, same⟩

end Sponge.Rope
