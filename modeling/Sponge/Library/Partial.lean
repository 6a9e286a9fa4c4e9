import Mathlib.Logic.Basic

/-!
# Computations that fail more often

`x` refines `y` when it either fails or returns what `y` returns.  The rules
follow the shape of a program: a test and a sequence of computations refine the
same test and sequence over the refined parts.
-/

namespace Sponge

universe u

variable {α β : Type u}

/-- `x` fails or returns what `y` returns. -/
structure FailsOrEquals (x y : Option α) : Prop where
  returns : ∀ value, x = some value → y = some value

namespace FailsOrEquals

theorem refl (x : Option α) : FailsOrEquals x x := ⟨fun _ returned => returned⟩

theorem ite {c : Prop} [Decidable c] {x y x' y' : Option α} (yes : FailsOrEquals x x')
    (no : FailsOrEquals y y') :
    FailsOrEquals (if c then x else y) (if c then x' else y') := by
  split
  · exact yes
  · exact no

theorem bind {x x' : Option α} {f f' : α → Option β} (first : FailsOrEquals x x')
    (rest : ∀ value, FailsOrEquals (f value) (f' value)) :
    FailsOrEquals (x >>= f) (x' >>= f') := by
  refine ⟨fun value returned => ?_⟩
  obtain ⟨middle, one, two⟩ := Option.bind_eq_some_iff.mp returned
  exact Option.bind_eq_some_iff.mpr ⟨middle, first.returns _ one, (rest _).returns _ two⟩

/-- A test that passes can be left out. -/
theorem of_some {x : Option α} {result : α} {f : α → Option β} {y : Option β}
    (only : FailsOrEquals x (some result)) (rest : FailsOrEquals (f result) y) :
    FailsOrEquals (x >>= f) y := by
  refine ⟨fun value returned => ?_⟩
  obtain ⟨middle, one, two⟩ := Option.bind_eq_some_iff.mp returned
  cases only.returns _ one
  exact rest.returns _ two

end FailsOrEquals

end Sponge
