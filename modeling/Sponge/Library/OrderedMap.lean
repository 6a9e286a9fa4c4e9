import Mathlib.Algebra.Order.Ring.Nat

/-!
# Ordered maps as sorted association lists

The part of an ordered map's interface that a traversal which inserts while it
iterates needs: insertion that keeps an existing key, and the successor of a
key in the current map.  Iterators of such a map stay valid under insertion, so
the element an iterator moves to is the first one with a larger key in the map
as it is at that moment.
-/

namespace Sponge.OrderedMap

variable {κ β : Type*} [LinearOrder κ]

/-- Insert a pair at its place; an existing key keeps its value. -/
def insert (key : κ) (value : β) : List (κ × β) → List (κ × β)
  | [] => [(key, value)]
  | (first, stored) :: rest =>
      if key < first then (key, value) :: (first, stored) :: rest
      else if key = first then (first, stored) :: rest
      else (first, stored) :: insert key value rest

/-- The first element whose key is larger than `key`. -/
def successor (key : κ) (entries : List (κ × β)) : Option (κ × β) :=
  entries.find? fun entry => key < entry.1

/-- Inserting a key that lies between two parts of a map puts it between them. -/
theorem insert_between (key : κ) (value : β) (before after : List (κ × β))
    (above : ∀ entry ∈ before, entry.1 < key) (below : ∀ entry ∈ after, key < entry.1) :
    insert key value (before ++ after) = before ++ (key, value) :: after := by
  induction before with
  | nil =>
      cases after with
      | nil => rfl
      | cons entry rest =>
          have smaller : key < entry.1 := below entry (List.mem_cons_self ..)
          simp [insert, smaller]
  | cons entry rest ih =>
      have larger : entry.1 < key := above entry (List.mem_cons_self ..)
      have inner := ih fun other hother => above other (List.mem_cons_of_mem _ hother)
      simp [insert, larger.not_gt, larger.ne', inner]

/-- The iterator standing on `key` moves to the element stored right after it. -/
theorem successor_of_split (key : κ) (value : β) (before after : List (κ × β))
    (above : ∀ entry ∈ before, entry.1 < key) (below : ∀ entry ∈ after, key < entry.1) :
    successor key (before ++ (key, value) :: after) = after.head? := by
  have skipped : before.find? (fun entry => decide (key < entry.1)) = none := by
    rw [List.find?_eq_none]
    intro entry hentry
    simpa using (above entry hentry).le
  simp only [successor, List.find?_append, skipped, Option.none_or, List.find?_cons,
    lt_irrefl, decide_false]
  cases after with
  | nil => rfl
  | cons entry rest =>
      simp [below entry (List.mem_cons_self ..)]

end Sponge.OrderedMap
