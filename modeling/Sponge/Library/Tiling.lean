import Mathlib.Order.Nat

/-!
# Items laid end to end

`layout` gives each item of a list the position it has when the items are laid
end to end.  A queue that drops, from the front, the items that stop at or
before an acknowledged position keeps exactly those that stop after it, and what
it keeps is again laid end to end.
-/

namespace Sponge.Tiling

variable {α : Type*} (len : α → Nat)

/-- The total length of the items. -/
def span : List α → Nat
  | [] => 0
  | item :: rest => len item + span rest

/-- The items with their positions when laid end to end from `position` on. -/
def layout : Nat → List α → List (Nat × α)
  | _, [] => []
  | position, item :: rest => (position, item) :: layout (position + len item) rest

/-- The first position after a placed item. -/
def stop (placed : Nat × α) : Nat := placed.1 + len placed.2

/-- The placed items that stop after `acked`. -/
def pending (acked : Nat) (placed : List (Nat × α)) : List (Nat × α) :=
  placed.filter fun item => decide (acked < stop len item)

@[simp] theorem span_append (first second : List α) :
    span len (first ++ second) = span len first + span len second := by
  induction first with
  | nil => simp [span]
  | cons item rest ih => simp [span, ih, Nat.add_assoc]

@[simp] theorem layout_append (position : Nat) (first second : List α) :
    layout len position (first ++ second) =
      layout len position first ++ layout len (position + span len first) second := by
  induction first generalizing position with
  | nil => simp [layout, span]
  | cons item rest ih => simp [layout, span, ih, Nat.add_assoc]

variable {len} {position acked : Nat} {items : List α} {placed : Nat × α}

theorem bounds_of_mem_layout (member : placed ∈ layout len position items) :
    position ≤ placed.1 ∧ stop len placed ≤ position + span len items ∧ placed.2 ∈ items := by
  induction items generalizing position with
  | nil => cases member
  | cons item rest ih =>
      rcases List.mem_cons.mp member with rfl | later
      · exact ⟨Nat.le_refl _, by simp only [stop, span]; omega, List.mem_cons_self⟩
      · obtain ⟨lower, upper, inRest⟩ := ih later
        exact ⟨by omega, by simp only [span]; omega, List.mem_cons_of_mem _ inRest⟩

theorem layout_of_mem (len : α → Nat) {item : α} (member : item ∈ items) (position : Nat) :
    ∃ start, (start, item) ∈ layout len position items := by
  induction items generalizing position with
  | nil => cases member
  | cons head rest ih =>
      rcases List.mem_cons.mp member with rfl | later
      · exact ⟨position, List.mem_cons_self⟩
      · obtain ⟨start, inRest⟩ := ih later (position + len head)
        exact ⟨start, List.mem_cons_of_mem _ inRest⟩

/-- The items leave no gap. -/
theorem exists_covering {point : Nat} (lower : position ≤ point)
    (upper : point < position + span len items) :
    ∃ placed ∈ layout len position items, placed.1 ≤ point ∧ point < stop len placed := by
  induction items generalizing position with
  | nil => exact absurd upper (Nat.not_lt.mpr lower)
  | cons item rest ih =>
      rw [span] at upper
      by_cases inHead : point < position + len item
      · exact ⟨_, List.mem_cons_self, lower, inHead⟩
      · obtain ⟨placed, inRest, covers⟩ := ih (Nat.not_lt.mp inHead) (by omega)
        exact ⟨placed, List.mem_cons_of_mem _ inRest, covers⟩

/-- The last item stops last. -/
theorem forall_stop_le_iff {bound : Nat} :
    (∀ placed ∈ layout len position items, stop len placed ≤ bound) ↔
      items = [] ∨ position + span len items ≤ bound := by
  induction items generalizing position with
  | nil => simp [layout]
  | cons item rest ih =>
      rw [layout, List.forall_mem_cons, ih, span, stop]
      constructor
      · rintro ⟨first, rfl | later⟩
        · exact Or.inr first
        · exact Or.inr (by omega)
      · rintro (absurd | whole)
        · cases absurd
        · exact ⟨Nat.le_trans (Nat.add_le_add_left (Nat.le_add_right _ _) _) whole,
            Or.inr (by omega)⟩

theorem span_eq_zero_iff (nonempty : ∀ item ∈ items, 0 < len item) :
    span len items = 0 ↔ items = [] := by
  cases items with
  | nil => simp [span]
  | cons item rest =>
      have positive := nonempty item List.mem_cons_self
      simp only [span, reduceCtorEq, iff_false]
      omega

/-- Two items that stop at the same position are the same one. -/
theorem eq_of_stop_eq (nonempty : ∀ item ∈ items, 0 < len item) {other : Nat × α}
    (member : placed ∈ layout len position items) (member' : other ∈ layout len position items)
    (same : stop len placed = stop len other) : placed = other := by
  induction items generalizing position with
  | nil => cases member
  | cons item rest ih =>
      -- whatever lies in the rest stops after the head does
      have later : ∀ entry ∈ layout len (position + len item) rest,
          position + len item < stop len entry := by
        intro entry inRest
        obtain ⟨lower, _, inItems⟩ := bounds_of_mem_layout inRest
        have positive := nonempty _ (List.mem_cons_of_mem _ inItems)
        simp only [stop]
        omega
      rcases List.mem_cons.mp member with rfl | inRest <;>
        rcases List.mem_cons.mp member' with rfl | inRest'
      · rfl
      · have beyond := later _ inRest'
        simp only [stop] at same beyond
        omega
      · have beyond := later _ inRest
        simp only [stop] at same beyond
        omega
      · exact ih (fun entry inItems => nonempty entry (List.mem_cons_of_mem _ inItems)) inRest
          inRest'

/-- If the first item is pending, all of them are. -/
theorem pending_cons_of_lt {item : α} {rest : List α} (after : acked < position + len item) :
    pending len acked (layout len position (item :: rest)) =
      layout len position (item :: rest) := by
  apply List.filter_eq_self.mpr
  intro entry member
  rw [decide_eq_true_iff]
  rcases List.mem_cons.mp member with rfl | later
  · exact after
  · obtain ⟨lower, _, _⟩ := bounds_of_mem_layout later
    simp only [stop]
    omega

theorem pending_cons_of_le {item : α} (rest : List α) (done : position + len item ≤ acked) :
    pending len acked (layout len position (item :: rest)) =
      pending len acked (layout len (position + len item) rest) := by
  rw [layout, pending, List.filter_cons_of_neg]
  · rfl
  · rw [decide_eq_true_iff]
    exact Nat.not_lt.mpr done

/-- What is pending is the layout of the last items, and the others stop at or before `acked`. -/
theorem exists_pending (nonempty : ∀ item ∈ items, 0 < len item) (position acked : Nat) :
    ∃ done rest, items = done ++ rest ∧
      pending len acked (layout len position items) = layout len (position + span len done) rest ∧
      (done = [] ∨ position + span len done ≤ acked) ∧
      ∀ item ∈ rest.head?, acked < position + span len done + len item := by
  induction items generalizing position with
  | nil => exact ⟨[], [], rfl, rfl, Or.inl rfl, fun _ absurd => by cases absurd⟩
  | cons item rest ih =>
      have nonemptyRest := fun entry inItems => nonempty entry (List.mem_cons_of_mem item inItems)
      by_cases after : acked < position + len item
      · exact ⟨[], item :: rest, rfl, pending_cons_of_lt after, Or.inl rfl,
          by simpa [span] using after⟩
      · obtain ⟨done, remaining, split, kept, below, front⟩ :=
          ih nonemptyRest (position + len item)
        refine ⟨item :: done, remaining, by rw [split, List.cons_append], ?_, Or.inr ?_, ?_⟩
        · rw [pending_cons_of_le rest (by omega), kept, span, Nat.add_assoc]
        · simp only [span]
          rcases below with rfl | bounded
          · simp only [span]
            omega
          · omega
        · simpa only [span, Nat.add_assoc] using front

/-- Nothing is pending exactly when everything has been acknowledged. -/
theorem pending_eq_nil_iff (position : Nat) (nonempty : ∀ item ∈ items, 0 < len item)
    (bounded : acked ≤ position + span len items) (started : position ≤ acked) :
    pending len acked (layout len position items) = [] ↔ acked = position + span len items := by
  obtain ⟨done, rest, rfl, kept, below, front⟩ := exists_pending nonempty position acked
  rw [kept]
  cases rest with
  | nil =>
      simp only [layout, List.append_nil, true_iff] at bounded ⊢
      rcases below with rfl | reached
      · simp only [span] at bounded ⊢
        omega
      · omega
  | cons item rest =>
      have after := front item (by simp)
      simp only [layout, span_append, span, reduceCtorEq, false_iff]
      omega

/-- Acknowledging further only drops items. -/
theorem pending_pending {later : Nat} (advanced : acked ≤ later) (entries : List (Nat × α)) :
    pending len later (pending len acked entries) = pending len later entries := by
  rw [pending, pending, List.filter_filter]
  congr 1
  funext entry
  rw [← Bool.decide_and]
  congr 1
  exact propext ⟨fun both => both.1, fun after => ⟨after, by omega⟩⟩

theorem pending_append (acked : Nat) (first second : List (Nat × α)) :
    pending len acked (first ++ second) = pending len acked first ++ pending len acked second :=
  List.filter_append ..

/-- Items laid out from the acknowledged position on are all pending. -/
theorem pending_of_le (nonempty : ∀ item ∈ items, 0 < len item) (reached : acked ≤ position) :
    pending len acked (layout len position items) = layout len position items := by
  apply List.filter_eq_self.mpr
  intro entry member
  obtain ⟨lower, _, inItems⟩ := bounds_of_mem_layout member
  have positive := nonempty _ inItems
  rw [decide_eq_true_iff, stop]
  omega

end Sponge.Tiling
