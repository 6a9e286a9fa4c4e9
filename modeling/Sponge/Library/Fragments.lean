import Mathlib.Data.Set.Card
import Sponge.Library.FirstWrite
import Sponge.Library.OrderedMap

/-!
# Separated fragments

A partial map with finitely many indices is stored as a list of fragments in
increasing order: a start index and the values from there on.  `Separated hi lo`
says that the fragments are non-empty, lie in `[lo, hi)` and do not overlap;
they may touch.  `lookup` is the map the fragments denote.
-/

namespace Sponge.Fragments

open FirstWrite

variable {α : Type*}

/-- The total number of stored values. -/
def size : List (Nat × List α) → Nat
  | [] => 0
  | (_, data) :: rest => data.length + size rest

/-- The partial map that a list of fragments denotes. -/
def lookup : List (Nat × List α) → Nat → Option α
  | [], _ => none
  | (start, data) :: rest, j => (valueAt data start j).or (lookup rest j)

/-- The fragments lie in `[lo, hi)`, in order, non-empty and without overlap. -/
def Separated (hi : Nat) : Nat → List (Nat × List α) → Prop
  | lo, [] => lo ≤ hi
  | lo, (start, data) :: rest => lo ≤ start ∧ data ≠ [] ∧ Separated hi (start + data.length) rest

/-- The end of the last fragment, or `lo` when there is none. -/
def stop : Nat → List (Nat × List α) → Nat
  | lo, [] => lo
  | _, (start, data) :: rest => stop (start + data.length) rest

/-- One fragment, or none when it would be empty. -/
def piece (start : Nat) (data : List α) : List (Nat × List α) :=
  if data = [] then [] else [(start, data)]

/-- The part of a substring between two indices, with the index where it starts. -/
def clip (data : List α) (index lower upper : Nat) : List α × Nat :=
  let first := min (index + data.length) (max index lower)
  let last := max first (min (index + data.length) upper)
  ((data.drop (first - index)).take (last - first), first)

/-! ## Clipping -/

theorem valueAt_clip (data : List α) (index lower upper j : Nat) :
    valueAt (clip data index lower upper).1 (clip data index lower upper).2 j =
      if lower ≤ j ∧ j < upper then valueAt data index j else none := by
  unfold valueAt clip
  dsimp only
  by_cases kept : lower ≤ j ∧ j < upper
  · rw [if_pos kept]
    by_cases inside : index ≤ j ∧ j < index + data.length
    · have started : min (index + data.length) (max index lower) ≤ j := by omega
      rw [if_pos started, if_pos inside.1, List.getElem?_take_of_lt (by omega),
        List.getElem?_drop]
      congr 1
      omega
    · have absent : (if index ≤ j then data[j - index]? else none) = none := by
        split
        · exact List.getElem?_eq_none (by omega)
        · rfl
      rw [absent]
      split
      · apply List.getElem?_eq_none
        simp only [List.length_take, List.length_drop]
        omega
      · rfl
  · rw [if_neg kept]
    split
    · apply List.getElem?_eq_none
      simp only [List.length_take, List.length_drop]
      omega
    · rfl

/-- A clip that is not empty starts at the later start and ends at the earlier end. -/
theorem clip_bounds {data : List α} {index lower upper : Nat}
    (nonempty : (clip data index lower upper).1 ≠ []) :
    (clip data index lower upper).2 = max index lower ∧
      (clip data index lower upper).2 + (clip data index lower upper).1.length =
        min (index + data.length) upper := by
  have positive := List.length_pos_iff.mpr nonempty
  simp only [clip, List.length_take, List.length_drop] at positive ⊢
  omega

/-! ## Concatenation -/

@[simp] theorem size_append (first second : List (Nat × List α)) :
    size (first ++ second) = size first + size second := by
  induction first with
  | nil => simp [size]
  | cons entry rest ih =>
      simp only [List.cons_append, size, ih]
      omega

theorem lookup_append (first second : List (Nat × List α)) (j : Nat) :
    lookup (first ++ second) j = (lookup first j).or (lookup second j) := by
  induction first with
  | nil => simp [lookup]
  | cons entry rest ih => simp only [List.cons_append, lookup, ih, Option.or_assoc]

theorem separated_append (first second : List (Nat × List α)) {lo mid hi : Nat}
    (left : Separated mid lo first) (right : Separated hi mid second) :
    Separated hi lo (first ++ second) := by
  induction first generalizing lo with
  | nil =>
      cases second with
      | nil => exact Nat.le_trans left right
      | cons entry rest => exact ⟨Nat.le_trans left right.1, right.2⟩
  | cons entry rest ih => exact ⟨left.1, left.2.1, ih left.2.2⟩

@[simp] theorem size_piece (start : Nat) (data : List α) :
    size (piece start data) = data.length := by
  unfold piece
  split
  · rename_i isEmpty
    simp [size, isEmpty]
  · simp [size]

@[simp] theorem lookup_piece (start : Nat) (data : List α) (j : Nat) :
    lookup (piece start data) j = valueAt data start j := by
  unfold piece
  split
  · rename_i isEmpty
    simp [lookup, isEmpty]
  · simp [lookup]

theorem separated_piece {lo start hi : Nat} {data : List α} (lower : lo ≤ start)
    (upper : start + data.length ≤ hi) : Separated hi lo (piece start data) := by
  unfold piece
  split
  · exact Nat.le_trans lower (Nat.le_trans (Nat.le_add_right _ _) upper)
  · rename_i nonempty
    exact ⟨lower, nonempty, upper⟩

/-! ## Bounds -/

section Separated

variable {lo hi : Nat} {fragments : List (Nat × List α)}

theorem Separated.le (separated : Separated hi lo fragments) : lo ≤ hi := by
  induction fragments generalizing lo with
  | nil => exact separated
  | cons entry rest ih =>
      have inner := ih separated.2.2
      have lower := separated.1
      omega

theorem Separated.size_le (separated : Separated hi lo fragments) : lo + size fragments ≤ hi := by
  induction fragments generalizing lo with
  | nil => exact separated
  | cons entry rest ih =>
      have inner := ih separated.2.2
      have lower := separated.1
      simp only [size]
      omega

theorem Separated.extend {upper : Nat} (separated : Separated hi lo fragments)
    (larger : hi ≤ upper) : Separated upper lo fragments := by
  induction fragments generalizing lo with
  | nil => exact Nat.le_trans separated larger
  | cons entry rest ih => exact ⟨separated.1, separated.2.1, ih separated.2.2⟩

/-- Every fragment is non-empty and lies between the bounds. -/
theorem Separated.mem (separated : Separated hi lo fragments) {entry : Nat × List α}
    (member : entry ∈ fragments) :
    lo ≤ entry.1 ∧ entry.2 ≠ [] ∧ entry.1 + entry.2.length ≤ hi := by
  induction fragments generalizing lo with
  | nil => cases member
  | cons first rest ih =>
      rcases List.mem_cons.mp member with rfl | later
      · exact ⟨separated.1, separated.2.1, separated.2.2.le⟩
      · obtain ⟨lower, nonempty, upper⟩ := ih separated.2.2 later
        have start := separated.1
        exact ⟨by omega, nonempty, upper⟩

theorem Separated.lookup_below (separated : Separated hi lo fragments) {j : Nat} (below : j < lo) :
    lookup fragments j = none := by
  induction fragments generalizing lo with
  | nil => rfl
  | cons entry rest ih =>
      have lower := separated.1
      have outside : valueAt entry.2 entry.1 j = none :=
        (valueAt_eq_none_iff _ _ _).mpr (Or.inl (by omega))
      rw [lookup, outside, Option.none_or]
      exact ih separated.2.2 (by omega)

theorem Separated.lookup_above (separated : Separated hi lo fragments) {j : Nat} (above : hi ≤ j) :
    lookup fragments j = none := by
  induction fragments generalizing lo with
  | nil => rfl
  | cons entry rest ih =>
      have upper := separated.2.2.le
      have outside : valueAt entry.2 entry.1 j = none :=
        (valueAt_eq_none_iff _ _ _).mpr (Or.inr (by omega))
      rw [lookup, outside, Option.none_or]
      exact ih separated.2.2

/-- Fragments that fill the whole interval hold every index of it. -/
theorem Separated.lookup_of_full (separated : Separated hi lo fragments)
    (full : hi ≤ lo + size fragments) {j : Nat} (lower : lo ≤ j) (upper : j < hi) :
    lookup fragments j ≠ none := by
  induction fragments generalizing lo with
  | nil =>
      simp only [size] at full
      omega
  | cons entry rest ih =>
      have start := separated.1
      have inner := separated.2.2.size_le
      simp only [size] at full
      intro missing
      rw [lookup, Option.or_eq_none_iff, valueAt_eq_none_iff] at missing
      exact ih separated.2.2 (by omega) (by omega) missing.2

theorem Separated.le_stop (separated : Separated hi lo fragments) :
    lo ≤ stop lo fragments ∧ stop lo fragments ≤ hi := by
  induction fragments generalizing lo with
  | nil => exact ⟨Nat.le_refl _, separated⟩
  | cons entry rest ih =>
      have inner := ih separated.2.2
      have start := separated.1
      exact ⟨by simp only [stop]; omega, inner.2⟩

/-- The upper bound can be tightened to the end of the last fragment. -/
theorem Separated.tighten (separated : Separated hi lo fragments) :
    Separated (stop lo fragments) lo fragments := by
  induction fragments generalizing lo with
  | nil => exact Nat.le_refl _
  | cons entry rest ih => exact ⟨separated.1, separated.2.1, ih separated.2.2⟩

/-- The upper bound can be tightened to any bound on the held indices. -/
theorem Separated.restrict {bound : Nat} (separated : Separated hi lo fragments)
    (lower : lo ≤ bound) (held : ∀ j, lookup fragments j ≠ none → j < bound) :
    Separated bound lo fragments := by
  induction fragments generalizing lo with
  | nil => exact lower
  | cons entry rest ih =>
      have width : 0 < entry.2.length := List.length_pos_iff.mpr separated.2.1
      have last : entry.1 + entry.2.length - 1 < bound := by
        apply held
        rw [lookup, ne_eq, Option.or_eq_none_iff, valueAt_eq_none_iff]
        omega
      refine ⟨separated.1, separated.2.1, ih separated.2.2 (by omega) fun j present => held j ?_⟩
      rw [lookup, ne_eq, Option.or_eq_none_iff]
      exact fun missing => present missing.2

/-- Each fragment ends before the next ones start. -/
theorem Separated.pairwise (separated : Separated hi lo fragments) :
    fragments.Pairwise fun earlier later => earlier.1 + earlier.2.length ≤ later.1 := by
  induction fragments generalizing lo with
  | nil => exact .nil
  | cons entry rest ih =>
      exact .cons (fun later member => (separated.2.2.mem member).1) (ih separated.2.2)

/-- With a gap at the lower bound every fragment starts past it. -/
theorem Separated.lt_key (separated : Separated hi lo fragments)
    (gap : lookup fragments lo = none) {entry : Nat × List α} (member : entry ∈ fragments) :
    lo < entry.1 := by
  induction fragments with
  | nil => cases member
  | cons first rest ih =>
      have width : 0 < first.2.length := List.length_pos_iff.mpr separated.2.1
      have start := separated.1
      rw [lookup, Option.or_eq_none_iff, valueAt_eq_none_iff] at gap
      rcases List.mem_cons.mp member with rfl | later
      · omega
      · have after := (separated.2.2.mem later).1
        omega

end Separated

theorem stop_append (lo : Nat) (first second : List (Nat × List α)) :
    stop lo (first ++ second) = stop (stop lo first) second := by
  induction first generalizing lo with
  | nil => rfl
  | cons entry rest ih => exact ih _

/-- The last element of an ordered map of fragments ends where the fragments end. -/
theorem stop_eq_of_getLast? {fragments : List (Nat × List α)} {entry : Nat × List α} (lo : Nat)
    (last : fragments.getLast? = some entry) :
    stop lo fragments = entry.1 + entry.2.length := by
  obtain ⟨front, rfl⟩ := List.getLast?_eq_some_iff.mp last
  rw [stop_append]
  rfl

section Gap

variable {lo start hi : Nat} {data : List α} {before after : List (Nat × List α)}

/-- Fragments that end by an index start before it. -/
theorem Separated.key_lt (separated : Separated hi lo before) :
    ∀ entry ∈ before, entry.1 < hi := by
  intro entry member
  obtain ⟨_, occupied, upper⟩ := separated.mem member
  have width : 0 < entry.2.length := List.length_pos_iff.mpr occupied
  omega

/-- Inserting a piece into a gap of an ordered map of fragments puts it into that gap. -/
theorem insert_gap (left : Separated start lo before)
    (right : Separated hi (start + data.length) after) (nonempty : data ≠ []) :
    OrderedMap.insert start data (before ++ after) = before ++ piece start data ++ after := by
  have positive : 0 < data.length := List.length_pos_iff.mpr nonempty
  rw [OrderedMap.insert_between _ _ _ _ left.key_lt]
  · simp [piece, nonempty]
  · intro entry hentry
    obtain ⟨lower, _, _⟩ := right.mem hentry
    omega

/-- No fragment starts where a gap does. -/
theorem key_gap (left : Separated start lo before)
    (right : Separated hi (start + data.length) after) (nonempty : data ≠ []) :
    start ∉ (before ++ after).map Prod.fst := by
  have positive : 0 < data.length := List.length_pos_iff.mpr nonempty
  intro present
  obtain ⟨entry, member, key⟩ := List.mem_map.mp present
  rcases List.mem_append.mp member with earlier | later
  · exact absurd key (Nat.ne_of_lt (left.key_lt entry earlier))
  · obtain ⟨lower, _, _⟩ := right.mem later
    omega

end Gap

/-! ## Counting -/

theorem Separated.finite_held {lo hi : Nat} {fragments : List (Nat × List α)}
    (separated : Separated hi lo fragments) : {j | lookup fragments j ≠ none}.Finite := by
  apply (Set.finite_Iio hi).subset
  intro j held
  by_contra above
  exact held (separated.lookup_above (Nat.not_lt.mp above))

/-- Separated fragments hold exactly as many indices as they store values. -/
theorem ncard_held {lo hi : Nat} {fragments : List (Nat × List α)}
    (separated : Separated hi lo fragments) :
    {j | lookup fragments j ≠ none}.ncard = size fragments := by
  induction fragments generalizing lo with
  | nil => simp [lookup, size]
  | cons entry rest ih =>
      have split : {j | lookup (entry :: rest) j ≠ none} =
          Set.Ico entry.1 (entry.1 + entry.2.length) ∪ {j | lookup rest j ≠ none} := by
        ext j
        simp only [lookup, ne_eq, Option.or_eq_none_iff, valueAt_eq_none_iff, Set.mem_ofPred_eq,
          Set.mem_union, Set.mem_Ico]
        constructor
        · intro held
          by_cases inside : entry.1 ≤ j ∧ j < entry.1 + entry.2.length
          · exact Or.inl inside
          · exact Or.inr fun missing => held ⟨by omega, missing⟩
        · rintro (inside | later) ⟨outside, missing⟩
          · omega
          · exact later missing
      have disjoint : Disjoint (Set.Ico entry.1 (entry.1 + entry.2.length))
          {j | lookup rest j ≠ none} := by
        rw [Set.disjoint_left]
        intro j inside held
        exact held (separated.2.2.lookup_below inside.2)
      rw [split, Set.ncard_union_eq disjoint (Set.finite_Ico _ _) separated.2.2.finite_held,
        ih separated.2.2, size]
      simp [Set.ncard_eq_toFinset_card']

/-- Fragments that keep what others hold and store no more hold the same. -/
theorem Separated.lookup_eq_of_size_le {lo hi lo' hi' : Nat}
    {fragments fragments' : List (Nat × List α)} (separated : Separated hi lo fragments)
    (separated' : Separated hi' lo' fragments')
    (keeps : ∀ j, lookup fragments j ≠ none → lookup fragments' j = lookup fragments j)
    (sizes : size fragments' ≤ size fragments) : lookup fragments' = lookup fragments := by
  have within : {j | lookup fragments j ≠ none} ⊆ {j | lookup fragments' j ≠ none} := by
    intro j held
    change lookup fragments' j ≠ none
    rw [keeps j held]
    exact held
  have equal := Set.eq_of_subset_of_ncard_le within
    (by rw [ncard_held separated, ncard_held separated']; exact sizes) separated'.finite_held
  funext j
  by_cases held : lookup fragments j = none
  · have absent : j ∉ {j | lookup fragments' j ≠ none} := by
      rw [← equal]
      exact fun present => present held
    rw [held]
    exact not_not.mp absent
  · exact keeps j held

end Sponge.Fragments
