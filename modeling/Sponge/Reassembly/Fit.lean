import Sponge.Reassembly.Checked

/-!
# What the reassembler's loops compute

`fit_in_reassembler` fills the gaps between stored fragments while it iterates
over them.  The loop invariant splits the map at the iterator: every index
below `cursor` is settled, and the fragments from the iterator on are untouched.
Free space never cuts a piece short, because fragments and pieces together are
separated inside the window and so cannot hold more than the window is wide; and
no insertion meets its own key, because pieces only go into gaps.
-/

namespace Sponge.StreamReassembler

open MachineInt Fragments FirstWrite

/-- Replace the stored fragments and the count of free bytes. -/
def store (r : StreamReassembler) (fragments : List (Nat × Bytes)) (free : Nat) :
    StreamReassembler :=
  { r with reassembler := fragments, numBytesFree := free }

/-- The fragments lie in the window `[lo, hi)` and the free count is what they leave. -/
structure Windowed (lo hi : Nat) (r : StreamReassembler) : Prop where
  separated : Separated hi lo r.reassembler
  free : lo + size r.reassembler + r.numBytesFree = hi

theorem resizeSegment_eq_clip {data : Bytes} {index : Nat} (lower upper : Nat)
    (bound : index + data.length < 2 ^ 64) :
    resizeSegment data index lower upper = some (clip data index lower upper) := by
  have dataEnd : add64 index data.length = index + data.length := add64_of_lt bound
  simp only [resizeSegment, dataEnd, clip]
  rw [sub64_of_le (by omega) (by omega), sub64_of_le (by omega) (by omega)]
  have position : min (index + data.length) (max index lower) - index ≤ data.length := by omega
  simp [substr, position]

/-- A substring that runs past the last 64-bit index leaves nothing of itself. -/
theorem resizeSegment_of_overflow {data : Bytes} {index : Nat} (lower upper : Nat)
    (small : index < 2 ^ 64) (short : data.length < 2 ^ 64)
    (overflow : 2 ^ 64 ≤ index + data.length) :
    ∃ start, resizeSegment data index lower upper = some ([], start) := by
  generalize hend : add64 index data.length = dataEnd
  have wrapped : dataEnd + 2 ^ 64 = index + data.length := by
    rw [← hend, add64]
    omega
  have first : min dataEnd (max index lower) = dataEnd := by omega
  have last : max dataEnd (min dataEnd upper) = dataEnd := by omega
  have position : sub64 dataEnd index = data.length := by
    unfold sub64
    omega
  refine ⟨dataEnd, ?_⟩
  simp only [resizeSegment, hend, first, last, position, substr, Nat.le_refl, if_true,
    List.drop_length, List.take_nil]
  rfl

/-- Inserting a piece into a gap meets no key and stores all of it. -/
theorem insertChecked_gap {lo hi : Nat} {r : StreamReassembler} (data : Bytes) (start : Nat)
    (before after : List (Nat × Bytes)) (windowed : Windowed lo hi r)
    (split : r.reassembler = before ++ after)
    (gap : data ≠ [] → Separated start lo before ∧ Separated hi (start + data.length) after) :
    r.insertChecked data start =
        some (r.store (before ++ piece start data ++ after) (r.numBytesFree - data.length)) ∧
      Windowed lo hi (r.store (before ++ piece start data ++ after)
        (r.numBytesFree - data.length)) := by
  by_cases isEmpty : data = []
  · have same :
        r.store (before ++ piece start data ++ after) (r.numBytesFree - data.length) = r := by
      simp [store, piece, isEmpty, ← split]
    rw [same]
    exact ⟨by simp [insertChecked, insertInReassembler, isEmpty], windowed⟩
  · obtain ⟨left, right⟩ := gap isEmpty
    have separated : Separated hi lo (before ++ piece start data ++ after) :=
      separated_append _ _ (separated_append _ _ left
        (separated_piece (Nat.le_refl _) (Nat.le_refl _))) right
    have bounded := separated.size_le
    have free := windowed.free
    rw [split] at free
    simp only [size_append, size_piece] at bounded free
    have whole : min r.numBytesFree data.length = data.length := by omega
    refine ⟨?_, separated, ?_⟩
    · rw [insertChecked, if_neg fun check => key_gap left right isEmpty (split ▸ check.2)]
      simp only [insertInReassembler, List.length_eq_zero_iff, isEmpty, if_false, whole,
        List.take_length, split, insert_gap left right isEmpty]
      rfl
    · simp only [store, size_append, size_piece]
      omega

/-- A map without free space takes no offer. -/
theorem Windowed.assign_of_full {r : StreamReassembler} {lo hi lower upper : Nat}
    (windowed : Windowed lo hi r) (data : Bytes) (index : Nat) (full : r.numBytesFree = 0)
    (inside : lo ≤ lower) (below : upper ≤ hi) :
    assign (lookup r.reassembler) lower upper data index = lookup r.reassembler := by
  refine assign_of_held _ _ ?_
  intro j above before
  have free := windowed.free
  exact windowed.separated.lookup_of_full (by omega) (by omega) (by omega)

/-- From a fragment the iterator moves to the first of those behind it. -/
theorem successor_of_separated {key cursor lo hi : Nat} {fragment : Bytes}
    {front rest : List (Nat × Bytes)} (settled : Separated key lo front)
    (pending : Separated hi cursor ((key, fragment) :: rest)) :
    OrderedMap.successor key (front ++ (key, fragment) :: rest) = rest.head? := by
  apply OrderedMap.successor_of_split
  · exact settled.key_lt
  · intro entry hentry
    obtain ⟨startsAfter, _, _⟩ := pending.2.2.mem hentry
    have width : 0 < fragment.length := List.length_pos_iff.mpr pending.2.1
    omega

section Loop

variable (data : Bytes) (index : Nat) {lo hi : Nat}

/-- Filling the slot before the fragment the iterator stands on. -/
theorem fillSlot {cursor key : Nat} {fragment : Bytes} {before rest : List (Nat × Bytes)}
    {r : StreamReassembler} (split : r.reassembler = before ++ (key, fragment) :: rest)
    (settled : Separated cursor lo before) (pending : Separated hi cursor ((key, fragment) :: rest))
    (windowed : Windowed lo hi r) :
    ∃ slot free,
      r.insertChecked (clip data index cursor key).1 (clip data index cursor key).2 =
          some (r.store (before ++ slot ++ (key, fragment) :: rest) free) ∧
        Windowed lo hi (r.store (before ++ slot ++ (key, fragment) :: rest) free) ∧
        Separated key cursor slot ∧
        lookup (before ++ slot ++ (key, fragment) :: rest) =
          assign (lookup r.reassembler) cursor (key + fragment.length) data index := by
  have keyLower := pending.1
  have inGap : (clip data index cursor key).1 ≠ [] →
      cursor ≤ (clip data index cursor key).2 ∧
        (clip data index cursor key).2 + (clip data index cursor key).1.length ≤ key := by
    intro nonempty
    obtain ⟨start, stop⟩ := clip_bounds nonempty
    omega
  obtain ⟨inserted, windowed'⟩ :=
    insertChecked_gap _ _ before _ windowed split fun nonempty =>
    ⟨settled.extend (inGap nonempty).1, (inGap nonempty).2, pending.2⟩
  have slotAt := valueAt_clip data index cursor key
  refine ⟨_, _, inserted, windowed', ?_, ?_⟩
  · by_cases isEmpty : (clip data index cursor key).1 = []
    · simp only [piece, isEmpty, if_true]
      exact keyLower
    · exact separated_piece (inGap isEmpty).1 (inGap isEmpty).2
  · funext j
    simp only [split, lookup_append, lookup_piece, slotAt, lookup, assign]
    by_cases early : j < key
    · -- the fragment and everything after it are past this index
      have afterFragment := pending.2.2.lookup_below (show j < key + fragment.length by omega)
      have notFragment : valueAt fragment key j = none :=
        (valueAt_eq_none_iff _ _ _).mpr (Or.inl early)
      have sameWindow : (cursor ≤ j ∧ j < key) ↔ (cursor ≤ j ∧ j < key + fragment.length) := by
        omega
      simp only [afterFragment, notFragment, Option.or_none, sameWindow]
    · have notSlot : ¬ (cursor ≤ j ∧ j < key) := by omega
      rw [if_neg notSlot, Option.or_none]
      by_cases inFragment : j < key + fragment.length
      · -- the fragment itself holds this index already
        have present : valueAt fragment key j ≠ none := by
          rw [ne_eq, valueAt_eq_none_iff]
          omega
        obtain ⟨value, hvalue⟩ := Option.ne_none_iff_exists'.mp present
        rw [hvalue, Option.some_or, Option.or_assoc, Option.some_or]
      · rw [if_neg (by omega), Option.or_none]

/-- The range-for settles every index up to the end of the last fragment. -/
theorem fitLoopChecked_spec (upper : index + data.length ≤ hi) (machine : hi < 2 ^ 64)
    (rest : List (Nat × Bytes)) :
    ∀ (before : List (Nat × Bytes)) (cursor fuel : Nat) (r : StreamReassembler),
      rest.length ≤ fuel → r.reassembler = before ++ rest →
      Separated cursor lo before → Separated hi cursor rest → Windowed lo hi r →
      ∃ fragments free,
        fitLoopChecked data index (index + data.length) fuel rest.head? cursor r =
            some (r.store fragments free) ∧
          Windowed lo hi (r.store fragments free) ∧
          fragments.getLast? = r.reassembler.getLast? ∧
          lookup fragments =
            assign (lookup r.reassembler) cursor (stop cursor rest) data index := by
  -- induction on the fragments the iterator has still to visit
  induction rest with
  | nil =>
      intro before cursor fuel r _ _ _ _ windowed
      refine ⟨r.reassembler, r.numBytesFree, ?_, windowed, rfl, ?_⟩
      · cases fuel <;> rfl
      · refine (assign_of_no_offer _ ?_).symm
        intro j lower upper
        exact absurd lower (Nat.not_le.mpr upper)
  | cons entry rest ih =>
      obtain ⟨key, fragment⟩ := entry
      intro before cursor fuel r enough split settled pending windowed
      obtain ⟨fuel, rfl⟩ : ∃ n, fuel = n + 1 := ⟨fuel - 1, by simp at enough; omega⟩
      simp only [List.length_cons, Nat.add_le_add_iff_right] at enough
      simp only [List.head?_cons, fitLoopChecked]
      have settledLe := settled.le
      have keyLower := pending.1
      by_cases full : r.numBytesFree = 0
      · -- no free byte: the fragments already hold the whole window
        rw [if_pos full]
        exact ⟨r.reassembler, r.numBytesFree, rfl, windowed, rfl,
          (windowed.assign_of_full data index full settledLe pending.le_stop.2).symm⟩
      · have keyLe := pending.2.2.le
        have keyEnd : add64 key fragment.length = key + fragment.length := add64_of_lt (by omega)
        obtain ⟨slot, free, inserted, windowed', inSlot, round⟩ :=
          fillSlot data index split settled pending windowed
        rw [if_neg full, resizeSegment_eq_clip _ _ (by omega)]
        simp only [Option.bind_eq_bind, Option.bind_some, keyEnd, inserted]
        by_cases finished : key + fragment.length ≥ index + data.length
        · -- the data ends before the next fragment: later indices get no offer
          rw [if_pos finished]
          refine ⟨_, _, rfl, windowed', ?_, ?_⟩
          · simp [split, List.getLast?_append, List.getLast?_cons]
          · rw [round, stop, ← assign_assign (lookup r.reassembler) data index
              (show cursor ≤ key + fragment.length by omega) pending.2.2.le_stop.1]
            refine (assign_of_no_offer _ ?_).symm
            intro j lower _
            exact (valueAt_eq_none_iff _ _ _).mpr (Or.inr (by omega))
        · rw [if_neg finished]
          have inFront := separated_append _ _ settled inSlot
          have settled' : Separated (key + fragment.length) lo
              (before ++ slot ++ [(key, fragment)]) :=
            separated_append _ _ inFront ⟨Nat.le_refl _, pending.2.1, Nat.le_refl _⟩
          have visited : before ++ slot ++ (key, fragment) :: rest =
              before ++ slot ++ [(key, fragment)] ++ rest := by simp
          have moves := successor_of_separated inFront pending
          obtain ⟨fragments, free', ran, windowed'', last, result⟩ :=
            ih (before ++ slot ++ [(key, fragment)]) (key + fragment.length) fuel
              (r.store (before ++ slot ++ (key, fragment) :: rest) free) enough visited settled'
              pending.2.2 windowed'
          refine ⟨fragments, free', ?_, windowed'', ?_, ?_⟩
          · simp only [store, moves] at ran ⊢
            exact ran
          · rw [last]
            simp [store, split, List.getLast?_append, List.getLast?_cons]
          · rw [result]
            simp only [store, round, stop]
            exact assign_assign _ _ _ (by omega) pending.2.2.le_stop.1

end Loop

section Fit

variable {r : StreamReassembler} {lo hi : Nat} (data : Bytes) (index : Nat)

/-- What lies behind the last fragment is stored behind it. -/
theorem fitTailChecked_spec (nonempty : r.reassembler ≠ [])
    (upper : index + data.length ≤ hi) (machine : hi < 2 ^ 64) (windowed : Windowed lo hi r) :
    ∃ fragments free,
      r.fitTailChecked data index = some (r.store fragments free) ∧
        Windowed lo hi (r.store fragments free) ∧
        lookup fragments =
          assign (lookup r.reassembler) (stop lo r.reassembler) hi data index := by
  have stopBounds := windowed.separated.le_stop
  unfold fitTailChecked
  by_cases full : r.numBytesFree = 0
  · rw [if_pos full]
    exact ⟨r.reassembler, r.numBytesFree, rfl, windowed,
      (windowed.assign_of_full data index full stopBounds.1 (Nat.le_refl _)).symm⟩
  · obtain ⟨last, isLast⟩ : ∃ last, r.reassembler.getLast? = some last :=
      ⟨_, List.getLast?_eq_some_getLast nonempty⟩
    have lastEnd := stop_eq_of_getLast? lo isLast
    obtain ⟨lastKey, lastFragment⟩ := last
    dsimp only at lastEnd
    rw [if_neg full, isLast]
    dsimp only
    rw [add64_of_lt (by omega), add64_of_lt (by omega), resizeSegment_eq_clip _ _ (by omega),
      ← lastEnd]
    have tailAt := valueAt_clip data index (stop lo r.reassembler) (index + data.length)
    have within := @clip_bounds _ data index (stop lo r.reassembler) (index + data.length)
    generalize clip data index (stop lo r.reassembler) (index + data.length) = tail
      at tailAt within
    obtain ⟨inserted, windowed'⟩ := insertChecked_gap tail.1 tail.2 r.reassembler []
      windowed (by simp) fun occupied => by
        obtain ⟨starts, ends⟩ := within occupied
        exact ⟨windowed.separated.tighten.extend (by omega), by simp only [Separated]; omega⟩
    refine ⟨_, _, inserted, windowed', ?_⟩
    funext j
    simp only [List.append_nil, lookup_append, lookup_piece, tailAt, assign]
    congr 1
    by_cases offered : j < index + data.length
    · have same : (stop lo r.reassembler ≤ j ∧ j < index + data.length) ↔
          (stop lo r.reassembler ≤ j ∧ j < hi) := by omega
      simp only [same]
    · have absent : valueAt data index j = none :=
        (valueAt_eq_none_iff _ _ _).mpr (Or.inr (by omega))
      simp only [absent, ite_self]

/-- After the first clip the offers outside the window are gone. -/
theorem assign_clip (held : Nat → Option UInt8) :
    assign held lo hi data index =
      assign held lo hi (clip data index lo hi).1 (clip data index lo hi).2 := by
  funext j
  simp only [assign, valueAt_clip]
  split <;> rfl

/-- A clipped substring is stored as it is when no fragment is. -/
theorem fitEmpty_spec (nothing : r.reassembler = []) (lower : lo ≤ index)
    (upper : index + data.length ≤ hi) (windowed : Windowed lo hi r) :
    ∃ fragments free,
      r.insertChecked data index = some (r.store fragments free) ∧
        Windowed lo hi (r.store fragments free) ∧
        lookup fragments = assign (lookup r.reassembler) lo hi data index := by
  obtain ⟨inserted, windowed'⟩ := insertChecked_gap data index [] [] windowed (by simp [nothing])
    fun _ => ⟨lower, upper⟩
  refine ⟨_, _, inserted, windowed', ?_⟩
  funext j
  simp only [nothing, List.nil_append, List.append_nil, lookup_piece, lookup, assign,
    Option.none_or]
  split
  · rfl
  · exact (valueAt_eq_none_iff _ _ _).mpr (by omega)

/-- Otherwise the loop fills the gaps between the fragments, and the tail follows the last. -/
theorem fitFragments_spec (nonempty : r.reassembler ≠ []) (upper : index + data.length ≤ hi)
    (machine : hi < 2 ^ 64) (windowed : Windowed lo hi r) :
    ∃ fragments free,
      ((fitLoopChecked data index (index + data.length) r.reassembler.length
          r.reassembler.head? lo r).bind fun r => r.fitTailChecked data index) =
          some (r.store fragments free) ∧
        Windowed lo hi (r.store fragments free) ∧
        lookup fragments = assign (lookup r.reassembler) lo hi data index := by
  obtain ⟨fragments, free, ran, windowed', last, settled⟩ :=
    fitLoopChecked_spec data index upper machine r.reassembler [] lo r.reassembler.length r
      (Nat.le_refl _) rfl (Nat.le_refl lo) windowed.separated windowed
  have stopBounds := windowed.separated.le_stop
  have stillLast : stop lo fragments = stop lo r.reassembler := by
    have isLast := List.getLast?_eq_some_getLast nonempty
    rw [stop_eq_of_getLast? lo isLast, stop_eq_of_getLast? lo (last.trans isLast)]
  have stillThere : fragments ≠ [] := by
    rintro rfl
    exact nonempty (List.getLast?_eq_none_iff.mp last.symm)
  obtain ⟨fragments', free', ran', windowed'', settled'⟩ :=
    fitTailChecked_spec data index (r := r.store fragments free) stillThere upper machine windowed'
  rw [ran, Option.bind_some, ran']
  refine ⟨fragments', free', rfl, windowed'', ?_⟩
  rw [settled']
  simp only [store, stillLast, settled]
  exact assign_assign _ _ _ stopBounds.1 stopBounds.2

/-- `fit_in_reassembler` takes exactly the offers for unheld indices of the window. -/
theorem fitChecked_spec (next : r.nextIndex = lo)
    (width : lo + r.capacityForReassmbler = hi) (machine : hi < 2 ^ 64)
    (bound : index + data.length < 2 ^ 64) (windowed : Windowed lo hi r) :
    ∃ fragments free,
      r.fitChecked data index = some (r.store fragments free) ∧
        Windowed lo hi (r.store fragments free) ∧
        lookup fragments = assign (lookup r.reassembler) lo hi data index := by
  unfold fitChecked
  by_cases full : r.numBytesFree = 0
  · rw [if_pos full]
    exact ⟨r.reassembler, r.numBytesFree, rfl, windowed,
      (windowed.assign_of_full data index full (Nat.le_refl _) (Nat.le_refl _)).symm⟩
  rw [if_neg full, next, add64_of_lt (width ▸ machine), width, resizeSegment_eq_clip _ _ bound]
  simp only [Option.bind_eq_bind, Option.bind_some]
  rw [assign_clip]
  have within := @clip_bounds _ data index lo hi
  generalize clip data index lo hi = pre at within
  obtain ⟨data, index⟩ := pre
  dsimp only at within ⊢
  by_cases isEmpty : data = []
  · rw [if_pos (by simp [isEmpty])]
    refine ⟨r.reassembler, r.numBytesFree, rfl, windowed, ?_⟩
    exact (assign_of_no_offer _ fun j _ _ => by simp [isEmpty]).symm
  obtain ⟨starts, ends⟩ := within isEmpty
  rw [if_neg (by simpa using isEmpty)]
  by_cases nothing : r.reassembler = []
  · rw [if_pos (by simp [empty, nothing])]
    exact fitEmpty_spec data index nothing (by omega) (by omega) windowed
  · rw [if_neg (by simpa [empty] using nothing), add64_of_lt (by omega)]
    exact fitFragments_spec data index nothing (by omega) machine windowed

/-- A substring or a window that runs past the last 64-bit index is not taken at all. -/
theorem fitChecked_of_overflow (next : r.nextIndex < 2 ^ 64)
    (width : r.capacityForReassmbler < 2 ^ 64) (small : index < 2 ^ 64)
    (short : data.length < 2 ^ 64)
    (overflow : 2 ^ 64 ≤ index + data.length ∨
      2 ^ 64 ≤ r.nextIndex + r.capacityForReassmbler) : r.fitChecked data index = some r := by
  have nothing : ∃ start, resizeSegment data index r.nextIndex
      (add64 r.nextIndex r.capacityForReassmbler) = some ([], start) := by
    by_cases past : 2 ^ 64 ≤ index + data.length
    · exact resizeSegment_of_overflow _ _ small short past
    · -- the end of the window wraps to an index before its start
      have windowEnd : add64 r.nextIndex r.capacityForReassmbler < r.nextIndex := by
        unfold add64
        omega
      rw [resizeSegment_eq_clip _ _ (Nat.not_le.mp past)]
      have within := @clip_bounds _ data index r.nextIndex
        (add64 r.nextIndex r.capacityForReassmbler)
      generalize clip data index r.nextIndex (add64 r.nextIndex r.capacityForReassmbler) = part
        at within
      obtain ⟨bytes, start⟩ := part
      have noBytes : bytes = [] := by
        by_contra something
        have positive := List.length_pos_iff.mpr something
        obtain ⟨starts, ends⟩ := within something
        dsimp only at starts ends
        omega
      exact ⟨start, by rw [noBytes]⟩
  obtain ⟨start, resized⟩ := nothing
  unfold fitChecked
  split
  · rfl
  · rw [resized]
    rfl

end Fit

/-- The state after `drain` has written `out` and kept `rest`. -/
def drained (r : StreamReassembler) (out : Bytes) (rest : List (Nat × Bytes)) (free : Nat) :
    StreamReassembler :=
  { r with
    reassembler := rest
    nextIndex := r.nextIndex + out.length
    numBytesFree := free
    output := (r.output.write out).1 }

/--
`drain` moves past the contiguous front of the fragments and stops at the first
gap.  An output that has ended takes none of what it passes.
-/
theorem drain_spec {hi : Nat} (machine : hi < 2 ^ 64) (fragments : List (Nat × Bytes)) :
    ∀ r : StreamReassembler, Separated hi r.nextIndex fragments →
      (r.output.inputEnded = false → hi ≤ r.nextIndex + r.output.remainingCapacity) →
      ∃ out rest free,
        drain fragments r = r.drained out rest free ∧
          Separated hi (r.nextIndex + out.length) rest ∧
          lookup rest (r.nextIndex + out.length) = none ∧
          ∀ j, lookup fragments j = (valueAt out r.nextIndex j).or (lookup rest j) := by
  -- induction on the fragments; each round moves past one of them
  induction fragments with
  | nil =>
      intro r separated _
      refine ⟨[], [], r.numBytesFree, ?_, separated, rfl, fun j => by simp [lookup]⟩
      simp [drain, drained, ByteStream.write_nil]
  | cons entry rest ih =>
      obtain ⟨key, fragment⟩ := entry
      intro r separated width
      by_cases contiguous : r.nextIndex = key
      · have keyLe := separated.2.2.le
        have advance : add64 r.nextIndex fragment.length = r.nextIndex + fragment.length :=
          add64_of_lt (by omega)
        rw [drain, if_pos contiguous, advance]
        generalize hround : ({ r with
          output := (r.output.write fragment).1
          nextIndex := r.nextIndex + fragment.length
          numBytesFree := add64 r.numBytesFree fragment.length } : StreamReassembler) = r'
        have next : r'.nextIndex = r.nextIndex + fragment.length := by rw [← hround]
        have output : r'.output = (r.output.write fragment).1 := by rw [← hround]
        obtain ⟨out, kept, free, ran, separated', gap, front⟩ := ih r'
          (by rw [next, contiguous]; exact separated.2.2)
          (by
            rw [next, output, ByteStream.write_inputEnded]
            intro isOpen
            have fits := width isOpen
            rw [r.output.remainingCapacity_write fragment isOpen (by omega)]
            omega)
        rw [next] at separated' gap front
        have total : r.nextIndex + (fragment ++ out).length =
            r.nextIndex + fragment.length + out.length := by simp [Nat.add_assoc]
        have stops := separated'.le
        refine ⟨fragment ++ out, kept, free, ?_, by rwa [total], by rwa [total], ?_⟩
        · rw [ran, ← hround]
          simp only [drained, List.length_append, Nat.add_assoc]
          rw [r.output.write_append fragment out fun isOpen => by have := width isOpen; omega]
        · intro j
          rw [lookup, front j, valueAt_append, contiguous, Option.or_assoc]
      · have later : r.nextIndex < key := by
          have start := separated.1
          omega
        refine ⟨[], (key, fragment) :: rest, r.numBytesFree, ?_, separated, ?_, fun j => by simp⟩
        · rw [drain, if_neg contiguous]
          simp [drained, ByteStream.write_nil]
        · have fromKey : Separated hi key ((key, fragment) :: rest) :=
            ⟨Nat.le_refl _, separated.2⟩
          exact fromKey.lookup_below later

end Sponge.StreamReassembler
