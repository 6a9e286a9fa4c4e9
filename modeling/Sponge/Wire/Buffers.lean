import Mathlib.Algebra.Ring.Nat
import Sponge.Model.Buffer

/-!
# Lists of buffers as strings

To the string it denotes, removing a prefix from a list of buffers is dropping its
first bytes, however the bytes are spread over the buffers.  A list of views made
from it denotes the same string, so a writer that removes what the system has
taken, call after call, hands over every byte once.
-/

namespace Sponge

open Loop Rope

/-! ## What the lists denote -/

theorem foldl_add_length {β : Type} (contents : β → Bytes) (rope : List β) (start : Nat) :
    rope.foldl (fun ret buf => ret + (contents buf).length) start =
      start + (rope.flatMap contents).length := by
  induction rope generalizing start with
  | nil => rfl
  | cons front rest ih =>
      rw [List.foldl_cons, ih, List.flatMap_cons, List.length_append, Nat.add_assoc]

namespace BufferList

theorem concatenate_eq (list : BufferList) :
    list.concatenate = flat Buffer.pieces list.buffers :=
  List.flatMap_eq_foldl.symm

theorem size_eq (list : BufferList) : list.size = list.concatenate.length := by
  rw [concatenate_eq]
  exact (foldl_add_length Buffer.str list.buffers 0).trans (Nat.zero_add _)

theorem concatenate_append (list other : BufferList) :
    (list.append other).concatenate = list.concatenate ++ other.concatenate := by
  rw [concatenate_eq, concatenate_eq, concatenate_eq]
  exact List.flatMap_append

theorem removePrefix_eq_none_iff (list : BufferList) (n : Nat) :
    list.removePrefix n = none ↔ list.size < n := by
  rw [removePrefix, Option.map_eq_none_iff, removeFront_eq_none_iff, size_eq, concatenate_eq]

theorem concatenate_of_removePrefix {list rest : BufferList} {n : Nat}
    (removed : list.removePrefix n = some rest) :
    n ≤ list.size ∧ rest.concatenate = list.concatenate.drop n := by
  obtain ⟨buffers, front, rfl⟩ := Option.map_eq_some_iff.mp removed
  rw [size_eq, concatenate_eq, concatenate_eq]
  exact flat_of_removeFront Buffer.pieces front

theorem size_of_removePrefix {list rest : BufferList} {n : Nat}
    (removed : list.removePrefix n = some rest) : rest.size = list.size - n := by
  rw [size_eq, size_eq, (concatenate_of_removePrefix removed).2, List.length_drop]

theorem completes_removePrefix (list : BufferList) (n : Nat) :
    Completes (removeRound Buffer.pieces) (some (n, list.buffers))
      ((list.removePrefix n).map fun rest => (0, rest.buffers)) := by
  have ends := completes_removeFront Buffer.pieces n list.buffers
  rwa [removePrefix, Option.map_map]

end BufferList

namespace BufferViewList

/-- The string that a list of views denotes. -/
def contents (list : BufferViewList) : Bytes := list.asIovecs.flatten

theorem contents_eq (list : BufferViewList) : list.contents = flat viewPieces list.views :=
  List.flatMap_id.symm

theorem size_eq (list : BufferViewList) : list.size = list.contents.length := by
  rw [contents_eq]
  exact (foldl_add_length id list.views 0).trans (Nat.zero_add _)

theorem contents_ofBufferList (list : BufferList) :
    (ofBufferList list).contents = list.concatenate := by
  rw [BufferList.concatenate_eq]
  exact List.flatMap_def.symm

theorem removePrefix_eq_none_iff (list : BufferViewList) (n : Nat) :
    list.removePrefix n = none ↔ list.size < n := by
  rw [removePrefix, Option.map_eq_none_iff, removeFront_eq_none_iff, size_eq, contents_eq]

theorem contents_of_removePrefix {list rest : BufferViewList} {n : Nat}
    (removed : list.removePrefix n = some rest) :
    n ≤ list.size ∧ rest.contents = list.contents.drop n := by
  obtain ⟨views, front, rfl⟩ := Option.map_eq_some_iff.mp removed
  rw [size_eq, contents_eq, contents_eq]
  exact flat_of_removeFront viewPieces front

theorem size_of_removePrefix {list rest : BufferViewList} {n : Nat}
    (removed : list.removePrefix n = some rest) : rest.size = list.size - n := by
  rw [size_eq, size_eq, (contents_of_removePrefix removed).2, List.length_drop]

theorem completes_removePrefix (list : BufferViewList) (n : Nat) :
    Completes (removeRound viewPieces) (some (n, list.views))
      ((list.removePrefix n).map fun rest => (0, rest.views)) := by
  have ends := completes_removeFront viewPieces n list.views
  rwa [removePrefix, Option.map_map]

end BufferViewList

/-! ## Removal after removal -/

/-- One prefix after the other: the bytes removed, and the list that is left. -/
def BufferList.removeEach : List Nat → BufferList → Option (Bytes × BufferList)
  | [], list => some ([], list)
  | n :: ns, list => do
      let rest ← list.removePrefix n
      (removeEach ns rest).map fun later => (list.concatenate.take n ++ later.1, later.2)

/-- Removals one after the other fail if they ask for too much together. -/
theorem BufferList.removeEach_eq_none_iff (ns : List Nat) (list : BufferList) :
    list.removeEach ns = none ↔ ns.sum > list.size := by
  induction ns generalizing list with
  | nil => exact iff_of_false (Option.some_ne_none _) (Nat.not_lt_zero _)
  | cons n ns ih =>
      have fails := removePrefix_eq_none_iff list n
      rw [List.sum_cons]
      cases removed : list.removePrefix n with
      | none =>
          have short := fails.mp removed
          refine iff_of_true ?_ (by omega)
          rw [removeEach, removed]
          rfl
      | some rest =>
          have fits := (concatenate_of_removePrefix removed).1
          have step : list.removeEach (n :: ns) = none ↔ rest.removeEach ns = none := by
            rw [removeEach, removed]
            exact Option.map_eq_none_iff
          rw [step, ih, size_of_removePrefix removed]
          omega

theorem BufferList.append_of_removeEach {ns : List Nat} {list rest : BufferList} {removed : Bytes}
    (ran : list.removeEach ns = some (removed, rest)) :
    removed ++ rest.concatenate = list.concatenate := by
  induction ns generalizing list removed with
  | nil =>
      cases ran
      rfl
  | cons n ns ih =>
      simp only [removeEach, Option.bind_eq_bind, Option.bind_eq_some_iff,
        Option.map_eq_some_iff] at ran
      obtain ⟨next, first, later, others, both⟩ := ran
      cases both
      rw [List.append_assoc, ih others, (concatenate_of_removePrefix first).2,
        List.take_append_drop]

namespace FileDescriptor

/-- Every byte has been taken or is still in the buffer, in order, and the count is right. -/
structure Accounts (original : Bytes) (state : Writing) : Prop where
  bytes : state.taken ++ state.buffer.contents = original
  total : state.totalBytesWritten = state.taken.length

/-- What may be said of a call of `write`, wherever it is. -/
def Conserves (original : Bytes) (writeAll : Bool) : WriteResult → Prop
  | .pending state => Accounts original state
  | .returned state => Accounts original state ∧ (writeAll = true → state.taken = original)
  | .threw error => error ≠ .outOfRange

/-- The state after `writev` has taken some bytes. -/
def Writing.advance (state : Writing) (bytesWritten : Nat) (buffer : BufferViewList) : Writing where
  buffer := buffer
  totalBytesWritten := state.totalBytesWritten + bytesWritten
  taken := state.taken ++ state.buffer.contents.take bytesWritten

variable {original : Bytes} {state : Writing} {bytesWritten : Nat} {buffer : BufferViewList}

theorem Accounts.advance (accounts : Accounts original state)
    (removed : state.buffer.removePrefix bytesWritten = some buffer) :
    Accounts original (state.advance bytesWritten buffer) := by
  obtain ⟨fits, left⟩ := BufferViewList.contents_of_removePrefix removed
  rw [BufferViewList.size_eq] at fits
  constructor
  · change state.taken ++ state.buffer.contents.take bytesWritten ++ buffer.contents = original
    rw [left, List.append_assoc, List.take_append_drop, accounts.bytes]
  · change state.totalBytesWritten + bytesWritten =
      (state.taken ++ state.buffer.contents.take bytesWritten).length
    rw [List.length_append, List.length_take_of_le fits, accounts.total]

/-- One round of the loop: an error of the system, or some bytes are taken. -/
theorem write_cons (writeAll : Bool) (state : Writing) (reply : Option Nat)
    (replies : List (Option Nat)) :
    (∃ error, error ≠ .outOfRange ∧ write writeAll state (reply :: replies) = .threw error) ∨
      ∃ bytesWritten buffer, state.buffer.removePrefix bytesWritten = some buffer ∧
        (bytesWritten = 0 → state.buffer.size = 0) ∧
        write writeAll state (reply :: replies) =
          if writeAll ∧ buffer.size ≠ 0 then
            write writeAll (state.advance bytesWritten buffer) replies
          else .returned (state.advance bytesWritten buffer) := by
  cases reply with
  | none => exact .inl ⟨.writev, WriteError.noConfusion, rfl⟩
  | some bytesWritten =>
      rw [write]
      by_cases nothing : bytesWritten = 0 ∧ state.buffer.size ≠ 0
      · rw [if_pos nothing]
        exact .inl ⟨.wroteNothing, WriteError.noConfusion, rfl⟩
      by_cases tooMuch : bytesWritten > state.buffer.size
      · rw [if_neg nothing, if_pos tooMuch]
        exact .inl ⟨.wroteTooMuch, WriteError.noConfusion, rfl⟩
      rw [if_neg nothing, if_neg tooMuch]
      cases removed : state.buffer.removePrefix bytesWritten with
      | none => exact absurd ((BufferViewList.removePrefix_eq_none_iff _ _).mp removed) tooMuch
      | some buffer =>
          refine .inr ⟨bytesWritten, buffer, removed, fun zero => ?_, rfl⟩
          by_contra some
          exact nothing ⟨zero, some⟩

theorem conserves_write (writeAll : Bool) (replies : List (Option Nat))
    (accounts : Accounts original state) :
    Conserves original writeAll (write writeAll state replies) := by
  induction replies generalizing state with
  | nil => exact accounts
  | cons reply replies ih =>
      rcases write_cons writeAll state reply replies with
        ⟨error, other, ran⟩ | ⟨bytesWritten, buffer, removed, _, ran⟩
      · rw [ran]
        exact other
      · have next := accounts.advance removed
        rw [ran]
        split
        · exact ih next
        · rename_i done
          refine ⟨next, fun all => ?_⟩
          have empty : buffer.contents = [] := by
            rw [← List.length_eq_zero_iff, ← BufferViewList.size_eq]
            by_contra left
            exact done ⟨all, left⟩
          have bytes := next.bytes
          rwa [show (state.advance bytesWritten buffer).buffer.contents = [] from empty,
            List.append_nil] at bytes

/-- A call of `write` ends after at most one reply for each byte, and one more. -/
theorem write_ends (writeAll : Bool) (replies : List (Option Nat))
    (enough : state.buffer.size < replies.length) (final : Writing) :
    write writeAll state replies ≠ .pending final := by
  induction replies generalizing state with
  | nil => exact absurd enough (Nat.not_lt_zero _)
  | cons reply replies ih =>
      rcases write_cons writeAll state reply replies with
        ⟨error, _, ran⟩ | ⟨bytesWritten, buffer, removed, progress, ran⟩
      · rw [ran]
        exact WriteResult.noConfusion
      · have size := BufferViewList.size_of_removePrefix removed
        rw [List.length_cons] at enough
        rw [ran]
        split
        · rename_i more
          refine ih ?_
          change buffer.size < replies.length
          have some := more.2
          omega
        · exact WriteResult.noConfusion

end FileDescriptor

namespace BufferList

/-- A list of buffers behaves as the string it denotes. -/
structure ActsAsString (list : BufferList) : Prop where
  /-- Appending a buffer appends its contents. -/
  appends : ∀ buffer, (list.append (ofBuffer buffer)).concatenate = list.concatenate ++ buffer.str
  /-- The loop that removes a prefix ends. -/
  terminates : ∀ n, Completes (removeRound Buffer.pieces) (some (n, list.buffers))
    ((list.removePrefix n).map fun rest => (0, rest.buffers))
  /-- It throws if there are too few bytes, and only then. -/
  throws : ∀ n, list.removePrefix n = none ↔ n > list.size
  /-- Otherwise it drops the first bytes. -/
  removes : ∀ n rest, list.removePrefix n = some rest →
    rest.concatenate = list.concatenate.drop n ∧ rest.size = list.size - n
  /-- A view of the list does the same to the same bytes. -/
  views : ∀ n,
    Completes (removeRound viewPieces) (some (n, (BufferViewList.ofBufferList list).views))
      (((BufferViewList.ofBufferList list).removePrefix n).map fun rest => (0, rest.views)) ∧
    ((BufferViewList.ofBufferList list).removePrefix n).map BufferViewList.contents =
      (list.removePrefix n).map concatenate
  /-- Removals one after the other take the string apart. -/
  conserves : ∀ ns, (list.removeEach ns = none ↔ ns.sum > list.size) ∧
    ∀ removed rest, list.removeEach ns = some (removed, rest) →
      removed ++ rest.concatenate = list.concatenate
  /-- A call of `write` hands over each byte once, in order, and ends. -/
  writes : ∀ writeAll replies,
    FileDescriptor.Conserves list.concatenate writeAll
      (FileDescriptor.write writeAll { buffer := BufferViewList.ofBufferList list } replies) ∧
    (list.size < replies.length → ∀ state,
      FileDescriptor.write writeAll { buffer := BufferViewList.ofBufferList list } replies ≠
        .pending state)

/-- A list and a view of it lose the same bytes, or both throw. -/
theorem contents_removePrefix (list : BufferList) (n : Nat) :
    ((BufferViewList.ofBufferList list).removePrefix n).map BufferViewList.contents =
      (list.removePrefix n).map concatenate := by
  have denotes := BufferViewList.contents_ofBufferList list
  have fails := BufferViewList.removePrefix_eq_none_iff (.ofBufferList list) n
  rw [BufferViewList.size_eq, denotes, ← size_eq, ← removePrefix_eq_none_iff] at fails
  cases removed : list.removePrefix n with
  | none => rw [fails.mpr removed]; rfl
  | some rest =>
      cases viewed : (BufferViewList.ofBufferList list).removePrefix n with
      | none =>
          rw [fails.mp viewed] at removed
          cases removed
      | some views =>
          have left := (BufferViewList.contents_of_removePrefix viewed).2
          rw [denotes, ← (concatenate_of_removePrefix removed).2] at left
          exact congrArg some left

theorem acts_as_string (list : BufferList) : list.ActsAsString where
  appends buffer := concatenate_append list (ofBuffer buffer)
  terminates := completes_removePrefix list
  throws := removePrefix_eq_none_iff list
  removes n rest removed := ⟨(concatenate_of_removePrefix removed).2, size_of_removePrefix removed⟩
  views n := ⟨BufferViewList.completes_removePrefix _ n, contents_removePrefix list n⟩
  conserves ns := ⟨removeEach_eq_none_iff ns list, fun _ _ ran => append_of_removeEach ran⟩
  writes writeAll replies := by
    have denotes := BufferViewList.contents_ofBufferList list
    refine ⟨FileDescriptor.conserves_write writeAll replies ⟨denotes, rfl⟩, fun enough => ?_⟩
    rw [size_eq, ← denotes, ← BufferViewList.size_eq] at enough
    exact FileDescriptor.write_ends writeAll replies enough

/-- The prefix ends inside the third buffer, and the second is empty. -/
example :
    let list : BufferList := [[1, 2], [], [3, 4, 5]].foldl
      (fun list str => append list (ofBuffer (.ofString str))) {}
    (list.removePrefix 3).map concatenate = some [4, 5] ∧
      (list.removePrefix 6).map concatenate = none := by
  decide

end BufferList

end Sponge
