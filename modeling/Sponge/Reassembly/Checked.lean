import Sponge.Library.Partial
import Sponge.Model.StreamReassembler

/-!
# The reassembler with its silent assumptions checked

`map::insert` does nothing when the key is present, and an unsigned subtraction
wraps when it goes below zero; the source relies on neither happening.  The
functions here are those of the model with two tests added, and fail where a
test does.  Where they succeed, the model's functions return the same state.
-/

namespace Sponge.StreamReassembler

open MachineInt

/-- `insert_in_reassembler`, failing when the map already has the key. -/
def insertChecked (r : StreamReassembler) (data : Bytes) (index : Nat) :
    Option StreamReassembler :=
  if data.length ≠ 0 ∧ index ∈ r.reassembler.map Prod.fst then none
  else some (r.insertInReassembler data index).1

/-- The range-for of `fit_in_reassembler` with checked insertions. -/
def fitLoopChecked (data : Bytes) (index indexDataEnd : Nat) :
    Nat → Option (Nat × Bytes) → Nat → StreamReassembler → Option StreamReassembler
  | 0, _, _, r => some r
  | _ + 1, none, _, r => some r
  | fuel + 1, some (key, fragment), nextIndex, r =>
      if r.numBytesFree = 0 then some r
      else do
        let slot ← resizeSegment data index nextIndex key
        let r ← r.insertChecked slot.1 slot.2
        let nextIndex := add64 key fragment.length
        if nextIndex ≥ indexDataEnd then some r
        else
          fitLoopChecked data index indexDataEnd fuel
            (OrderedMap.successor key r.reassembler) nextIndex r

/-- The end of `fit_in_reassembler` with a checked insertion. -/
def fitTailChecked (r : StreamReassembler) (data : Bytes) (index : Nat) :
    Option StreamReassembler :=
  if r.numBytesFree = 0 then some r
  else
    match r.reassembler.getLast? with
    | none => some r
    | some (lastKey, lastFragment) => do
        let lastIndex := add64 lastKey lastFragment.length
        let tail ← resizeSegment data index lastIndex (add64 index data.length)
        r.insertChecked tail.1 tail.2

/-- `fit_in_reassembler` with checked insertions. -/
def fitChecked (r : StreamReassembler) (data : Bytes) (index : Nat) :
    Option StreamReassembler :=
  if r.numBytesFree = 0 then some r
  else do
    let pre ← resizeSegment data index r.nextIndex (add64 r.nextIndex r.capacityForReassmbler)
    let data := pre.1
    let index := pre.2
    if data.length = 0 then some r
    else if r.empty then r.insertChecked data index
    else do
      let r ← fitLoopChecked data index (add64 index data.length) r.reassembler.length
        r.reassembler.head? r.nextIndex r
      r.fitTailChecked data index

/-- `update_free_space`, failing when more is stored than the output has room for. -/
def updateFreeSpaceChecked (r : StreamReassembler) : Option StreamReassembler :=
  if r.unassembledBytes ≤ r.output.remainingCapacity then some r.updateFreeSpace else none

/-- `push_substring` with every insertion and the count of free bytes checked. -/
def pushSubstringChecked (r : StreamReassembler) (data : Bytes) (index : Nat) (eof : Bool) :
    Option StreamReassembler := do
  let r ← (r.noteEof data index eof).updateFreeSpaceChecked
  if r.numBytesFree = 0 then some r
  else do
    let r ← r.fitChecked data index
    some r.pushIntoOutput

/-! ## Passing the checks changes nothing -/

section Agree

variable (r : StreamReassembler) (data : Bytes) (index : Nat)

theorem insertChecked_agrees :
    FailsOrEquals (r.insertChecked data index) (some (r.insertInReassembler data index).1) := by
  refine ⟨fun r' passed => ?_⟩
  unfold insertChecked at passed
  split at passed
  · cases passed
  · exact passed

theorem fitLoopChecked_agrees (indexDataEnd fuel : Nat) :
    ∀ (iter : Option (Nat × Bytes)) (cursor : Nat) (r : StreamReassembler),
      FailsOrEquals (fitLoopChecked data index indexDataEnd fuel iter cursor r)
        (fitLoop data index indexDataEnd fuel iter cursor r) := by
  induction fuel with
  | zero => exact fun _ _ _ => .refl _
  | succ fuel ih =>
      intro iter cursor r
      cases iter with
      | none => exact .refl _
      | some entry =>
          rw [fitLoopChecked, fitLoop]
          refine .ite (.refl _) (.bind (.refl _) fun slot => ?_)
          exact .of_some (insertChecked_agrees ..) (.ite (.refl _) (ih ..))

theorem fitTailChecked_agrees :
    FailsOrEquals (r.fitTailChecked data index) (r.fitTail data index) := by
  unfold fitTailChecked fitTail
  refine .ite (.refl _) ?_
  cases r.reassembler.getLast? with
  | none => exact .refl _
  | some last => exact .bind (.refl _) fun _ => insertChecked_agrees ..

theorem fitChecked_agrees :
    FailsOrEquals (r.fitChecked data index) (r.fitInReassembler data index) := by
  unfold fitChecked fitInReassembler
  refine .ite (.refl _) (.bind (.refl _) fun pre => .ite (.refl _) (.ite ?_ ?_))
  · exact insertChecked_agrees ..
  · exact .bind (fitLoopChecked_agrees ..) fun _ => fitTailChecked_agrees ..

theorem pushSubstringChecked_agrees (eof : Bool) :
    FailsOrEquals (r.pushSubstringChecked data index eof) (r.pushSubstring data index eof) := by
  have counted : FailsOrEquals (r.noteEof data index eof).updateFreeSpaceChecked
      (some (r.noteEof data index eof).updateFreeSpace) := by
    refine ⟨fun r' passed => ?_⟩
    unfold updateFreeSpaceChecked at passed
    split at passed
    · exact passed
    · cases passed
  unfold pushSubstringChecked pushSubstring
  exact .of_some counted
    (.ite (.refl _) (.bind (fitChecked_agrees ..) fun _ => .refl _))

end Agree

end Sponge.StreamReassembler
