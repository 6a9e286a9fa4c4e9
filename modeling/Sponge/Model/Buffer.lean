import Sponge.Library.Rope
import Sponge.Model.ByteStream

/-!
# Buffers that discard bytes from the front

`util/buffer.hh`, `util/buffer.cc` and `FileDescriptor::write` of
`util/file_descriptor.cc`.  Storage is shared and never written to, so it is a
value here.  Sizes are natural numbers: a list denotes the string that
`concatenate` returns, and a string has fewer than `2 ^ 64` bytes.  An
`out_of_range` exception is `none`.
-/

namespace Sponge

open Rope

/-- A string that can discard bytes from the front. -/
structure Buffer where
  storage : Option Bytes := none
  startingOffset : Nat := 0
  /-- The offset lies within the storage; an offset without storage means nothing. -/
  valid : ∀ s ∈ storage, startingOffset ≤ s.length := by simp

namespace Buffer

/-- Construct by taking ownership of a string. -/
def ofString (str : Bytes) : Buffer where
  storage := some str
  valid _ _ := Nat.zero_le _

/-- The contents. -/
def str (buffer : Buffer) : Bytes :=
  match buffer.storage with
  | none => []
  | some s => s.drop buffer.startingOffset

def size (buffer : Buffer) : Nat := buffer.str.length

theorem size_of_storage {buffer : Buffer} {s : Bytes} (stored : buffer.storage = some s) :
    buffer.size = s.length - buffer.startingOffset := by
  rw [size, str, stored]
  exact List.length_drop

/-- Move the offset; storage that has been used up is dropped, and the offset stays. -/
def advance (buffer : Buffer) (n : Nat) (fits : n ≤ buffer.size) : Buffer where
  storage := buffer.storage.filter fun s => buffer.startingOffset + n ≠ s.length
  startingOffset := buffer.startingOffset + n
  valid s mem := by
    have stored : buffer.storage = some s := (Option.filter_eq_some_iff.mp mem).1
    have inside := buffer.valid s stored
    rw [size_of_storage stored] at fits
    omega

/-- Discard the first `n` bytes. -/
def removePrefix (buffer : Buffer) (n : Nat) : Option Buffer :=
  if outOfRange : n > buffer.size then none
  else some (buffer.advance n (Nat.not_lt.mp outOfRange))

theorem str_advance (buffer : Buffer) {n : Nat} (fits : n ≤ buffer.size) :
    (buffer.advance n fits).str = buffer.str.drop n := by
  unfold str advance
  dsimp only
  cases buffer.storage with
  | none => exact List.drop_nil.symm
  | some s =>
      rw [List.drop_drop, Option.filter_some]
      by_cases used : buffer.startingOffset + n = s.length
      · rw [if_neg (by simpa using used), used, List.drop_length]
      · rw [if_pos (by simpa using used)]

/-- A buffer as a piece of a rope. -/
def pieces : Pieces UInt8 Buffer where
  contents := str
  cut := removePrefix
  contents_cut buffer n fits :=
    ⟨buffer.advance n fits, dif_neg (Nat.not_lt.mpr fits), buffer.str_advance fits⟩

end Buffer

/-- A discontiguous string that can discard bytes from the front. -/
structure BufferList where
  buffers : List Buffer := []

namespace BufferList

/-- Construct from a buffer. -/
def ofBuffer (buffer : Buffer) : BufferList := { buffers := [buffer] }

/-- Append the buffers of another list. -/
def append (list other : BufferList) : BufferList := { buffers := list.buffers ++ other.buffers }

def concatenate (list : BufferList) : Bytes :=
  list.buffers.foldl (fun ret buf => ret ++ buf.str) []

def size (list : BufferList) : Nat := list.buffers.foldl (fun ret buf => ret + buf.size) 0

/-- Discard the first `n` bytes, buffer by buffer. -/
def removePrefix (list : BufferList) (n : Nat) : Option BufferList :=
  (removeFront Buffer.pieces n list.buffers).map fun buffers => { buffers }

end BufferList

/-- A view as a piece of a rope. -/
def viewPieces : Pieces UInt8 Bytes where
  contents := id
  cut view n := some (view.drop n)
  contents_cut _ _ _ := ⟨_, rfl, rfl⟩

/-- A view of a discontiguous string. -/
structure BufferViewList where
  views : List Bytes := []

namespace BufferViewList

/-- Construct from a list of buffers. -/
def ofBufferList (list : BufferList) : BufferViewList := { views := list.buffers.map Buffer.str }

def size (list : BufferViewList) : Nat := list.views.foldl (fun ret buf => ret + buf.length) 0

/-- Discard the first `n` bytes, view by view. -/
def removePrefix (list : BufferViewList) (n : Nat) : Option BufferViewList :=
  (removeFront viewPieces n list.views).map fun views => { views }

/-- The memory that `writev` is to write, in this order. -/
def asIovecs (list : BufferViewList) : List Bytes := list.views

end BufferViewList

namespace FileDescriptor

/-- The errors of `write`. -/
inductive WriteError where
  /-- The system call failed. -/
  | writev
  /-- `write returned 0 given non-empty input buffer`. -/
  | wroteNothing
  /-- `write wrote more than length of input buffer`. -/
  | wroteTooMuch
  /-- `BufferListView::remove_prefix`. -/
  | outOfRange
  deriving DecidableEq

/-- The variables of `write`, and the bytes the system has taken. -/
structure Writing where
  buffer : BufferViewList
  totalBytesWritten : Nat := 0
  taken : Bytes := []

/-- Where a call of `write` is. -/
inductive WriteResult where
  | pending (state : Writing)
  | returned (state : Writing)
  | threw (error : WriteError)

/--
The loop of `write`, for what `writev` replies: how many bytes it has written, or
`none` if it fails.  It takes that many bytes of the memory it is given, from the
front.
-/
def write (writeAll : Bool) : Writing → List (Option Nat) → WriteResult
  | state, [] => .pending state
  | _, none :: _ => .threw .writev
  | state, some bytesWritten :: replies =>
      if bytesWritten = 0 ∧ state.buffer.size ≠ 0 then .threw .wroteNothing
      else if bytesWritten > state.buffer.size then .threw .wroteTooMuch
      else
        match state.buffer.removePrefix bytesWritten with
        | none => .threw .outOfRange
        | some buffer =>
            let state : Writing := {
              buffer
              totalBytesWritten := state.totalBytesWritten + bytesWritten
              taken := state.taken ++ state.buffer.asIovecs.flatten.take bytesWritten }
            if writeAll ∧ buffer.size ≠ 0 then write writeAll state replies else .returned state

end FileDescriptor

end Sponge
