import Sponge.Library.Fragments
import Sponge.Library.MachineInt
import Sponge.Model.ByteStream

/-!
# The stream reassembler

`stream_reassembler.hh` and `stream_reassembler.cc`.  Indices and lengths are
64-bit values and every sum the source forms is reduced; `std::string::substr`
throws when its position is past the end, so each function that calls it
returns an `Option`.  The constant `_capacity` is stored by the source and read
by no function.
-/

namespace Sponge

open MachineInt

/-- `std::string::substr`: at most `len` bytes from `pos`, or an exception. -/
def substr (data : Bytes) (pos len : Nat) : Option Bytes :=
  if pos ≤ data.length then some ((data.drop pos).take len) else none

/-- The reassembler's state. -/
structure StreamReassembler where
  /-- `_reassembler`: the stored fragments by index, an ordered map. -/
  reassembler : List (Nat × Bytes)
  eof : Bool
  eofIndex : Nat
  capacityForReassmbler : Nat
  numBytesFree : Nat
  nextIndex : Nat
  output : ByteStream
  deriving DecidableEq

namespace StreamReassembler

/-- The constructor `StreamReassembler(capacity)`. -/
def new (capacity : Nat) : StreamReassembler where
  reassembler := []
  eof := false
  eofIndex := 0
  capacityForReassmbler := capacity
  numBytesFree := capacity
  nextIndex := 0
  output := ByteStream.new capacity

/-- The sum of the lengths of the stored fragments. -/
def unassembledBytes (r : StreamReassembler) : Nat := Fragments.size r.reassembler

def getNextIndex (r : StreamReassembler) : Nat := r.nextIndex

/-- The owner reads or pops `len` bytes of `stream_out()`. -/
def popStreamOut (r : StreamReassembler) (len : Nat) : StreamReassembler :=
  { r with output := r.output.popOutput len }

def empty (r : StreamReassembler) : Bool := r.reassembler.length == 0

/-- The part of `data` between two indices, with the index where it starts. -/
def resizeSegment (data : Bytes) (index beginIdx endIdx : Nat) : Option (Bytes × Nat) := do
  let dataEnd := add64 index data.length
  let beginIdx := min dataEnd (max index beginIdx)
  let endIdx := max beginIdx (min dataEnd endIdx)
  let part ← substr data (sub64 beginIdx index) (sub64 endIdx beginIdx)
  pure (part, beginIdx)

def updateFreeSpace (r : StreamReassembler) : StreamReassembler :=
  { r with
    capacityForReassmbler := r.output.remainingCapacity
    numBytesFree := sub64 r.output.remainingCapacity r.unassembledBytes }

/-- Insert as much of a substring as the free space allows; returns its size. -/
def insertInReassembler (r : StreamReassembler) (data : Bytes) (index : Nat) :
    StreamReassembler × Nat :=
  if data.length = 0 then (r, 0)
  else
    let sizeInsert := min r.numBytesFree data.length
    ({ r with
        reassembler := OrderedMap.insert index (data.take sizeInsert) r.reassembler
        numBytesFree := r.numBytesFree - sizeInsert },
      sizeInsert)

/--
The range-for of `fit_in_reassembler` over `_reassembler`.  `iter` is the
element the iterator stands on; the body inserts into the map, and the iterator
then moves to the next element of the map it finds.  Leaving the function from
inside the loop is leaving the loop, because the test right after the loop is
the same test of `_num_bytes_free`.  The first argument counts elements still
to be visited.
-/
def fitLoop (data : Bytes) (index indexDataEnd : Nat) :
    Nat → Option (Nat × Bytes) → Nat → StreamReassembler → Option StreamReassembler
  | 0, _, _, r => some r
  | _ + 1, none, _, r => some r
  | fuel + 1, some (key, fragment), nextIndex, r =>
      if r.numBytesFree = 0 then some r
      else do
        let slot ← resizeSegment data index nextIndex key
        let r := (r.insertInReassembler slot.1 slot.2).1
        let nextIndex := add64 key fragment.length
        if nextIndex ≥ indexDataEnd then some r
        else
          fitLoop data index indexDataEnd fuel (OrderedMap.successor key r.reassembler) nextIndex r

/-- The end of `fit_in_reassembler`: what lies behind the last fragment, the map's `rbegin()`. -/
def fitTail (r : StreamReassembler) (data : Bytes) (index : Nat) : Option StreamReassembler :=
  if r.numBytesFree = 0 then some r
  else
    match r.reassembler.getLast? with
    | none => some r
    | some (lastKey, lastFragment) => do
        let lastIndex := add64 lastKey lastFragment.length
        let tail ← resizeSegment data index lastIndex (add64 index data.length)
        some (r.insertInReassembler tail.1 tail.2).1

/-- Store the bytes of `data` that are in the window and not stored yet. -/
def fitInReassembler (r : StreamReassembler) (data : Bytes) (index : Nat) :
    Option StreamReassembler :=
  if r.numBytesFree = 0 then some r
  else do
    let pre ← resizeSegment data index r.nextIndex (add64 r.nextIndex r.capacityForReassmbler)
    let data := pre.1
    let index := pre.2
    if data.length = 0 then some r
    else if r.empty then some (r.insertInReassembler data index).1
    else do
      let r ← fitLoop data index (add64 index data.length) r.reassembler.length
        r.reassembler.head? r.nextIndex r
      r.fitTail data index

/-- The loop of `push_into_output`: write out fragments from the front of the map. -/
def drain : List (Nat × Bytes) → StreamReassembler → StreamReassembler
  | [], r => { r with reassembler := [] }
  | (key, fragment) :: rest, r =>
      if r.nextIndex = key then
        drain rest { r with
          output := (r.output.write fragment).1
          nextIndex := add64 r.nextIndex fragment.length
          numBytesFree := add64 r.numBytesFree fragment.length }
      else { r with reassembler := (key, fragment) :: rest }

/-- Write out what has become contiguous, and end the output at the end index. -/
def pushIntoOutput (r : StreamReassembler) : StreamReassembler :=
  let r := drain r.reassembler r
  if r.unassembledBytes = 0 ∧ r.eof = true ∧ r.nextIndex = r.eofIndex then
    { r with output := r.output.endInput }
  else r

/-- The first statement of `push_substring`: remember where the stream ends. -/
def noteEof (r : StreamReassembler) (data : Bytes) (index : Nat) (eof : Bool) :
    StreamReassembler :=
  if eof then { r with eof := true, eofIndex := add64 index data.length } else r

/-- Receive a substring and write any newly contiguous bytes into the stream. -/
def pushSubstring (r : StreamReassembler) (data : Bytes) (index : Nat) (eof : Bool) :
    Option StreamReassembler := do
  let r := (r.noteEof data index eof).updateFreeSpace
  if r.numBytesFree = 0 then some r
  else do
    let r ← r.fitInReassembler data index
    some r.pushIntoOutput

section Frame

variable (r : StreamReassembler) (data : Bytes) (index : Nat) (eof : Bool)

@[simp] theorem noteEof_output : (r.noteEof data index eof).output = r.output := by
  unfold noteEof; split <;> rfl

@[simp] theorem noteEof_reassembler : (r.noteEof data index eof).reassembler = r.reassembler := by
  unfold noteEof; split <;> rfl

@[simp] theorem noteEof_nextIndex : (r.noteEof data index eof).nextIndex = r.nextIndex := by
  unfold noteEof; split <;> rfl

end Frame

end StreamReassembler

end Sponge
