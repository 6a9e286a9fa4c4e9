import Mathlib.Tactic.Common

/-!
# The in-order byte stream

`byte_stream.hh` and `byte_stream.cc`.  A stream carries the two facts every
later argument uses: its buffer fits its capacity, and the bytes written are the
bytes read followed by the bytes still buffered.  The running totals of bytes
read and written are natural numbers.
-/

namespace Sponge

abbrev Bytes := List UInt8

/-- An in-order byte stream with room for `capacity` buffered bytes. -/
@[ext]
structure ByteStream where
  capacity : Nat
  buffer : Bytes
  /-- `_error`: the stream suffered an error. -/
  error : Bool
  /-- `_end_input`: the writer has ended the input. -/
  inputEnded : Bool
  bytesRead : Nat
  bytesWritten : Nat
  fits : buffer.length ≤ capacity
  accounted : bytesWritten = bytesRead + buffer.length
  deriving DecidableEq

namespace ByteStream

/-- The constructor `ByteStream(capacity)`. -/
def new (capacity : Nat) : ByteStream where
  capacity := capacity
  buffer := []
  error := false
  inputEnded := false
  bytesRead := 0
  bytesWritten := 0
  fits := Nat.zero_le _
  accounted := rfl

def remainingCapacity (stream : ByteStream) : Nat := stream.capacity - stream.buffer.length

/-- Write as many bytes as fit and return how many were accepted. -/
def write (stream : ByteStream) (data : Bytes) : ByteStream × Nat :=
  if stream.inputEnded then (stream, 0)
  else
    let maxBytesWritten := min data.length stream.remainingCapacity
    ({ stream with
        buffer := stream.buffer ++ data.take maxBytesWritten
        bytesWritten := stream.bytesWritten + maxBytesWritten
        fits := by
          have room := stream.fits
          simp only [remainingCapacity, List.length_append, List.length_take, maxBytesWritten]
          omega
        accounted := by
          have total := stream.accounted
          simp only [List.length_append, List.length_take, maxBytesWritten]
          omega },
      maxBytesWritten)

/-- Copy the next `len` bytes without removing them. -/
def peekOutput (stream : ByteStream) (len : Nat) : Bytes :=
  let maxBytesPeek := min len stream.buffer.length
  stream.buffer.take maxBytesPeek

/-- Remove the next `len` bytes, or all of them when fewer are buffered. -/
def popOutput (stream : ByteStream) (len : Nat) : ByteStream :=
  let maxBytesPop := min len stream.buffer.length
  { stream with
    buffer := stream.buffer.drop maxBytesPop
    bytesRead := stream.bytesRead + maxBytesPop
    fits := by
      have room := stream.fits
      simp only [List.length_drop]
      omega
    accounted := by
      have total := stream.accounted
      simp only [List.length_drop, maxBytesPop]
      omega }

/-- Copy and then pop the next `len` bytes. -/
def read (stream : ByteStream) (len : Nat) : Bytes × ByteStream :=
  (stream.peekOutput len, stream.popOutput len)

def endInput (stream : ByteStream) : ByteStream := { stream with inputEnded := true }

def setError (stream : ByteStream) : ByteStream := { stream with error := true }

def bufferSize (stream : ByteStream) : Nat := stream.buffer.length

def bufferEmpty (stream : ByteStream) : Bool := stream.buffer.length == 0

def eof (stream : ByteStream) : Bool := stream.bufferEmpty && stream.inputEnded

/-! ## Field lemmas -/

theorem bufferEmpty_iff (stream : ByteStream) :
    stream.bufferEmpty = true ↔ stream.buffer = [] := by
  simp [bufferEmpty]

theorem eof_iff (stream : ByteStream) :
    stream.eof = true ↔ stream.buffer = [] ∧ stream.inputEnded = true := by
  simp [eof, bufferEmpty_iff]

section Write

variable (stream : ByteStream) (data : Bytes)

@[simp] theorem write_capacity : (stream.write data).1.capacity = stream.capacity := by
  unfold write; split <;> rfl

@[simp] theorem write_error : (stream.write data).1.error = stream.error := by
  unfold write; split <;> rfl

@[simp] theorem write_inputEnded : (stream.write data).1.inputEnded = stream.inputEnded := by
  unfold write; split <;> rfl

@[simp] theorem write_bytesRead : (stream.write data).1.bytesRead = stream.bytesRead := by
  unfold write; split <;> rfl

/-- The bytes accepted by a write are the prefix whose length it returns. -/
theorem write_buffer :
    (stream.write data).1.buffer = stream.buffer ++ data.take (stream.write data).2 := by
  unfold write; split <;> simp

theorem write_bytesWritten :
    (stream.write data).1.bytesWritten = stream.bytesWritten + (stream.write data).2 := by
  unfold write; split <;> simp

theorem write_count_le : (stream.write data).2 ≤ data.length := by
  unfold write
  split
  · exact Nat.zero_le _
  · exact Nat.min_le_left _ _

/-- A stream whose input has ended accepts nothing. -/
theorem write_of_ended (ended : stream.inputEnded = true) :
    stream.write data = (stream, 0) := by
  simp [write, ended]

/-- Data that fits is accepted whole while the input is open. -/
theorem write_count_of_fits (isOpen : stream.inputEnded = false)
    (room : data.length ≤ stream.remainingCapacity) : (stream.write data).2 = data.length := by
  simp only [write, isOpen, Bool.false_eq_true, if_false]
  exact Nat.min_eq_left room

theorem write_nil : (stream.write []).1 = stream := by
  ext1 <;> simp [write_buffer, write_bytesWritten, Nat.le_zero.mp (stream.write_count_le [])]

/-- Two writes are one write, when they fit or the input has ended. -/
theorem write_append (more : Bytes)
    (room : stream.inputEnded = false → data.length + more.length ≤ stream.remainingCapacity) :
    ((stream.write data).1.write more).1 = (stream.write (data ++ more)).1 := by
  cases ended : stream.inputEnded with
  | true => simp only [write_of_ended, ended]
  | false =>
      have fits := room ended
      have first := stream.write_count_of_fits data ended (by omega)
      have both := stream.write_count_of_fits (data ++ more) ended (by simpa using fits)
      have second := (stream.write data).1.write_count_of_fits more (by simpa using ended) (by
        simp only [remainingCapacity, write_capacity, write_buffer, first, List.take_length,
          List.length_append] at fits ⊢
        omega)
      ext1 <;> simp only [write_capacity, write_error, write_inputEnded, write_bytesRead,
        write_buffer, write_bytesWritten, first, second, both, List.take_length,
        List.append_assoc, Nat.add_assoc, ← List.length_append]

/-- Data that fits takes up as much of the room as it is long. -/
theorem remainingCapacity_write (isOpen : stream.inputEnded = false)
    (room : data.length ≤ stream.remainingCapacity) :
    (stream.write data).1.remainingCapacity = stream.remainingCapacity - data.length := by
  have accepted := stream.write_count_of_fits data isOpen room
  simp only [remainingCapacity, write_capacity, write_buffer, accepted, List.take_length,
    List.length_append]
  omega

end Write

section Pop

variable (stream : ByteStream) (len : Nat)

@[simp] theorem popOutput_capacity : (stream.popOutput len).capacity = stream.capacity := rfl

@[simp] theorem popOutput_error : (stream.popOutput len).error = stream.error := rfl

@[simp] theorem popOutput_inputEnded :
    (stream.popOutput len).inputEnded = stream.inputEnded := rfl

@[simp] theorem popOutput_bytesWritten :
    (stream.popOutput len).bytesWritten = stream.bytesWritten := rfl

@[simp] theorem popOutput_bytesRead :
    (stream.popOutput len).bytesRead = stream.bytesRead + min len stream.buffer.length := rfl

@[simp] theorem popOutput_buffer :
    (stream.popOutput len).buffer = stream.buffer.drop (min len stream.buffer.length) := rfl

@[simp] theorem peekOutput_length :
    (stream.peekOutput len).length = min len stream.buffer.length := by
  simp [peekOutput]

/-- Reading makes room. -/
theorem remainingCapacity_le_popOutput :
    stream.remainingCapacity ≤ (stream.popOutput len).remainingCapacity := by
  simp only [remainingCapacity, popOutput_capacity, popOutput_buffer, List.length_drop]
  omega

/-- Only the number of bytes actually removed matters. -/
theorem popOutput_congr {len other : Nat}
    (same : min len stream.buffer.length = min other stream.buffer.length) :
    stream.popOutput len = stream.popOutput other := by
  ext1 <;> simp only [popOutput_capacity, popOutput_buffer, popOutput_error, popOutput_inputEnded,
    popOutput_bytesRead, popOutput_bytesWritten, same]

theorem popOutput_of_min_eq_zero (nothing : min len stream.buffer.length = 0) :
    stream.popOutput len = stream := by
  ext1 <;> simp [nothing]

theorem popOutput_popOutput (more : Nat) :
    (stream.popOutput len).popOutput more = stream.popOutput (len + more) := by
  ext1
  · rfl
  · simp only [popOutput_buffer, List.drop_drop, List.length_drop]
    congr 1
    omega
  · rfl
  · rfl
  · simp only [popOutput_bytesRead, popOutput_buffer, List.length_drop]
    omega
  · rfl

theorem popOutput_eof_iff : (stream.popOutput len).eof = true ↔
    stream.buffer.length ≤ len ∧ stream.inputEnded = true := by
  rw [eof_iff, popOutput_buffer, List.drop_eq_nil_iff, popOutput_inputEnded]
  exact and_congr_left fun _ => by omega

/-- What is read and what stays buffered make up the old buffer. -/
theorem peekOutput_append_buffer :
    stream.peekOutput len ++ (stream.popOutput len).buffer = stream.buffer := by
  simp [peekOutput]

end Pop

end ByteStream

end Sponge
