import Sponge.Library.BigEndian
import Sponge.Model.ByteStream

/-!
# Reading and writing network integers

`util/parser.hh` and `util/parser.cc`.  A `Buffer` is the list of the bytes it
exposes.  The error of a `NetParser` is sticky: after the first failed read
every further one returns 0 and consumes nothing.
-/

namespace Sponge

/-- The result of parsing a datagram, a segment or a header. -/
inductive ParseResult where
  | noError
  | badChecksum
  | packetTooShort
  | wrongIPVersion
  | headerTooShort
  | truncatedPacket
  | unsupported
  deriving DecidableEq

/-- What is left to parse, and the result so far. -/
structure NetParser where
  buffer : Bytes
  error : ParseResult := .noError
  deriving DecidableEq

namespace NetParser

/-- `_check_size`. -/
def checkSize (p : NetParser) (size : Nat) : NetParser :=
  if size > p.buffer.length then { p with error := .packetTooShort } else p

/-- `_parse_int` for an integer type of `len` bytes. -/
def parseInt (len : Nat) (p : NetParser) : Nat × NetParser :=
  let p := p.checkSize len
  if p.error ≠ .noError then (0, p)
  else
    ((p.buffer.take len).foldl (fun ret byte => (ret <<< 8) + byte.toNat) 0,
      { p with buffer := p.buffer.drop len })

def u32 (p : NetParser) : UInt32 × NetParser :=
  (UInt32.ofNat (p.parseInt 4).1, (p.parseInt 4).2)

def u16 (p : NetParser) : UInt16 × NetParser :=
  (UInt16.ofNat (p.parseInt 2).1, (p.parseInt 2).2)

def u8 (p : NetParser) : UInt8 × NetParser :=
  (UInt8.ofNat (p.parseInt 1).1, (p.parseInt 1).2)

/-- Remove `n` bytes from the buffer. -/
def removePrefix (p : NetParser) (n : Nat) : NetParser :=
  let p := p.checkSize n
  if p.error ≠ .noError then p else { p with buffer := p.buffer.drop n }

end NetParser

namespace NetUnparser

/-- `_unparse_int` for an integer type of `len` bytes. -/
def unparseInt (len : Nat) (s : Bytes) (val : Nat) : Bytes :=
  s ++ (List.range len).map fun i => UInt8.ofNat ((val >>> ((len - i - 1) * 8)) &&& 0xff)

def u32 (s : Bytes) (val : UInt32) : Bytes := unparseInt 4 s val.toNat

def u16 (s : Bytes) (val : UInt16) : Bytes := unparseInt 2 s val.toNat

def u8 (s : Bytes) (val : UInt8) : Bytes := unparseInt 1 s val.toNat

end NetUnparser

/-- `std::string::resize`: cut off at `n` bytes, or pad with zero bytes. -/
def resize (s : Bytes) (n : Nat) : Bytes := s.take n ++ List.replicate (n - s.length) 0

/-! ## What is written -/

theorem resize_of_le {s : Bytes} {n : Nat} (short : s.length ≤ n) :
    resize s n = s ++ List.replicate (n - s.length) 0 := by
  rw [resize, List.take_of_length_le short]

theorem NetUnparser.unparseInt_eq (len : Nat) (s : Bytes) (val : Nat) :
    unparseInt len s val = s ++ BigEndian.ofNat len val := by
  rw [unparseInt]
  congr 1
  induction len with
  | zero => rfl
  | succ len ih =>
      have digit : UInt8.ofNat ((val >>> (len * 8)) &&& 0xff) = UInt8.ofNat (val / 256 ^ len) := by
        apply UInt8.toNat_inj.mp
        have power : 2 ^ (len * 8) = 256 ^ len := by rw [Nat.mul_comm, Nat.pow_mul]
        rw [UInt8.toNat_ofNat', UInt8.toNat_ofNat', Nat.and_two_pow_sub_one_eq_mod _ 8,
          Nat.shiftRight_eq_div_pow, power, Nat.mod_mod]
      rw [List.range_succ_eq_map, List.map_cons, List.map_map, BigEndian.ofNat, ← ih]
      refine congrArg₂ List.cons ?_ (List.map_congr_left fun i _ => ?_)
      · exact digit
      · simp only [Function.comp_apply, Nat.succ_eq_add_one, Nat.add_sub_add_right]

theorem NetUnparser.length_unparseInt (len : Nat) (s : Bytes) (val : Nat) :
    (unparseInt len s val).length = s.length + len := by
  rw [unparseInt_eq, List.length_append, BigEndian.length_ofNat]

/-! ## What is read -/

namespace NetParser

variable {p : NetParser} {len n : Nat}

theorem foldl_shift (bytes : Bytes) :
    bytes.foldl (fun ret byte => (ret <<< 8) + byte.toNat) 0 = BigEndian.toNat bytes := by
  simp only [BigEndian.toNat, Nat.shiftLeft_eq, Nat.reducePow]

/-- The parser has not failed and has at least `n` bytes left. -/
def Holds (n : Nat) (p : NetParser) : Prop := p.error = .noError ∧ n ≤ p.buffer.length

theorem parseInt_of_holds (holds : Holds len p) :
    p.parseInt len =
      (BigEndian.toNat (p.buffer.take len), { p with buffer := p.buffer.drop len }) := by
  have fits : p.checkSize len = p := if_neg (Nat.not_lt.mpr holds.2)
  simp only [parseInt, fits, foldl_shift]
  exact if_neg (not_not.mpr holds.1)

theorem removePrefix_of_holds (holds : Holds n p) :
    p.removePrefix n = { p with buffer := p.buffer.drop n } := by
  have fits : p.checkSize n = p := if_neg (Nat.not_lt.mpr holds.2)
  simp only [removePrefix, fits]
  exact if_neg (not_not.mpr holds.1)

/-- A parser that lacks the bytes fails, and one that has failed stays so. -/
theorem checkSize_error (short : ¬ Holds n p) : (p.checkSize n).error ≠ .noError := by
  unfold checkSize
  split
  · exact ParseResult.noConfusion
  · rename_i fits
    exact fun ok => short ⟨ok, Nat.not_lt.mp fits⟩

theorem parseInt_error (short : ¬ Holds len p) : (p.parseInt len).2.error ≠ .noError := by
  have failed := checkSize_error short
  rwa [parseInt, if_pos failed]

theorem removePrefix_error (short : ¬ Holds n p) : (p.removePrefix n).error ≠ .noError := by
  have failed := checkSize_error short
  rwa [removePrefix, if_pos failed]

/-- A read leaves what a parser holds beyond it, and nothing more. -/
theorem holds_parseInt_iff : Holds n (p.parseInt len).2 ↔ Holds (len + n) p := by
  by_cases holds : Holds len p
  · have room := holds.2
    rw [parseInt_of_holds holds, Holds, Holds, List.length_drop]
    refine and_congr_right fun _ => ?_
    omega
  · refine iff_of_false (fun after => parseInt_error holds after.1) fun whole => holds ?_
    exact ⟨whole.1, Nat.le_trans (Nat.le_add_right _ _) whole.2⟩

theorem holds_removePrefix_iff : Holds 0 (p.removePrefix n) ↔ Holds n p := by
  by_cases holds : Holds n p
  · rw [removePrefix_of_holds holds]
    exact iff_of_true ⟨holds.1, Nat.zero_le _⟩ holds
  · exact iff_of_false (fun after => removePrefix_error holds after.1) holds

theorem holds_zero_iff : Holds 0 p ↔ p.error = .noError := and_iff_left (Nat.zero_le _)

/-- The big-endian number of `len` bytes at an offset of a packet. -/
def field (bytes : Bytes) (start len : Nat) : Nat :=
  BigEndian.toNat ((bytes.drop start).take len)

theorem field_lt (bytes : Bytes) (start len : Nat) : field bytes start len < 256 ^ len := by
  have short : ((bytes.drop start).take len).length ≤ len := List.length_take_le ..
  exact Nat.lt_of_lt_of_le (BigEndian.toNat_lt _) (Nat.pow_le_pow_right (by decide) short)

/-- The upper half of a byte. -/
theorem toNat_ofNat_shiftRight {n : Nat} (small : n < 256) :
    (UInt8.ofNat n >>> 4).toNat = n / 16 := by
  rw [UInt8.toNat_shiftRight, UInt8.toNat_ofNat', Nat.mod_eq_of_lt small,
    Nat.shiftRight_eq_div_pow]
  rfl

/-- A read inside a packet. -/
theorem parseInt_drop {start : Nat} {bytes : Bytes} (fits : start + len ≤ bytes.length) :
    parseInt len { buffer := bytes.drop start } =
      (field bytes start len, { buffer := bytes.drop (start + len) }) := by
  have holds : Holds len { buffer := bytes.drop start } := by
    refine ⟨rfl, ?_⟩
    rw [List.length_drop]
    omega
  rw [parseInt_of_holds holds, List.drop_drop]
  rfl

/-- Reading what was written. -/
theorem parseInt_ofNat_append {val : Nat} (small : val < 256 ^ len) (rest : Bytes) :
    parseInt len { buffer := BigEndian.ofNat len val ++ rest } = (val, { buffer := rest }) := by
  have holds : Holds len { buffer := BigEndian.ofNat len val ++ rest } := ⟨rfl, by simp⟩
  rw [parseInt_of_holds holds]
  dsimp only
  rw [List.take_left' (BigEndian.length_ofNat len val),
    List.drop_left' (BigEndian.length_ofNat len val), BigEndian.toNat_ofNat,
    Nat.mod_eq_of_lt small]

/-- Enough bytes begin with an integer. -/
theorem exists_unparseInt {bytes : Bytes} (fits : len ≤ bytes.length) :
    ∃ val rest, val < 256 ^ len ∧ bytes = NetUnparser.unparseInt len [] val ++ rest := by
  have length : (bytes.take len).length = len := List.length_take_of_le fits
  refine ⟨BigEndian.toNat (bytes.take len), bytes.drop len, ?_, ?_⟩
  · have small := BigEndian.toNat_lt (bytes.take len)
    rwa [length] at small
  · have digits := BigEndian.ofNat_toNat (bytes.take len)
    rw [length] at digits
    rw [NetUnparser.unparseInt_eq, List.nil_append, digits, List.take_append_drop]

theorem exists_u32 {bytes : Bytes} (fits : 4 ≤ bytes.length) :
    ∃ (val : UInt32) (rest : Bytes), bytes = NetUnparser.u32 [] val ++ rest := by
  obtain ⟨val, rest, small, split⟩ := exists_unparseInt fits
  refine ⟨UInt32.ofNat val, rest, ?_⟩
  rwa [NetUnparser.u32, UInt32.toNat_ofNat', Nat.mod_eq_of_lt (show val < 2 ^ 32 from small)]

theorem exists_u16 {bytes : Bytes} (fits : 2 ≤ bytes.length) :
    ∃ (val : UInt16) (rest : Bytes), bytes = NetUnparser.u16 [] val ++ rest := by
  obtain ⟨val, rest, small, split⟩ := exists_unparseInt fits
  refine ⟨UInt16.ofNat val, rest, ?_⟩
  rwa [NetUnparser.u16, UInt16.toNat_ofNat', Nat.mod_eq_of_lt (show val < 2 ^ 16 from small)]

theorem exists_u8 {bytes : Bytes} (fits : 1 ≤ bytes.length) :
    ∃ (val : UInt8) (rest : Bytes), bytes = NetUnparser.u8 [] val ++ rest := by
  obtain ⟨val, rest, small, split⟩ := exists_unparseInt fits
  refine ⟨UInt8.ofNat val, rest, ?_⟩
  rwa [NetUnparser.u8, UInt8.toNat_ofNat', Nat.mod_eq_of_lt (show val < 2 ^ 8 from small)]

@[simp] theorem u32_append (val : UInt32) (rest : Bytes) :
    u32 { buffer := NetUnparser.u32 [] val ++ rest } = (val, { buffer := rest }) := by
  rw [NetUnparser.u32, NetUnparser.unparseInt_eq, List.nil_append, u32,
    parseInt_ofNat_append val.toNat_lt, UInt32.ofNat_toNat]

@[simp] theorem u16_append (val : UInt16) (rest : Bytes) :
    u16 { buffer := NetUnparser.u16 [] val ++ rest } = (val, { buffer := rest }) := by
  rw [NetUnparser.u16, NetUnparser.unparseInt_eq, List.nil_append, u16,
    parseInt_ofNat_append val.toNat_lt, UInt16.ofNat_toNat]

@[simp] theorem u8_append (val : UInt8) (rest : Bytes) :
    u8 { buffer := NetUnparser.u8 [] val ++ rest } = (val, { buffer := rest }) := by
  rw [NetUnparser.u8, NetUnparser.unparseInt_eq, List.nil_append, u8,
    parseInt_ofNat_append val.toNat_lt, UInt8.ofNat_toNat]

end NetParser

end Sponge
