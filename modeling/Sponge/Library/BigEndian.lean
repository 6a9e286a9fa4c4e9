import Mathlib.Tactic.Ring

/-!
# Big-endian numbers

`ofNat len value` are the last `len` base-256 digits of a number, most
significant first, and `toNat` reads them back.
-/

namespace Sponge.BigEndian

/-- The number the bytes stand for. -/
def toNat (bytes : List UInt8) : Nat := bytes.foldl (fun acc byte => acc * 256 + byte.toNat) 0

/-- The last `len` digits of a number. -/
def ofNat : Nat → Nat → List UInt8
  | 0, _ => []
  | len + 1, value => UInt8.ofNat (value / 256 ^ len) :: ofNat len value

@[simp] theorem length_ofNat (len value : Nat) : (ofNat len value).length = len := by
  induction len with
  | zero => rfl
  | succ len ih => rw [ofNat, List.length_cons, ih]

/-- Reading on from an accumulator. -/
theorem foldl_eq (bytes : List UInt8) (acc : Nat) :
    bytes.foldl (fun acc byte => acc * 256 + byte.toNat) acc =
      acc * 256 ^ bytes.length + toNat bytes := by
  induction bytes generalizing acc with
  | nil => simp [toNat]
  | cons byte rest ih =>
      have whole : toNat (byte :: rest) = (0 * 256 + byte.toNat) * 256 ^ rest.length + toNat rest :=
        ih (0 * 256 + byte.toNat)
      rw [List.foldl_cons, ih, whole, List.length_cons, pow_succ]
      ring

theorem toNat_cons (byte : UInt8) (rest : List UInt8) :
    toNat (byte :: rest) = byte.toNat * 256 ^ rest.length + toNat rest := by
  rw [toNat, List.foldl_cons, foldl_eq, Nat.zero_mul, Nat.zero_add]

theorem toNat_lt (bytes : List UInt8) : toNat bytes < 256 ^ bytes.length := by
  induction bytes with
  | nil => exact Nat.one_pos
  | cons byte rest ih =>
      have small : byte.toNat + 1 ≤ 256 := byte.toNat_lt
      calc toNat (byte :: rest) = byte.toNat * 256 ^ rest.length + toNat rest := toNat_cons ..
        _ < (byte.toNat + 1) * 256 ^ rest.length := by rw [Nat.add_mul, Nat.one_mul]; omega
        _ ≤ 256 * 256 ^ rest.length := Nat.mul_le_mul_right _ small
        _ = 256 ^ (byte :: rest).length := by rw [List.length_cons, pow_succ, Nat.mul_comm]

/-- Reading the digits of a number gives what of it fits in them. -/
theorem toNat_ofNat (len value : Nat) : toNat (ofNat len value) = value % 256 ^ len := by
  induction len with
  | zero => rw [Nat.pow_zero, Nat.mod_one]; rfl
  | succ len ih =>
      have digit : (UInt8.ofNat (value / 256 ^ len)).toNat = value / 256 ^ len % 256 :=
        UInt8.toNat_ofNat'
      rw [ofNat, toNat_cons, ih, length_ofNat, digit, Nat.pow_succ, Nat.mod_mul]
      ring

/-- The digits before the last `len` do not matter. -/
theorem ofNat_add_mul (len value high : Nat) :
    ofNat len (high * 256 ^ len + value) = ofNat len value := by
  induction len generalizing high with
  | zero => rfl
  | succ len ih =>
      have shifted : high * 256 ^ (len + 1) + value = high * 256 * 256 ^ len + value := by ring
      have digit : (high * 256 * 256 ^ len + value) / 256 ^ len =
          high * 256 + value / 256 ^ len := by
        rw [Nat.mul_comm, Nat.mul_add_div (Nat.pow_pos (by decide))]
      rw [ofNat, ofNat, shifted, ih, digit]
      congr 1
      apply UInt8.toNat_inj.mp
      rw [UInt8.toNat_ofNat', UInt8.toNat_ofNat', Nat.mul_add_mod_self_right]

/-- Bytes are the digits of the number they stand for. -/
theorem ofNat_toNat (bytes : List UInt8) : ofNat bytes.length (toNat bytes) = bytes := by
  induction bytes with
  | nil => rfl
  | cons byte rest ih =>
      have small := toNat_lt rest
      have first : (byte.toNat * 256 ^ rest.length + toNat rest) / 256 ^ rest.length =
          byte.toNat := by
        rw [Nat.mul_comm, Nat.mul_add_div (Nat.pow_pos (by decide)), Nat.div_eq_of_lt small,
          Nat.add_zero]
      rw [List.length_cons, ofNat, toNat_cons, first, ofNat_add_mul, ih, UInt8.ofNat_toNat]

end Sponge.BigEndian
