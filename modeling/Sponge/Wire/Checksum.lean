import Sponge.Library.Loop
import Sponge.Library.OnesComplement
import Sponge.Model.InternetChecksum
import Sponge.Model.Parser

/-!
# What the Internet checksum computes

The bytes of a packet are 16-bit big-endian words, the last one padded with a
zero byte.  While the 32-bit sum does not overflow, `value` is the complement of
the one's-complement sum of the words and of the initial sum.
-/

namespace Sponge

open Loop MachineInt OnesComplement

/-- The 16-bit big-endian words of a packet. -/
def words : Bytes → List Nat
  | [] => []
  | [high] => [high.toNat * 256]
  | high :: low :: rest => (high.toNat * 256 + low.toNat) :: words rest

/-- The sum of the words of a packet. -/
def wordSum (data : Bytes) : Nat := (words data).sum

/--
The Internet checksum over a packet and an initial 32-bit sum verifies: the
one's-complement sum of all words, those of the initial sum included, is all ones.
-/
def Verifies (initialSum : Nat) (data : Bytes) : Prop :=
  total (initialSum / 2 ^ 16 :: initialSum % 2 ^ 16 :: words data) = 2 ^ 16 - 1

instance (initialSum : Nat) (data : Bytes) : Decidable (Verifies initialSum data) := by
  unfold Verifies
  infer_instance

theorem words_lt (data : Bytes) : ∀ word ∈ words data, word < 2 ^ 16 := by
  fun_induction words data with
  | case1 => exact fun _ member => absurd member List.not_mem_nil
  | case2 high =>
      intro word member
      have small := high.toNat_lt
      obtain rfl := List.mem_singleton.mp member
      omega
  | case3 high low rest ih =>
      intro word member
      have small := high.toNat_lt
      have small' := low.toNat_lt
      rcases List.mem_cons.mp member with rfl | later
      · omega
      · exact ih word later

theorem wordSum_le (data : Bytes) : wordSum data ≤ 65535 * ((data.length + 1) / 2) := by
  unfold wordSum
  fun_induction words data with
  | case1 => exact Nat.le_refl _
  | case2 high =>
      have small := high.toNat_lt
      simp only [List.sum_cons, List.sum_nil, List.length_cons, List.length_nil]
      omega
  | case3 high low rest ih =>
      have small := high.toNat_lt
      have small' := low.toNat_lt
      simp only [List.sum_cons, List.length_cons]
      omega

/-- A 32-bit sum that starts at `initialSum` cannot overflow on a packet of this length. -/
def SumFits (initialSum : Nat) (data : Bytes) : Prop :=
  initialSum + 65535 * ((data.length + 1) / 2) < 2 ^ 32

instance (initialSum : Nat) (data : Bytes) : Decidable (SumFits initialSum data) := by
  unfold SumFits
  infer_instance

theorem SumFits.lt {initialSum : Nat} {data : Bytes} (fits : SumFits initialSum data) :
    initialSum + wordSum data < 2 ^ 32 :=
  Nat.lt_of_le_of_lt (Nat.add_le_add_left (wordSum_le data) _) fits

/-- Packets of whole words are added up one after the other. -/
theorem wordSum_append {first : Bytes} (even : first.length % 2 = 0) (second : Bytes) :
    wordSum (first ++ second) = wordSum first + wordSum second := by
  unfold wordSum
  fun_induction words first with
  | case1 => simp
  | case2 high => simp at even
  | case3 high low rest ih =>
      have inner := ih (by simpa [Nat.add_assoc] using even)
      simp only [List.cons_append, words, List.sum_cons, inner, Nat.add_assoc]

/-- A written 16-bit integer is one word. -/
theorem wordSum_u16 (val : UInt16) : wordSum (NetUnparser.u16 [] val) = val.toNat := by
  have value : BigEndian.toNat (BigEndian.ofNat 2 val.toNat) = val.toNat := by
    rw [BigEndian.toNat_ofNat]
    exact Nat.mod_eq_of_lt val.toNat_lt
  rw [NetUnparser.u16, NetUnparser.unparseInt_eq, List.nil_append]
  simpa [BigEndian.ofNat, BigEndian.toNat, wordSum, words] using value

/-- The words of a packet with a 16-bit integer at an even offset. -/
theorem wordSum_field {front : Bytes} (even : front.length % 2 = 0) (val : UInt16)
    (back : Bytes) :
    wordSum (front ++ (NetUnparser.u16 [] val ++ back)) =
      wordSum front + wordSum back + val.toNat := by
  have two : (NetUnparser.u16 [] val).length % 2 = 0 :=
    congrArg (· % 2) (NetUnparser.length_unparseInt 2 [] val.toNat)
  rw [wordSum_append even, wordSum_append two, wordSum_u16]
  omega

/-- The one's-complement sum of all words, in terms of the ordinary sum. -/
theorem total_words {initialSum : Nat} (bound : initialSum < 2 ^ 32) (data : Bytes) :
    total (initialSum / 2 ^ 16 :: initialSum % 2 ^ 16 :: words data) =
      reduce (initialSum + wordSum data) := by
  have small : ∀ word ∈ initialSum / 2 ^ 16 :: initialSum % 2 ^ 16 :: words data,
      word < 2 ^ 16 := by
    simp only [List.forall_mem_cons]
    exact ⟨by omega, by omega, words_lt data⟩
  rw [total_eq small, List.sum_cons, List.sum_cons, reduce_halves, ← wordSum]

/-- Whether a checksum verifies, in terms of the ordinary sum. -/
theorem verifies_iff {initialSum : Nat} (bound : initialSum < 2 ^ 32) (data : Bytes) :
    Verifies initialSum data ↔ reduce (initialSum + wordSum data) = 2 ^ 16 - 1 := by
  rw [Verifies, total_words bound]

namespace InternetChecksum

theorem add_append (check : InternetChecksum) (first second : Bytes) :
    check.add (first ++ second) = (check.add first).add second :=
  List.foldl_append ..

/-- The sum after adding a packet, from a word boundary on. -/
theorem sum_add (data : Bytes) (initialSum : Nat) (bound : initialSum + wordSum data < 2 ^ 32) :
    (add { sum := initialSum } data).sum = initialSum + wordSum data := by
  unfold wordSum at bound ⊢
  fun_induction words data generalizing initialSum with
  | case1 => rfl
  | case2 high =>
      simp only [List.sum_cons, List.sum_nil, Nat.add_zero] at bound ⊢
      simp only [add, List.foldl_cons, List.foldl_nil, addByte, if_true, Nat.shiftLeft_eq,
        Nat.reducePow]
      exact Nat.mod_eq_of_lt bound
  | case3 high low rest ih =>
      simp only [List.sum_cons] at bound ⊢
      have word : add { sum := initialSum } [high, low] =
          { sum := initialSum + (high.toNat * 256 + low.toNat) } := by
        simp only [add, List.foldl_cons, List.foldl_nil, addByte, if_true, Nat.shiftLeft_eq,
          Nat.reducePow, Bool.not_false, Bool.true_eq_false, if_false, Bool.not_true, add32]
        congr 1
        omega
      have split := add_append { sum := initialSum } [high, low] rest
      rw [word] at split
      have later := ih (initialSum + (high.toNat * 256 + low.toNat)) (by omega)
      rw [← split] at later
      exact later.trans (Nat.add_assoc _ _ _)

/-- Two rounds fold the carries of any 32-bit sum. -/
theorem foldLoop_eq {sum : Nat} (bound : sum < 2 ^ 32) : foldLoop 2 sum = reduce sum := by
  have round (ret : Nat) : (ret >>> 16) + (ret &&& 0xffff) = foldCarry ret := by
    rw [foldCarry, Nat.shiftRight_eq_div_pow, Nat.and_two_pow_sub_one_eq_mod ret 16]
  simp only [foldLoop, round]
  split
  · split
    · rw [← reduce_foldCarry, ← reduce_foldCarry]
      refine (reduce_of_lt ?_).symm
      unfold foldCarry
      omega
    · rw [← reduce_foldCarry]
      exact (reduce_of_lt (by omega)).symm
  · exact (reduce_of_lt (by omega)).symm

/-- The checksum is the complement of the one's-complement sum. -/
theorem value_toNat {check : InternetChecksum} (bound : check.sum < 2 ^ 32) :
    check.value.toNat = 2 ^ 16 - 1 - reduce check.sum := by
  have small := reduce_lt check.sum
  have size : UInt16.size = 2 ^ 16 := rfl
  rw [value, foldLoop_eq bound, UInt16.toNat_not, UInt16.toNat_ofNat', size]
  omega

/-- The checksum of a packet is zero exactly when it verifies. -/
theorem value_eq_zero_iff {initialSum : Nat} {data : Bytes}
    (bound : initialSum + wordSum data < 2 ^ 32) :
    (add { sum := initialSum } data).value = 0 ↔ Verifies initialSum data := by
  have sum := sum_add data initialSum bound
  have small := reduce_lt (initialSum + wordSum data)
  rw [verifies_iff (by omega), ← UInt16.toNat_inj, value_toNat (by omega), sum,
    UInt16.toNat_zero]
  omega

/--
The checksum of a packet with zeros in the place of the checksum, written to that
place, makes the packet verify.
-/
theorem verifies_sealed {initialSum : Nat} {front back : Bytes} (even : front.length % 2 = 0)
    (bound : initialSum + wordSum (front ++ (NetUnparser.u16 [] 0 ++ back)) < 2 ^ 32) :
    let check := add { sum := initialSum } (front ++ (NetUnparser.u16 [] 0 ++ back))
    Verifies initialSum (front ++ (NetUnparser.u16 [] check.value ++ back)) := by
  intro check
  have sum : check.sum = initialSum + (wordSum front + wordSum back) := by
    rw [sum_add _ _ bound, wordSum_field even]
    rfl
  have value : check.value.toNat =
      2 ^ 16 - 1 - reduce (initialSum + (wordSum front + wordSum back)) := by
    rw [value_toNat (by rw [sum_add _ _ bound]; exact bound), sum]
  rw [verifies_iff (by omega), wordSum_field even, value, ← Nat.add_assoc]
  exact reduce_add_complement _

/-! ## Any chunks, any number of rounds -/

/-- One round of the `while` loop of `value`. -/
def foldRound (ret : Nat) : Round Nat :=
  if ret > 0xffff then .again ((ret >>> 16) + (ret &&& 0xffff)) else .leave ret

/-- Once the bounded loop has folded every carry, the loop of the source has ended. -/
theorem completes_foldLoop (fuel ret : Nat) (folded : foldLoop fuel ret ≤ 0xffff) :
    Completes foldRound ret (foldLoop fuel ret) := by
  induction fuel generalizing ret with
  | zero => exact .leave (if_neg (Nat.not_lt.mpr folded))
  | succ fuel ih =>
      rw [foldLoop] at folded ⊢
      split at folded
      · rename_i carries
        rw [if_pos carries]
        exact .again (if_pos carries) (ih _ folded)
      · rename_i none
        rw [if_neg none]
        exact .leave (if_neg none)

/-- Add the parts of a packet one after the other. -/
def addAll (check : InternetChecksum) (chunks : List Bytes) : InternetChecksum :=
  chunks.foldl add check

theorem addAll_eq (check : InternetChecksum) (chunks : List Bytes) :
    check.addAll chunks = check.add chunks.flatten := by
  induction chunks generalizing check with
  | nil => rfl
  | cons chunk rest ih =>
      rw [List.flatten_cons, add_append]
      exact ih (check.add chunk)

/--
What a checksum computes from an initial sum and the parts of a packet: the loop
of `value` ends, the value is the complement of the one's-complement sum, it is
zero for the positive multiples of `2 ^ 16 - 1`, and written over two zero bytes
at an even offset of the packet it makes the value zero.
-/
structure SumsWords (initialSum : Nat) (chunks : List Bytes) : Prop where
  terminates : ∃ ret, Completes foldRound (addAll { sum := initialSum } chunks).sum ret ∧
    (addAll { sum := initialSum } chunks).value = ~~~ UInt16.ofNat ret
  value : (addAll { sum := initialSum } chunks).value.toNat =
    2 ^ 16 - 1 - total (initialSum / 2 ^ 16 :: initialSum % 2 ^ 16 :: words chunks.flatten)
  zero : (addAll { sum := initialSum } chunks).value = 0 ↔
    0 < initialSum + wordSum chunks.flatten ∧
      (initialSum + wordSum chunks.flatten) % (2 ^ 16 - 1) = 0
  written : ∀ front back, chunks.flatten = front ++ 0 :: 0 :: back → front.length % 2 = 0 →
    ∀ chunks', chunks'.flatten =
        front ++ (NetUnparser.u16 [] (addAll { sum := initialSum } chunks).value ++ back) →
      (addAll { sum := initialSum } chunks').value = 0

/-- While its 32-bit sum cannot overflow, the checksum sums the words of a packet. -/
theorem sums_words {initialSum : Nat} {chunks : List Bytes}
    (fits : SumFits initialSum chunks.flatten) : SumsWords initialSum chunks := by
  have sum := sum_add chunks.flatten initialSum fits.lt
  have bound : (add { sum := initialSum } chunks.flatten).sum < 2 ^ 32 := sum ▸ fits.lt
  have start : initialSum < 2 ^ 32 := Nat.lt_of_le_of_lt (Nat.le_add_right _ _) fits
  refine ⟨?_, ?_, ?_, ?_⟩
  · rw [addAll_eq]
    refine ⟨_, completes_foldLoop 2 _ ?_, rfl⟩
    rw [foldLoop_eq bound]
    exact Nat.le_of_lt_succ (reduce_lt _)
  · rw [addAll_eq, value_toNat bound, sum, total_words start]
  · rw [addAll_eq, value_eq_zero_iff fits.lt, verifies_iff start, reduce_eq_iff]
  · intro front back holds even chunks' replaced
    have zeros : chunks.flatten = front ++ (NetUnparser.u16 [] 0 ++ back) := holds
    have fits' : SumFits initialSum chunks'.flatten := by
      have same : chunks'.flatten.length = chunks.flatten.length := by
        rw [replaced, zeros]
        simp [NetUnparser.u16, NetUnparser.length_unparseInt]
      rw [SumFits, same]
      exact fits
    rw [addAll_eq, zeros] at replaced
    rw [addAll_eq, value_eq_zero_iff fits'.lt, replaced]
    exact verifies_sealed even (zeros ▸ fits.lt)

/-- Chunks of odd lengths, two zero bytes at offset 2 and an initial sum with a carry. -/
theorem sums_words_odd_chunks :
    SumFits 70000 [[1], [2, 0, 0], [], [5]].flatten ∧ SumsWords 70000 [[1], [2, 0, 0], [], [5]] :=
  ⟨by decide, sums_words (by decide)⟩

end InternetChecksum

end Sponge
