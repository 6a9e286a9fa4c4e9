import Sponge.Model.TCPSerialization
import Sponge.Wire.Checksum

/-!
# Which segments are accepted

`TCPSegment::parse` returns the error of the parser and drops what the header's
own parser returns.  A data offset below 5 is reported only there, so a segment
with one is accepted.
-/

namespace Sponge

/-- The data offset of a raw segment: the upper half of its byte 12. -/
def dataOffset (bytes : Bytes) : Nat := NetParser.field bytes 12 1 / 16

namespace TCPHeader

open NetParser

/-- The fixed fields take 20 bytes. -/
theorem holds_parseFields_iff (n : Nat) (p : NetParser) :
    Holds n (parseFields p).2 ↔ Holds (length + n) p := by
  simp only [parseFields, u16, u32, u8, holds_parseInt_iff, length]
  rw [show 2 + (2 + (4 + (4 + (1 + (1 + (2 + (2 + (2 + n)))))))) = 20 + n by omega]

theorem parseFields_rest {bytes : Bytes} (long : length ≤ bytes.length) :
    (parseFields { buffer := bytes }).2 = { buffer := bytes.drop length } := by
  rw [length] at long
  change (parseFields { buffer := bytes.drop 0 }).2 = _
  simp (disch := omega) only [parseFields, u16, u32, u8, parseInt_drop, Nat.reduceAdd, length]

/-- The data offset is read from byte 12. -/
theorem parseFields_doff {bytes : Bytes} (long : length ≤ bytes.length) :
    (parseFields { buffer := bytes }).1.doff.toNat = dataOffset bytes := by
  rw [length] at long
  change (parseFields { buffer := bytes.drop 0 }).1.doff.toNat = _
  simp (disch := omega) only [parseFields, u16, u32, u8, parseInt_drop, Nat.reduceAdd]
  exact toNat_ofNat_shiftRight (field_lt bytes 12 1)

/-- The parser a header leaves: options are skipped only if the data offset is valid. -/
theorem parse_rest (p : NetParser) :
    (parse p).2.2 =
      if (parseFields p).1.doff < 5 then (parseFields p).2
      else (parseFields p).2.removePrefix ((parseFields p).1.doff.toNat * 4 - length) := by
  rw [parse]
  by_cases low : (parseFields p).1.doff < 5
  · rw [if_pos low, if_pos low]
  · rw [if_neg low, if_neg low]
    dsimp only
    split <;> rfl

theorem doff_lt_iff {bytes : Bytes} (long : length ≤ bytes.length) :
    (parseFields { buffer := bytes }).1.doff < 5 ↔ dataOffset bytes < 5 := by
  rw [UInt8.lt_iff_toNat_lt, parseFields_doff long]
  rfl

/-- The parser fails on a packet without a whole header, and on nothing else. -/
theorem parse_error_iff (bytes : Bytes) :
    (parse { buffer := bytes }).2.2.error = .noError ↔
      length ≤ bytes.length ∧ (5 ≤ dataOffset bytes → 4 * dataOffset bytes ≤ bytes.length) := by
  rw [← holds_zero_iff, parse_rest]
  by_cases long : length ≤ bytes.length
  · by_cases low : dataOffset bytes < 5
    · rw [if_pos ((doff_lt_iff long).mpr low), holds_parseFields_iff]
      exact iff_of_true ⟨rfl, long⟩ ⟨long, fun high => absurd low (Nat.not_lt.mpr high)⟩
    · rw [if_neg (low ∘ (doff_lt_iff long).mp), holds_removePrefix_iff, holds_parseFields_iff,
        parseFields_doff long, Holds]
      unfold length at long ⊢
      constructor
      · rintro ⟨_, room⟩
        exact ⟨long, fun _ => by dsimp only at room; omega⟩
      · rintro ⟨_, room⟩
        exact ⟨rfl, by dsimp only; omega⟩
  · refine iff_of_false (fun holds => long ?_) fun both => long both.1
    split at holds
    · exact ((holds_parseFields_iff 0 _).mp holds).2
    · have whole := (holds_parseFields_iff _ _).mp (holds_removePrefix_iff.mp holds)
      exact Nat.le_trans (Nat.le_add_right _ _) whole.2

/-- What a well-formed header leaves in the buffer. -/
theorem parse_buffer {bytes : Bytes} (long : length ≤ bytes.length) (high : 5 ≤ dataOffset bytes)
    (fits : 4 * dataOffset bytes ≤ bytes.length) :
    (parse { buffer := bytes }).2.2.buffer = bytes.drop (4 * dataOffset bytes) := by
  have valid : ¬ (parseFields { buffer := bytes }).1.doff < 5 :=
    mt (doff_lt_iff long).mp (Nat.not_lt.mpr high)
  have skip : length + (dataOffset bytes * 4 - length) = 4 * dataOffset bytes := by
    unfold length
    omega
  have holds : Holds (dataOffset bytes * 4 - length) (parseFields { buffer := bytes }).2 := by
    rw [holds_parseFields_iff, skip]
    exact ⟨rfl, fits⟩
  rw [parse_rest, if_neg valid, parseFields_doff long, removePrefix_of_holds holds,
    parseFields_rest long]
  dsimp only
  rw [List.drop_drop, skip]

end TCPHeader

namespace TCPSegment

open InternetChecksum

/-- A segment whose checksum verifies and whose data offset lies within it. -/
def WellFormed (datagramLayerChecksum : Nat) (bytes : Bytes) : Prop :=
  Verifies datagramLayerChecksum bytes ∧ 20 ≤ bytes.length ∧ 5 ≤ dataOffset bytes ∧
    4 * dataOffset bytes ≤ bytes.length

instance (datagramLayerChecksum : Nat) (bytes : Bytes) :
    Decidable (WellFormed datagramLayerChecksum bytes) := by
  unfold WellFormed
  infer_instance

/-- A packet with a valid checksum and a data offset that is smaller than the header. -/
def LowOffset (datagramLayerChecksum : Nat) (bytes : Bytes) : Prop :=
  Verifies datagramLayerChecksum bytes ∧ 20 ≤ bytes.length ∧ dataOffset bytes < 5

instance (datagramLayerChecksum : Nat) (bytes : Bytes) :
    Decidable (LowOffset datagramLayerChecksum bytes) := by
  unfold LowOffset
  infer_instance

/--
The parser accepts the well-formed segments and no others, and the payload of an
accepted one is what follows its header.
-/
def ParsesExactly (segment : TCPSegment) (datagramLayerChecksum : Nat) (bytes : Bytes) : Prop :=
  let parsed := segment.parse bytes datagramLayerChecksum
  (parsed.1 = .noError ↔ WellFormed datagramLayerChecksum bytes) ∧
    (parsed.1 = .noError → parsed.2.payload = bytes.drop (4 * dataOffset bytes))

variable {datagramLayerChecksum : Nat} {bytes : Bytes}

theorem parse_of_verifies (segment : TCPSegment) (fits : SumFits datagramLayerChecksum bytes)
    (verifies : Verifies datagramLayerChecksum bytes) :
    segment.parse bytes datagramLayerChecksum =
      ((TCPHeader.parse { buffer := bytes }).2.2.error,
        { segment with
          header := (TCPHeader.parse { buffer := bytes }).2.1
          payload := (TCPHeader.parse { buffer := bytes }).2.2.buffer }) :=
  if_neg (not_not.mpr ((value_eq_zero_iff fits.lt).mpr verifies))

theorem parse_of_not_verifies (segment : TCPSegment) (fits : SumFits datagramLayerChecksum bytes)
    (broken : ¬ Verifies datagramLayerChecksum bytes) :
    segment.parse bytes datagramLayerChecksum = (.badChecksum, segment) :=
  if_pos (mt (value_eq_zero_iff fits.lt).mp broken)

/-- What the parser accepts: the well-formed segments and those with a low data offset. -/
theorem parse_accepts_iff (segment : TCPSegment) (fits : SumFits datagramLayerChecksum bytes) :
    (segment.parse bytes datagramLayerChecksum).1 = .noError ↔
      WellFormed datagramLayerChecksum bytes ∨ LowOffset datagramLayerChecksum bytes := by
  by_cases verifies : Verifies datagramLayerChecksum bytes
  · rw [parse_of_verifies segment fits verifies, TCPHeader.parse_error_iff, WellFormed, LowOffset,
      TCPHeader.length]
    simp only [verifies, true_and]
    rcases Nat.lt_or_ge (dataOffset bytes) 5 with low | high
    · simp [low, Nat.not_le.mpr low]
    · simp [high, Nat.not_lt.mpr high]
  · rw [parse_of_not_verifies segment fits verifies]
    refine iff_of_false ParseResult.noConfusion ?_
    rintro (wellFormed | low)
    · exact verifies wellFormed.1
    · exact verifies low.1

/--
A packet is accepted exactly when it is well formed, except for a packet with a
valid checksum and a data offset below 5: the parser does not see the error of
the header and accepts it.
-/
theorem parses_exactly_iff (segment : TCPSegment)
    (fits : SumFits datagramLayerChecksum bytes) :
    segment.ParsesExactly datagramLayerChecksum bytes ↔
      ¬ LowOffset datagramLayerChecksum bytes := by
  have accepts := parse_accepts_iff segment fits
  constructor
  · intro exact low
    have wellFormed := exact.1.mp (accepts.mpr (.inr low))
    exact Nat.not_lt.mpr wellFormed.2.2.1 low.2.2
  · intro notLow
    have only := accepts.trans (or_iff_left notLow)
    refine ⟨only, fun accepted => ?_⟩
    obtain ⟨verifies, long, high, room⟩ := only.mp accepted
    rw [parse_of_verifies segment fits verifies]
    exact TCPHeader.parse_buffer long high room

/-- Twenty bytes whose checksum verifies, with data offset 5 and without a payload. -/
def barePacket : Bytes := [0, 0, 0, 0, 0, 0, 0, 0, 0, 0, 0, 0, 0x50, 0, 0, 0, 0xaf, 0xff, 0, 0]

theorem parses_exactly_bare :
    SumFits 0 barePacket ∧ WellFormed 0 barePacket ∧ ParsesExactly {} 0 barePacket :=
  ⟨by decide, by decide, (parses_exactly_iff {} (by decide)).mpr (by decide)⟩

/-- Twenty bytes whose checksum verifies, with data offset 0. -/
def offsetZeroPacket : Bytes := [0, 0, 0, 0, 0, 0, 0, 0, 0, 0, 0, 0, 0, 0, 0, 0, 0xff, 0xff, 0, 0]

/-- The packet is accepted and is not well formed: its header parser fails. -/
theorem offset_zero_accepted :
    SumFits 0 offsetZeroPacket ∧
      (TCPHeader.parse { buffer := offsetZeroPacket }).1 = .headerTooShort ∧
      (TCPSegment.parse {} offsetZeroPacket 0).1 = .noError ∧ ¬ WellFormed 0 offsetZeroPacket ∧
      ¬ ParsesExactly {} 0 offsetZeroPacket := by
  refine ⟨by decide, by decide, by decide, by decide, fun exact => ?_⟩
  exact absurd (exact.1.mp (by decide)) (by decide)

end TCPSegment

end Sponge
