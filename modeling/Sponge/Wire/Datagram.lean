import Sponge.Model.IPv4
import Sponge.Wire.Checksum

/-!
# Which datagrams are accepted

`IPv4Datagram::parse` drops what the header's parser returns and looks at two
things instead: the error of the parser, which is never set, and whether what is
left of the buffer has the length the header gives its payload.  So the checksum
plays no part, and a datagram the header's parser stops at after the fixed fields
is accepted if its lengths happen to agree.
-/

namespace Sponge

open NetParser

/-- The version of a raw datagram: the upper half of its first byte. -/
def version (bytes : Bytes) : Nat := field bytes 0 1 / 16

/-- The header length of a raw datagram, in 32-bit words. -/
def headerLength (bytes : Bytes) : Nat := field bytes 0 1 % 16

/-- The total length field of a raw datagram. -/
def totalLength (bytes : Bytes) : Nat := field bytes 2 2

/-- The fields of a raw datagram fit together. -/
def Structured (bytes : Bytes) : Prop :=
  20 ≤ bytes.length ∧ version bytes = 4 ∧ 5 ≤ headerLength bytes ∧
    4 * headerLength bytes ≤ bytes.length ∧ totalLength bytes = bytes.length

instance (bytes : Bytes) : Decidable (Structured bytes) := by
  unfold Structured
  infer_instance

namespace IPv4Header

variable {bytes : Bytes}

theorem parseFields_rest (long : length ≤ bytes.length) :
    (parseFields { buffer := bytes }).2 = { buffer := bytes.drop length } := by
  rw [length] at long
  change (parseFields { buffer := bytes.drop 0 }).2 = _
  simp (disch := omega) only [parseFields, u16, u32, u8, parseInt_drop, Nat.reduceAdd, length]

theorem parseFields_ver (long : length ≤ bytes.length) :
    (parseFields { buffer := bytes }).1.ver.toNat = version bytes := by
  rw [length] at long
  change (parseFields { buffer := bytes.drop 0 }).1.ver.toNat = _
  simp (disch := omega) only [parseFields, u8, parseInt_drop]
  exact toNat_ofNat_shiftRight (field_lt bytes 0 1)

theorem parseFields_hlen (long : length ≤ bytes.length) :
    (parseFields { buffer := bytes }).1.hlen.toNat = headerLength bytes := by
  have small : field bytes 0 1 < 256 := field_lt bytes 0 1
  rw [length] at long
  change (parseFields { buffer := bytes.drop 0 }).1.hlen.toNat = _
  simp (disch := omega) only [parseFields, u8, parseInt_drop]
  rw [UInt8.toNat_and, UInt8.toNat_ofNat', headerLength, Nat.mod_eq_of_lt small]
  exact Nat.and_two_pow_sub_one_eq_mod _ 4

theorem parseFields_len (long : length ≤ bytes.length) :
    (parseFields { buffer := bytes }).1.len.toNat = totalLength bytes := by
  have small : field bytes 2 2 < 65536 := field_lt bytes 2 2
  rw [length] at long
  change (parseFields { buffer := bytes.drop 0 }).1.len.toNat = _
  simp (disch := omega) only [parseFields, u8, u16, parseInt_drop, Nat.reduceAdd]
  rw [UInt16.toNat_ofNat', totalLength]
  exact Nat.mod_eq_of_lt small

theorem ver_eq_iff (long : length ≤ bytes.length) :
    (parseFields { buffer := bytes }).1.ver = 4 ↔ version bytes = 4 := by
  rw [← UInt8.toNat_inj, parseFields_ver long]
  rfl

theorem hlen_lt_iff (long : length ≤ bytes.length) :
    (parseFields { buffer := bytes }).1.hlen < 5 ↔ headerLength bytes < 5 := by
  rw [UInt8.lt_iff_toNat_lt, parseFields_hlen long]
  rfl

/-- After an error the parser stands behind the fixed fields. -/
theorem parse_of_not_structured (header : IPv4Header) (long : length ≤ bytes.length)
    (broken : ¬ Structured bytes) :
    (header.parse { buffer := bytes }).2 =
      ((parseFields { buffer := bytes }).1, { buffer := bytes.drop length }) := by
  have rest := parseFields_rest long
  unfold parse
  dsimp only
  rw [if_neg (Nat.not_lt.mpr long), parseFields_hlen long, parseFields_len long, rest]
  split
  · rfl
  split
  · rfl
  split
  · rfl
  split
  · rfl
  rename_i room four words total
  refine absurd ⟨long, ?_, ?_, Nat.not_lt.mp room, (not_not.mp total).symm⟩ broken
  · exact (ver_eq_iff long).mp (not_not.mp four)
  · exact Nat.not_lt.mp (mt (hlen_lt_iff long).mpr words)

theorem headerLength_lt (bytes : Bytes) : headerLength bytes < 16 := Nat.mod_lt _ (by decide)

/-- The sum over a header cannot overflow. -/
theorem sumFits_header (bytes : Bytes) : SumFits 0 (bytes.take (4 * headerLength bytes)) := by
  have short := headerLength_lt bytes
  rw [SumFits, List.length_take]
  omega

/-- Otherwise the options are skipped, and only the checksum is left to be checked. -/
theorem parse_of_structured (header : IPv4Header) (structured : Structured bytes) :
    header.parse { buffer := bytes } =
      (if Verifies 0 (bytes.take (4 * headerLength bytes)) then .noError else .badChecksum,
        (parseFields { buffer := bytes }).1,
        { buffer := bytes.drop (4 * headerLength bytes) }) := by
  have long : length ≤ bytes.length := structured.1
  obtain ⟨-, four, words, room, total⟩ := structured
  have zero := InternetChecksum.value_eq_zero_iff (sumFits_header bytes).lt
  have skip : 20 + (headerLength bytes * 4 - 20) = 4 * headerLength bytes := by omega
  have holds : Holds (headerLength bytes * 4 - length) { buffer := bytes.drop length } := by
    refine ⟨rfl, ?_⟩
    rw [List.length_drop, length]
    omega
  unfold parse
  dsimp only
  rw [if_neg (Nat.not_lt.mpr long), parseFields_hlen long, parseFields_len long,
    parseFields_rest long, if_neg (Nat.not_lt.mpr room),
    if_neg (not_not.mpr ((ver_eq_iff long).mpr four)),
    if_neg (mt (hlen_lt_iff long).mp (Nat.not_lt.mpr words)), if_neg (not_not.mpr total.symm),
    removePrefix_of_holds holds, if_neg (not_not.mpr rfl), List.drop_drop, length, skip]
  by_cases verifies : Verifies 0 (bytes.take (4 * headerLength bytes))
  · rw [if_pos verifies, if_neg (not_not.mpr (zero.mpr verifies))]
  · rw [if_neg verifies, if_pos (mt zero.mp verifies)]

/-- The payload length wraps where the total length is below the header's. -/
theorem payloadLength_toNat (header : IPv4Header) :
    header.payloadLength.toNat =
      (2 ^ 16 + header.len.toNat - 4 * header.hlen.toNat) % 2 ^ 16 := by
  have small := header.hlen.toNat_lt
  rw [payloadLength, UInt16.toNat_sub, UInt16.toNat_mul, UInt8.toNat_toUInt16]
  simp only [UInt16.reduceToNat]
  omega

theorem toNat_add_le (a b : UInt32) : (a + b).toNat ≤ a.toNat + b.toNat := by
  rw [UInt32.toNat_add]
  exact Nat.mod_le _ _

theorem halves_le (a : UInt32) : ((a >>> 16) + (a &&& 0xffff)).toNat ≤ 2 * 65535 := by
  have high : (a >>> 16).toNat ≤ 65535 := by
    have small := a.toNat_lt
    rw [UInt32.toNat_shiftRight, Nat.shiftRight_eq_div_pow]
    change a.toNat / 2 ^ 16 ≤ 65535
    omega
  have low : (a &&& 0xffff).toNat ≤ 65535 := by
    rw [UInt32.toNat_and]
    exact Nat.and_le_right
  have sum := toNat_add_le (a >>> 16) (a &&& 0xffff)
  omega

/-- The pseudo-header adds five words and a byte. -/
theorem pseudoCksum_le (header : IPv4Header) : header.pseudoCksum.toNat ≤ 5 * 65535 + 255 := by
  let src := (header.src >>> 16) + (header.src &&& 0xffff)
  let dst := (header.dst >>> 16) + (header.dst &&& 0xffff)
  have addresses := toNat_add_le src dst
  have proto := toNat_add_le (src + dst) header.proto.toUInt32
  have length := toNat_add_le (src + dst + header.proto.toUInt32) header.payloadLength.toUInt32
  have srcSmall : src.toNat ≤ 2 * 65535 := halves_le header.src
  have dstSmall : dst.toNat ≤ 2 * 65535 := halves_le header.dst
  have protoSmall := header.proto.toNat_lt
  have lengthSmall := header.payloadLength.toNat_lt
  rw [UInt8.toNat_toUInt32] at proto
  rw [UInt16.toNat_toUInt32] at length
  change (src + dst + header.proto.toUInt32 + header.payloadLength.toUInt32).toNat ≤ _
  omega

end IPv4Header

namespace IPv4Datagram

/-- A structured datagram whose header checksum verifies. -/
def WellFormed (bytes : Bytes) : Prop :=
  Structured bytes ∧ Verifies 0 (bytes.take (4 * headerLength bytes))

instance (bytes : Bytes) : Decidable (WellFormed bytes) := by
  unfold WellFormed
  infer_instance

/--
The parser accepts the well-formed datagrams and no others, and the payload of an
accepted one is what follows its header.
-/
def ParsesExactly (datagram : IPv4Datagram) (bytes : Bytes) : Prop :=
  ((datagram.parse bytes).1 = .noError ↔ WellFormed bytes) ∧
    ((datagram.parse bytes).1 = .noError →
      (datagram.parse bytes).2.payload = bytes.drop (4 * headerLength bytes))

/-- What follows the fixed fields has the length the header gives the payload, modulo `2 ^ 16`. -/
def LengthsAgree (bytes : Bytes) : Prop :=
  bytes.length - 20 = (2 ^ 16 + totalLength bytes - 4 * headerLength bytes) % 2 ^ 16

/-- The malformed datagrams that are accepted by an object with a given header. -/
inductive SlipsThrough (datagram : IPv4Datagram) (bytes : Bytes) : Prop where
  /-- Too short to read: compared with the length left over from the header before. -/
  | leftover (short : bytes.length < 20)
      (agrees : bytes.length = datagram.header.payloadLength.toNat)
  /-- The result of the checksum is not looked at. -/
  | checksum (structured : Structured bytes)
      (broken : ¬ Verifies 0 (bytes.take (4 * headerLength bytes)))
  /-- The result of no other check is, either. -/
  | malformed (long : 20 ≤ bytes.length) (broken : ¬ Structured bytes)
      (agree : LengthsAgree bytes)

variable {datagram : IPv4Datagram} {bytes : Bytes}

/-- While the parser has not failed, only the length of the payload is looked at. -/
theorem parse_accepts_iff_length {header : IPv4Header} {rest : Bytes}
    (parsed : (datagram.header.parse { buffer := bytes }).2 = (header, { buffer := rest })) :
    (datagram.parse bytes).1 = .noError ↔ rest.length = header.payloadLength.toNat := by
  simp only [parse, parsed]
  split
  · rename_i differs
    exact iff_of_false ParseResult.noConfusion differs
  · rename_i agrees
    exact iff_of_true rfl (not_not.mp agrees)

theorem parse_short (short : bytes.length < 20) :
    (datagram.parse bytes).1 = .noError ↔
      bytes.length = datagram.header.payloadLength.toNat := by
  have unread : datagram.header.parse { buffer := bytes } =
      (.packetTooShort, datagram.header, { buffer := bytes }) := if_pos short
  exact parse_accepts_iff_length (congrArg Prod.snd unread)

theorem parse_broken (long : 20 ≤ bytes.length) (broken : ¬ Structured bytes) :
    (datagram.parse bytes).1 = .noError ↔ LengthsAgree bytes := by
  have parsed := datagram.header.parse_of_not_structured long broken
  rw [parse_accepts_iff_length parsed, IPv4Header.payloadLength_toNat,
    IPv4Header.parseFields_len long, IPv4Header.parseFields_hlen long, List.length_drop]
  exact Iff.rfl

theorem parse_structured (structured : Structured bytes) :
    datagram.parse bytes =
      (.noError, {
        header := (IPv4Header.parseFields { buffer := bytes }).1
        payload := bytes.drop (4 * headerLength bytes) }) := by
  have parsed := congrArg Prod.snd (datagram.header.parse_of_structured structured)
  obtain ⟨long, -, -, room, total⟩ := structured
  have small : totalLength bytes < 65536 := field_lt bytes 2 2
  simp only [parse, parsed, IPv4Header.payloadLength_toNat, IPv4Header.parseFields_len long,
    IPv4Header.parseFields_hlen long, List.length_drop]
  exact if_neg (not_not.mpr (by omega))

/-- A datagram is accepted exactly when it is well formed, unless it slips through. -/
theorem parse_exact_iff (datagram : IPv4Datagram) (bytes : Bytes) :
    datagram.ParsesExactly bytes ↔ ¬ SlipsThrough datagram bytes := by
  constructor
  · rintro ⟨accepts, -⟩ slips
    cases slips with
    | leftover short agrees =>
        have wellFormed := accepts.mp ((parse_short short).mpr agrees)
        exact Nat.not_lt.mpr wellFormed.1.1 short
    | checksum structured broken =>
        have wellFormed := accepts.mp (congrArg Prod.fst (parse_structured structured))
        exact broken wellFormed.2
    | malformed long broken agree =>
        have wellFormed := accepts.mp ((parse_broken long broken).mpr agree)
        exact broken wellFormed.1
  · intro caught
    by_cases structured : Structured bytes
    · have verifies : Verifies 0 (bytes.take (4 * headerLength bytes)) :=
        not_not.mp fun broken => caught (.checksum structured broken)
      rw [ParsesExactly, parse_structured structured]
      exact ⟨iff_of_true rfl ⟨structured, verifies⟩, fun _ => rfl⟩
    · have rejected : (datagram.parse bytes).1 ≠ .noError := by
        intro accepted
        rcases Nat.lt_or_ge bytes.length 20 with short | long
        · exact caught (.leftover short ((parse_short short).mp accepted))
        · exact caught (.malformed long structured ((parse_broken long structured).mp accepted))
      exact ⟨iff_of_false rejected fun wellFormed => structured wellFormed.1,
        fun accepted => absurd accepted rejected⟩

example : WellFormed [0x45, 0, 0, 20, 0, 0, 0, 0, 64, 6, 0x7a, 0xe5, 0, 0, 0, 0, 0, 0, 0, 0] := by
  decide

/-- A header without a payload, with zeros in the place of its checksum. -/
def unsealedPacket : Bytes := [0x45, 0, 0, 20, 0, 0, 0, 0, 64, 6, 0, 0, 0, 0, 0, 0, 0, 0, 0, 0]

/-- A header without a payload, of version 6, whose checksum verifies. -/
def versionSixPacket : Bytes :=
  [0x65, 0, 0, 20, 0, 0, 0, 0, 64, 6, 0x5a, 0xe5, 0, 0, 0, 0, 0, 0, 0, 0]

/-- Both are accepted by a new datagram, although the parser of the header fails on them. -/
theorem malformed_accepted :
    (IPv4Header.parse {} { buffer := unsealedPacket }).1 = .badChecksum ∧
      (IPv4Datagram.parse {} unsealedPacket).1 = .noError ∧ ¬ ParsesExactly {} unsealedPacket ∧
      (IPv4Header.parse {} { buffer := versionSixPacket }).1 = .wrongIPVersion ∧
      (IPv4Datagram.parse {} versionSixPacket).1 = .noError ∧
      ¬ ParsesExactly {} versionSixPacket := by
  refine ⟨by decide, by decide, fun exact => ?_, by decide, by decide, fun exact => ?_⟩
  · exact absurd (exact.1.mp (by decide)) (by decide)
  · exact absurd (exact.1.mp (by decide)) (by decide)

end IPv4Datagram

end Sponge
