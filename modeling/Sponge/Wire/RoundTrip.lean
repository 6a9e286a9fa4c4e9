import Sponge.Wire.Datagram
import Sponge.Wire.Segment

/-!
# Serializing and parsing back

The parser reads the fields of a header in the order in which the serializer
writes them, and drops as many bytes of padding as the serializer appends.  The
checksum stands at an even offset, 16 in a segment and 10 in a datagram, so
writing it there makes what it covers verify.
-/

namespace Sponge

namespace TCPHeader

open NetParser

/-- The bytes of a header before its checksum. -/
def front (header : TCPHeader) : Bytes :=
  NetUnparser.u16 [] header.sport ++ (NetUnparser.u16 [] header.dport ++
    (NetUnparser.u32 [] header.seqno.rawValue ++ (NetUnparser.u32 [] header.ackno.rawValue ++
      (NetUnparser.u8 [] (header.doff <<< 4) ++ (NetUnparser.u8 [] header.flagByte ++
        NetUnparser.u16 [] header.win)))))

/-- The padding in the place of the options. -/
def padding (header : TCPHeader) : Bytes := List.replicate (4 * header.doff.toNat - length) 0

/-- The bytes of a header after its checksum. -/
def back (header : TCPHeader) : Bytes := NetUnparser.u16 [] header.uptr ++ header.padding

theorem length_front (header : TCPHeader) : header.front.length = 16 := by
  simp [front, NetUnparser.u16, NetUnparser.u32, NetUnparser.u8, NetUnparser.length_unparseInt]

theorem length_back (header : TCPHeader) :
    header.back.length = 2 + (4 * header.doff.toNat - length) := by
  simp [back, padding, NetUnparser.u16, NetUnparser.length_unparseInt]

theorem not_doff_lt {doff : UInt8} (valid : 5 ≤ doff.toNat) : ¬ doff < 5 := by
  rw [UInt8.lt_iff_toNat_lt]
  exact Nat.not_lt.mpr valid

/-- What the serializer writes. -/
theorem serialize_eq {header : TCPHeader} (valid : 5 ≤ header.doff.toNat) :
    header.serialize =
      some (header.front ++ (NetUnparser.u16 [] header.cksum ++ header.back)) := by
  have size : (header.front ++ (NetUnparser.u16 [] header.cksum ++
      NetUnparser.u16 [] header.uptr)).length = length := by
    simp [length_front, NetUnparser.u16, NetUnparser.length_unparseInt, length]
  have fields : resize (header.front ++ (NetUnparser.u16 [] header.cksum ++
      NetUnparser.u16 [] header.uptr)) (4 * header.doff.toNat) =
        header.front ++ (NetUnparser.u16 [] header.cksum ++ header.back) := by
    rw [resize_of_le (by rw [size, length]; omega), size, back, padding, List.append_assoc,
      List.append_assoc]
  rw [serialize, if_neg (not_doff_lt valid), ← fields]
  simp only [front, NetUnparser.u16, NetUnparser.u32, NetUnparser.u8, NetUnparser.unparseInt_eq,
    List.nil_append, List.append_assoc]

/-- The flags are read back from their byte. -/
theorem flagByte_bits (header : TCPHeader) :
    (header.flagByte &&& 0b00100000 != 0) = header.urg ∧
      (header.flagByte &&& 0b00010000 != 0) = header.ack ∧
      (header.flagByte &&& 0b00001000 != 0) = header.psh ∧
      (header.flagByte &&& 0b00000100 != 0) = header.rst ∧
      (header.flagByte &&& 0b00000010 != 0) = header.syn ∧
      (header.flagByte &&& 0b00000001 != 0) = header.fin := by
  unfold flagByte
  cases header.urg <;> cases header.ack <;> cases header.psh <;> cases header.rst <;>
    cases header.syn <;> cases header.fin <;> decide

theorem shift_doff {doff : UInt8} (small : doff.toNat ≤ 15) : doff <<< 4 >>> 4 = doff := by
  apply UInt8.toNat_inj.mp
  rw [UInt8.toNat_shiftRight, UInt8.toNat_shiftLeft, Nat.shiftLeft_eq, Nat.shiftRight_eq_div_pow]
  simp only [UInt8.reduceToNat, Nat.reduceMod, Nat.reducePow]
  omega

/-- The fields of a header are read back. -/
theorem parseFields_front {header : TCPHeader} (small : header.doff.toNat ≤ 15) (rest : Bytes) :
    parseFields { buffer := header.front ++ (NetUnparser.u16 [] header.cksum ++
      (NetUnparser.u16 [] header.uptr ++ rest)) } = (header, { buffer := rest }) := by
  obtain ⟨urg, ack, psh, rst, syn, fin⟩ := header.flagByte_bits
  simp only [parseFields, front, List.append_assoc, u16_append, u32_append, u8_append, urg, ack,
    psh, rst, syn, fin, shift_doff small]

/-- A header is read back, and what followed it is left. -/
theorem parse_serialize (header : TCPHeader) (valid : 5 ≤ header.doff.toNat)
    (small : header.doff.toNat ≤ 15) (payload : Bytes) :
    parse { buffer := header.front ++ (NetUnparser.u16 [] header.cksum ++
      (header.back ++ payload)) } = (.noError, header, { buffer := payload }) := by
  have fields := parseFields_front small (header.padding ++ payload)
  have size : header.padding.length = header.doff.toNat * 4 - length := by
    rw [padding, List.length_replicate, Nat.mul_comm]
  have holds : Holds (header.doff.toNat * 4 - length) { buffer := header.padding ++ payload } := by
    refine ⟨rfl, ?_⟩
    rw [List.length_append, size]
    exact Nat.le_add_right _ _
  rw [back, List.append_assoc, parse, fields]
  dsimp only
  rw [if_neg (not_doff_lt valid), removePrefix_of_holds holds, List.drop_left' size]
  rfl

end TCPHeader

namespace TCPSegment

open InternetChecksum

/-- The bytes of a segment with a given checksum. -/
def wire (segment : TCPSegment) (cksum : UInt16) : Bytes :=
  segment.header.front ++ (NetUnparser.u16 [] cksum ++ (segment.header.back ++ segment.payload))

/-- The checksum the serializer writes: that of the segment with zeros in its place. -/
def checksum (segment : TCPSegment) (datagramLayerChecksum : Nat) : UInt16 :=
  (add { sum := datagramLayerChecksum } (segment.wire 0)).value

theorem length_wire {segment : TCPSegment} (valid : 5 ≤ segment.header.doff.toNat)
    (cksum : UInt16) :
    (segment.wire cksum).length = 4 * segment.header.doff.toNat + segment.payload.length := by
  simp only [wire, List.length_append, TCPHeader.length_front, TCPHeader.length_back,
    NetUnparser.u16, NetUnparser.length_unparseInt, List.length_nil, TCPHeader.length]
  omega

theorem serialize_eq {segment : TCPSegment} (valid : 5 ≤ segment.header.doff.toNat)
    (datagramLayerChecksum : Nat) :
    segment.serialize datagramLayerChecksum =
      some (segment.wire (segment.checksum datagramLayerChecksum)) := by
  have written (cksum : UInt16) : TCPHeader.serialize { segment.header with cksum := cksum } =
      some (segment.header.front ++ (NetUnparser.u16 [] cksum ++ segment.header.back)) :=
    TCPHeader.serialize_eq valid
  simp only [serialize, written, Option.bind_eq_bind, Option.bind_some, Option.pure_def, checksum,
    wire, ← add_append, List.append_assoc]

/-- The checksum makes the segment verify. -/
theorem verifies_wire {segment : TCPSegment} {datagramLayerChecksum : Nat}
    (fits : SumFits datagramLayerChecksum (segment.wire 0)) :
    Verifies datagramLayerChecksum (segment.wire (segment.checksum datagramLayerChecksum)) :=
  verifies_sealed (by rw [TCPHeader.length_front]) fits.lt

/-- A segment is read back, with the checksum the serializer writes. -/
theorem parse_wire {segment : TCPSegment} (prior : TCPSegment) {datagramLayerChecksum : Nat}
    (valid : 5 ≤ segment.header.doff.toNat) (small : segment.header.doff.toNat ≤ 15)
    (fits : datagramLayerChecksum +
      65535 * ((4 * segment.header.doff.toNat + segment.payload.length + 1) / 2) + 65535 < 2 ^ 32) :
    prior.parse (segment.wire (segment.checksum datagramLayerChecksum)) datagramLayerChecksum =
      (.noError, { segment with
        header := { segment.header with cksum := segment.checksum datagramLayerChecksum } }) := by
  have room (cksum : UInt16) : SumFits datagramLayerChecksum (segment.wire cksum) := by
    rw [SumFits, length_wire valid]
    omega
  let cksum := segment.checksum datagramLayerChecksum
  have parsed : TCPHeader.parse { buffer := segment.wire cksum } =
      (.noError, { segment.header with cksum := cksum }, { buffer := segment.payload }) :=
    TCPHeader.parse_serialize { segment.header with cksum := cksum } valid small segment.payload
  rw [parse_of_verifies prior (room cksum) (verifies_wire (room 0)), parsed]

/--
A segment with a data offset a header can have is serialized, and parsing the
bytes under the same pseudo-header gives the segment back, up to the checksum.
-/
theorem parse_serialized (segment prior : TCPSegment) (datagramLayerChecksum : Nat)
    (valid : 5 ≤ segment.header.doff.toNat) (small : segment.header.doff.toNat ≤ 15)
    (fits : datagramLayerChecksum +
      65535 * ((4 * segment.header.doff.toNat + segment.payload.length + 1) / 2) + 65535 < 2 ^ 32) :
    ∃ bytes cksum, segment.serialize datagramLayerChecksum = some bytes ∧
      prior.parse bytes datagramLayerChecksum =
        (.noError, { segment with header := { segment.header with cksum := cksum } }) := by
  have written := serialize_eq valid datagramLayerChecksum
  exact ⟨_, segment.checksum datagramLayerChecksum, written, parse_wire prior valid small fits⟩

/-- The hypotheses hold of a SYN with options and an odd payload. -/
theorem parse_serialized_syn :
    let segment : TCPSegment := { header := { doff := 6, syn := true }, payload := [1, 2, 3] }
    ∃ bytes cksum, segment.serialize 70000 = some bytes ∧
      TCPSegment.parse {} bytes 70000 =
        (.noError, { segment with header := { segment.header with cksum := cksum } }) :=
  parse_serialized _ {} 70000 (by decide) (by decide) (by decide)

end TCPSegment

namespace IPv4Header

open NetParser

/-- The bytes of a header before its checksum. -/
def front (header : IPv4Header) : Bytes :=
  NetUnparser.u8 [] header.firstByte ++ (NetUnparser.u8 [] header.tos ++
    (NetUnparser.u16 [] header.len ++ (NetUnparser.u16 [] header.id ++
      (NetUnparser.u16 [] header.foVal ++ (NetUnparser.u8 [] header.ttl ++
        NetUnparser.u8 [] header.proto)))))

/-- The padding in the place of the options. -/
def padding (header : IPv4Header) : Bytes := List.replicate (4 * header.hlen.toNat - length) 0

/-- The bytes of a header after its checksum. -/
def back (header : IPv4Header) : Bytes :=
  NetUnparser.u32 [] header.src ++ (NetUnparser.u32 [] header.dst ++ header.padding)

/-- The fields of a header lie in the bits the format has for them. -/
structure Encodable (header : IPv4Header) : Prop where
  ver : header.ver = 4
  hlen_ge : 5 ≤ header.hlen.toNat
  hlen_le : header.hlen.toNat ≤ 15
  offset : header.offset.toNat < 2 ^ 13

theorem length_front (header : IPv4Header) : header.front.length = 10 := by
  simp [front, NetUnparser.u16, NetUnparser.u8, NetUnparser.length_unparseInt]

theorem length_back (header : IPv4Header) :
    header.back.length = 8 + (4 * header.hlen.toNat - length) := by
  simp [back, padding, NetUnparser.u32, NetUnparser.length_unparseInt]
  omega

/-- What the serializer writes. -/
theorem serialize_eq {header : IPv4Header} (ver : header.ver = 4) (valid : 5 ≤ header.hlen.toNat) :
    header.serialize =
      some (header.front ++ (NetUnparser.u16 [] header.cksum ++ header.back)) := by
  have size : (header.front ++ (NetUnparser.u16 [] header.cksum ++
      (NetUnparser.u32 [] header.src ++ NetUnparser.u32 [] header.dst))).length = length := by
    simp [length_front, NetUnparser.u16, NetUnparser.u32, NetUnparser.length_unparseInt, length]
  have fields : resize (header.front ++ (NetUnparser.u16 [] header.cksum ++
      (NetUnparser.u32 [] header.src ++ NetUnparser.u32 [] header.dst)))
        (4 * header.hlen.toNat) =
      header.front ++ (NetUnparser.u16 [] header.cksum ++ header.back) := by
    rw [resize_of_le (by rw [size, length]; omega), size, back, padding]
    simp only [List.append_assoc]
  have enough : ¬ 4 * header.hlen.toNat < length := by
    rw [length]
    omega
  rw [serialize, if_neg (not_not.mpr ver), if_neg enough, ← fields]
  simp only [front, NetUnparser.u16, NetUnparser.u32, NetUnparser.u8, NetUnparser.unparseInt_eq,
    List.nil_append, List.append_assoc]

theorem firstByte_toNat {header : IPv4Header} (encodable : header.Encodable) :
    header.firstByte.toNat = 4 * 16 + header.hlen.toNat := by
  have small : header.hlen.toNat < 2 ^ 4 := Nat.lt_succ_of_le encodable.hlen_le
  have low : header.hlen.toNat &&& 0xf = header.hlen.toNat :=
    (Nat.and_two_pow_sub_one_eq_mod _ 4).trans (Nat.mod_eq_of_lt small)
  rw [firstByte, encodable.ver, UInt8.toNat_or, UInt8.toNat_and]
  change 4 <<< 4 ||| (header.hlen.toNat &&& 0xf) = _
  rw [low, ← Nat.shiftLeft_add_eq_or_of_lt small]
  rfl

/-- The version and the length are read back from their byte. -/
theorem firstByte_halves {header : IPv4Header} (encodable : header.Encodable) :
    header.firstByte >>> 4 = header.ver ∧ header.firstByte &&& 0x0f = header.hlen := by
  have value := firstByte_toNat encodable
  have small := encodable.hlen_le
  refine ⟨UInt8.toNat_inj.mp ?_, UInt8.toNat_inj.mp ?_⟩
  · rw [encodable.ver, UInt8.toNat_shiftRight, value]
    change (4 * 16 + header.hlen.toNat) >>> 4 = 4
    rw [Nat.shiftRight_eq_div_pow]
    omega
  · rw [UInt8.toNat_and, value]
    refine (Nat.and_two_pow_sub_one_eq_mod _ 4).trans ?_
    omega

/-- A mask takes from the flags and the offset what it takes from each of them. -/
theorem foVal_and (header : IPv4Header) (mask : UInt16) :
    header.foVal &&& mask =
      ((if header.df then 0x4000 else 0) &&& mask) ||| ((if header.mf then 0x2000 else 0) &&& mask)
        ||| (header.offset &&& (0x1fff &&& mask)) := by
  apply UInt16.toNat_inj.mp
  simp only [foVal, UInt16.toNat_and, UInt16.toNat_or, Nat.and_or_distrib_right, Nat.and_assoc]

/-- The flags and the offset are read back from their 16 bits. -/
theorem foVal_bits {header : IPv4Header} (encodable : header.Encodable) :
    (header.foVal &&& 0x4000 != 0) = header.df ∧ (header.foVal &&& 0x2000 != 0) = header.mf ∧
      header.foVal &&& 0x1fff = header.offset := by
  have noDf : (0x1fff : UInt16) &&& 0x4000 = 0 := by decide
  have noMf : (0x1fff : UInt16) &&& 0x2000 = 0 := by decide
  have low : header.offset &&& (0x1fff &&& 0x1fff) = header.offset := by
    apply UInt16.toNat_inj.mp
    rw [UInt16.and_self, UInt16.toNat_and]
    exact (Nat.and_two_pow_sub_one_eq_mod _ 13).trans (Nat.mod_eq_of_lt encodable.offset)
  refine ⟨?_, ?_, ?_⟩
  · rw [foVal_and, noDf, UInt16.and_zero, UInt16.or_zero]
    cases header.df <;> cases header.mf <;> decide
  · rw [foVal_and, noMf, UInt16.and_zero, UInt16.or_zero]
    cases header.df <;> cases header.mf <;> decide
  · have noFlags : ((if header.df then 0x4000 else 0 : UInt16) &&& 0x1fff) |||
        ((if header.mf then 0x2000 else 0) &&& 0x1fff) = 0 := by
      cases header.df <;> cases header.mf <;> decide
    rw [foVal_and, noFlags, low, UInt16.zero_or]

/-- The fields of a header are read back. -/
theorem parseFields_front {header : IPv4Header} (encodable : header.Encodable) (rest : Bytes) :
    parseFields { buffer := header.front ++ (NetUnparser.u16 [] header.cksum ++
      (NetUnparser.u32 [] header.src ++ (NetUnparser.u32 [] header.dst ++ rest))) } =
        (header, { buffer := rest }) := by
  obtain ⟨ver, hlen⟩ := firstByte_halves encodable
  obtain ⟨df, mf, offset⟩ := foVal_bits encodable
  simp only [parseFields, front, List.append_assoc, u16_append, u32_append, u8_append, ver, hlen,
    df, mf, offset]

end IPv4Header

namespace IPv4Datagram

open InternetChecksum IPv4Header

/-- The bytes of a header with a given checksum. -/
def headerWire (datagram : IPv4Datagram) (cksum : UInt16) : Bytes :=
  datagram.header.front ++ (NetUnparser.u16 [] cksum ++ datagram.header.back)

/-- The checksum the serializer writes: that of the header with zeros in its place. -/
def checksum (datagram : IPv4Datagram) : UInt16 := (add { sum := 0 } (datagram.headerWire 0)).value

/-- A header that can be encoded, and a payload as long as the header says. -/
structure Consistent (datagram : IPv4Datagram) : Prop where
  encodable : datagram.header.Encodable
  total : 4 * datagram.header.hlen.toNat ≤ datagram.header.len.toNat
  payload : datagram.payload.length = datagram.header.len.toNat - 4 * datagram.header.hlen.toNat

variable {datagram : IPv4Datagram}

theorem length_headerWire (valid : 5 ≤ datagram.header.hlen.toNat) (cksum : UInt16) :
    (datagram.headerWire cksum).length = 4 * datagram.header.hlen.toNat := by
  simp only [headerWire, List.length_append, length_front, length_back, NetUnparser.u16,
    NetUnparser.length_unparseInt, List.length_nil, length]
  omega

theorem Consistent.payloadLength_eq (consistent : datagram.Consistent) :
    datagram.header.payloadLength.toNat = datagram.payload.length := by
  have total := consistent.total
  have small := datagram.header.len.toNat_lt
  rw [payloadLength_toNat, consistent.payload]
  omega

theorem serialize_eq (consistent : datagram.Consistent) :
    datagram.serialize = some (datagram.headerWire datagram.checksum ++ datagram.payload) := by
  have written (cksum : UInt16) : IPv4Header.serialize { datagram.header with cksum := cksum } =
      some (datagram.headerWire cksum) :=
    IPv4Header.serialize_eq consistent.encodable.ver consistent.encodable.hlen_ge
  rw [serialize, if_neg (not_not.mpr consistent.payloadLength_eq.symm)]
  simp only [written, Option.bind_eq_bind, Option.bind_some, Option.pure_def, checksum]

/-- The fields of a serialized datagram are read back. -/
theorem parseFields_wire (encodable : datagram.header.Encodable) (cksum : UInt16) :
    (parseFields { buffer := datagram.headerWire cksum ++ datagram.payload }).1 =
      { datagram.header with cksum := cksum } := by
  let header : IPv4Header := { datagram.header with cksum := cksum }
  have sealed : header.Encodable :=
    ⟨encodable.ver, encodable.hlen_ge, encodable.hlen_le, encodable.offset⟩
  have fields := parseFields_front sealed (datagram.header.padding ++ datagram.payload)
  have bytes : datagram.headerWire cksum ++ datagram.payload =
      header.front ++ (NetUnparser.u16 [] header.cksum ++ (NetUnparser.u32 [] header.src ++
        (NetUnparser.u32 [] header.dst ++ (datagram.header.padding ++ datagram.payload)))) := by
    simp only [headerWire, back, List.append_assoc]
    rfl
  rw [bytes, fields]

/-- A serialized datagram is structured, with the header length of the datagram. -/
theorem structured_wire (consistent : datagram.Consistent) (cksum : UInt16) :
    Structured (datagram.headerWire cksum ++ datagram.payload) ∧
      headerLength (datagram.headerWire cksum ++ datagram.payload) =
        datagram.header.hlen.toNat := by
  have valid := consistent.encodable.hlen_ge
  have total := consistent.total
  have size : (datagram.headerWire cksum ++ datagram.payload).length =
      datagram.header.len.toNat := by
    rw [List.length_append, length_headerWire valid, consistent.payload]
    omega
  have long : IPv4Header.length ≤ (datagram.headerWire cksum ++ datagram.payload).length := by
    rw [size, IPv4Header.length]
    omega
  have ver := parseFields_ver long
  have hlen := parseFields_hlen long
  have len := parseFields_len long
  rw [parseFields_wire consistent.encodable] at ver hlen len
  dsimp only at ver hlen len
  refine ⟨⟨long, ?_, ?_, ?_, ?_⟩, hlen.symm⟩
  · rw [← ver, consistent.encodable.ver]
    rfl
  · rwa [← hlen]
  · rwa [← hlen, size]
  · rw [← len, size]

/-- The checksum makes the header verify. -/
theorem verifies_headerWire (encodable : datagram.header.Encodable) :
    Verifies 0 (datagram.headerWire datagram.checksum) := by
  have fits : SumFits 0 (datagram.headerWire 0) := by
    have small := encodable.hlen_le
    rw [SumFits, length_headerWire encodable.hlen_ge]
    omega
  exact verifies_sealed (by rw [length_front]) fits.lt

/-- A datagram is read back, whatever its checksum says. -/
theorem parse_wire (prior : IPv4Datagram) (consistent : datagram.Consistent) (cksum : UInt16) :
    prior.parse (datagram.headerWire cksum ++ datagram.payload) =
      (.noError, { datagram with header := { datagram.header with cksum := cksum } }) := by
  obtain ⟨structured, hlen⟩ := structured_wire consistent cksum
  have size := length_headerWire consistent.encodable.hlen_ge cksum
  rw [parse_structured structured, parseFields_wire consistent.encodable, hlen,
    List.drop_left' size]

/--
A datagram whose fields fit their bits and whose payload has the length its header
gives is serialized; the header's parser accepts the bytes, and parsing them gives
the datagram back, up to the checksum.
-/
theorem parse_serialized_datagram (datagram prior : IPv4Datagram) (priorHeader : IPv4Header)
    (consistent : datagram.Consistent) :
    ∃ bytes cksum, datagram.serialize = some bytes ∧
      (priorHeader.parse { buffer := bytes }).1 = .noError ∧
      prior.parse bytes =
        (.noError, { datagram with header := { datagram.header with cksum := cksum } }) := by
  let cksum := datagram.checksum
  let bytes := datagram.headerWire cksum ++ datagram.payload
  obtain ⟨structured, hlen⟩ := structured_wire consistent cksum
  have verifies : Verifies 0 (bytes.take (4 * headerLength bytes)) := by
    rw [hlen, List.take_left' (length_headerWire consistent.encodable.hlen_ge cksum)]
    exact verifies_headerWire consistent.encodable
  refine ⟨bytes, cksum, serialize_eq consistent, ?_, parse_wire prior consistent cksum⟩
  rw [parse_of_structured priorHeader structured, if_pos verifies]

/-- The hypotheses hold of a fragment with options and an odd payload. -/
theorem parse_serialized_fragment :
    let datagram : IPv4Datagram := {
      header := { hlen := 6, len := 27, mf := true, offset := 8191, proto := 17, dst := 0x0a000001 }
      payload := [1, 2, 3] }
    datagram.Consistent ∧ ∃ bytes cksum, datagram.serialize = some bytes ∧
      (IPv4Header.parse {} { buffer := bytes }).1 = .noError ∧
      IPv4Datagram.parse {} bytes =
        (.noError, { datagram with header := { datagram.header with cksum := cksum } }) := by
  intro datagram
  have consistent : datagram.Consistent :=
    ⟨⟨rfl, by decide, by decide, by decide⟩, by decide, by decide⟩
  exact ⟨consistent, parse_serialized_datagram datagram {} {} consistent⟩

end IPv4Datagram

end Sponge
