import Sponge.Model.Ethernet

/-!
# What Ethernet and ARP parsers accept

Every byte of these formats belongs to a field, so enough bytes are the serialization
of exactly one header; a message must moreover be supported.  A frame that is too
short for its header is not refused: the error of the header's parser is dropped.
-/

namespace Sponge

open NetParser

namespace EthernetAddress

theorem foldl_u8 (bytes s : Bytes) : bytes.foldl NetUnparser.u8 s = s ++ bytes := by
  induction bytes generalizing s with
  | nil => exact (List.append_nil s).symm
  | cons byte bytes ih =>
      have one : NetUnparser.u8 s byte = s ++ [byte] := by
        rw [NetUnparser.u8, NetUnparser.unparseInt_eq, BigEndian.ofNat, BigEndian.ofNat,
          Nat.pow_zero, Nat.div_one, UInt8.ofNat_toNat]
      rw [List.foldl_cons, ih, one, List.append_assoc, List.singleton_append]

theorem serialize_eq (s : Bytes) (address : EthernetAddress) :
    serialize s address = s ++ address.1 := foldl_u8 address.1 s

theorem u8s_append (bytes rest : Bytes) :
    u8s bytes.length { buffer := bytes ++ rest } = (bytes, { buffer := rest }) := by
  induction bytes with
  | nil => rfl
  | cons byte bytes ih =>
      have one : (byte :: bytes) ++ rest = NetUnparser.u8 [] byte ++ (bytes ++ rest) := by
        have first := foldl_u8 [byte] []
        rw [List.foldl_cons, List.foldl_nil, List.nil_append] at first
        rw [first]
        rfl
      rw [List.length_cons, u8s, one, u8_append, ih]

@[simp] theorem parse_append (address : EthernetAddress) (rest : Bytes) :
    parse { buffer := address.1 ++ rest } = (address, { buffer := rest }) := by
  have read := u8s_append address.1 rest
  rw [address.2] at read
  rw [parse, Prod.mk.injEq]
  exact ⟨Subtype.ext (congrArg Prod.fst read), congrArg Prod.snd read⟩

/-- Six bytes are an address. -/
theorem exists_address {bytes : Bytes} (fits : 6 ≤ bytes.length) :
    ∃ (address : EthernetAddress) (rest : Bytes), bytes = address.1 ++ rest :=
  ⟨⟨bytes.take 6, List.length_take_of_le fits⟩, bytes.drop 6, (List.take_append_drop 6 bytes).symm⟩

end EthernetAddress

open EthernetAddress

/-! ## Frames -/

namespace EthernetHeader

theorem serialize_eq (header : EthernetHeader) :
    header.serialize = header.dst.1 ++ (header.src.1 ++ NetUnparser.u16 [] header.type) := by
  simp only [serialize, EthernetAddress.serialize_eq, NetUnparser.u16, NetUnparser.unparseInt_eq,
    List.nil_append, List.append_assoc]

theorem length_serialize (header : EthernetHeader) : header.serialize.length = length := by
  rw [serialize_eq, List.length_append, List.length_append, header.dst.2, header.src.2,
    NetUnparser.u16, NetUnparser.length_unparseInt]
  rfl

theorem parse_append (prior header : EthernetHeader) (rest : Bytes) :
    prior.parse { buffer := header.serialize ++ rest } =
      (.noError, header, { buffer := rest }) := by
  have fits : ¬ (header.serialize ++ rest).length < length := by
    rw [List.length_append, length_serialize]
    omega
  rw [parse, if_neg fits, serialize_eq]
  simp only [List.append_assoc, EthernetAddress.parse_append, u16_append]

/-- Fourteen bytes are a header. -/
theorem exists_header {bytes : Bytes} (fits : length ≤ bytes.length) :
    ∃ (header : EthernetHeader) (rest : Bytes), bytes = header.serialize ++ rest := by
  rw [length] at fits
  obtain ⟨dst, rest, rfl⟩ := exists_address (show 6 ≤ bytes.length by omega)
  rw [List.length_append, dst.2] at fits
  obtain ⟨src, rest, rfl⟩ := exists_address (show 6 ≤ rest.length by omega)
  rw [List.length_append, src.2] at fits
  obtain ⟨type, rest, rfl⟩ := exists_u16 (show 2 ≤ rest.length by omega)
  refine ⟨{ dst, src, type }, rest, ?_⟩
  rw [serialize_eq, List.append_assoc, List.append_assoc]

end EthernetHeader

namespace EthernetFrame

/-- A frame is read back. -/
theorem parse_serialize (frame other : EthernetFrame) :
    frame.parse other.serialize = (.noError, other) := by
  rw [serialize, parse, EthernetHeader.parse_append]

/--
Parsing a frame never fails.  With enough bytes for a header it yields the one frame
that is serialized to these bytes; with fewer, which no frame is serialized to, it
keeps the header it had and takes all bytes for the payload.
-/
theorem frames_parse_exactly (frame : EthernetFrame) (buffer : Bytes) :
    (frame.parse buffer).1 = .noError ∧
      (EthernetHeader.length ≤ buffer.length →
        ∀ other, (frame.parse buffer).2 = other ↔ other.serialize = buffer) ∧
      (buffer.length < EthernetHeader.length →
        (frame.parse buffer).2 = { frame with payload := buffer } ∧
          ∀ other : EthernetFrame, other.serialize ≠ buffer) := by
  by_cases fits : EthernetHeader.length ≤ buffer.length
  · obtain ⟨header, payload, split⟩ := EthernetHeader.exists_header fits
    have written : ({ header, payload } : EthernetFrame).serialize = buffer := split.symm
    have parsed := frame.parse_serialize { header, payload }
    rw [written] at parsed
    refine ⟨by rw [parsed], fun _ other => ?_, fun short => absurd fits (Nat.not_le.mpr short)⟩
    constructor
    · intro same
      rw [← same, parsed]
      exact written
    · rintro rfl
      rw [parse_serialize]
  · have short := Nat.not_le.mp fits
    have parsed : frame.parse buffer = (.noError, { frame with payload := buffer }) := by
      rw [parse, EthernetHeader.parse, if_pos short]
    refine ⟨by rw [parsed], fun enough => absurd enough fits, fun _ => ⟨by rw [parsed], ?_⟩⟩
    rintro other rfl
    rw [serialize, List.length_append, EthernetHeader.length_serialize] at short
    omega

end EthernetFrame

/-! ## ARP messages -/

namespace ARPMessage

/-- The bytes of a message. -/
def wire (message : ARPMessage) : Bytes :=
  NetUnparser.u16 [] message.hardwareType ++ (NetUnparser.u16 [] message.protocolType ++
    (NetUnparser.u8 [] message.hardwareAddressSize ++
      (NetUnparser.u8 [] message.protocolAddressSize ++ (NetUnparser.u16 [] message.opcode ++
        (message.senderEthernetAddress.1 ++ (NetUnparser.u32 [] message.senderIpAddress ++
          (message.targetEthernetAddress.1 ++ NetUnparser.u32 [] message.targetIpAddress)))))))

theorem serialize_eq (message : ARPMessage) :
    message.serialize = if message.supported then some message.wire else none := by
  rw [serialize]
  cases message.supported with
  | false => rfl
  | true =>
      simp only [Bool.true_eq_false, if_false, if_true, wire, EthernetAddress.serialize_eq,
        NetUnparser.u16, NetUnparser.u32, NetUnparser.u8, NetUnparser.unparseInt_eq,
        List.nil_append, List.append_assoc]

theorem length_wire (message : ARPMessage) : message.wire.length = length := by
  simp only [wire, List.length_append, message.senderEthernetAddress.2,
    message.targetEthernetAddress.2, NetUnparser.u16, NetUnparser.u32, NetUnparser.u8,
    NetUnparser.length_unparseInt, List.length_nil]
  rfl

/-- Twenty-eight bytes are those of a message. -/
theorem exists_wire {bytes : Bytes} (fits : length ≤ bytes.length) :
    ∃ (message : ARPMessage) (rest : Bytes), bytes = message.wire ++ rest := by
  have size : ∀ (len val : Nat) (rest : Bytes),
      (NetUnparser.unparseInt len [] val ++ rest).length = len + rest.length := by
    intro len val rest
    rw [List.length_append, NetUnparser.length_unparseInt, List.length_nil, Nat.zero_add]
  rw [length] at fits
  obtain ⟨hardwareType, rest, rfl⟩ := exists_u16 (show 2 ≤ bytes.length by omega)
  rw [NetUnparser.u16, size] at fits
  obtain ⟨protocolType, rest, rfl⟩ := exists_u16 (show 2 ≤ rest.length by omega)
  rw [NetUnparser.u16, size] at fits
  obtain ⟨hardwareAddressSize, rest, rfl⟩ := exists_u8 (show 1 ≤ rest.length by omega)
  rw [NetUnparser.u8, size] at fits
  obtain ⟨protocolAddressSize, rest, rfl⟩ := exists_u8 (show 1 ≤ rest.length by omega)
  rw [NetUnparser.u8, size] at fits
  obtain ⟨opcode, rest, rfl⟩ := exists_u16 (show 2 ≤ rest.length by omega)
  rw [NetUnparser.u16, size] at fits
  obtain ⟨senderEthernetAddress, rest, rfl⟩ := exists_address (show 6 ≤ rest.length by omega)
  rw [List.length_append, senderEthernetAddress.2] at fits
  obtain ⟨senderIpAddress, rest, rfl⟩ := exists_u32 (show 4 ≤ rest.length by omega)
  rw [NetUnparser.u32, size] at fits
  obtain ⟨targetEthernetAddress, rest, rfl⟩ := exists_address (show 6 ≤ rest.length by omega)
  rw [List.length_append, targetEthernetAddress.2] at fits
  obtain ⟨targetIpAddress, rest, rfl⟩ := exists_u32 (show 4 ≤ rest.length by omega)
  refine ⟨⟨hardwareType, protocolType, hardwareAddressSize, protocolAddressSize, opcode,
    senderEthernetAddress, senderIpAddress, targetEthernetAddress, targetIpAddress⟩, rest, ?_⟩
  simp only [wire, List.append_assoc]

/-- The bytes of a message are read back if it is supported. -/
theorem parse_wire (prior message : ARPMessage) (rest : Bytes) :
    (message.supported = true → prior.parse (message.wire ++ rest) = (.noError, message)) ∧
      (message.supported = false → (prior.parse (message.wire ++ rest)).1 = .unsupported) := by
  have fits : ¬ (message.wire ++ rest).length < length := by
    rw [List.length_append, length_wire]
    omega
  have kind : ({ prior with
      hardwareType := message.hardwareType
      protocolType := message.protocolType
      hardwareAddressSize := message.hardwareAddressSize
      protocolAddressSize := message.protocolAddressSize
      opcode := message.opcode } : ARPMessage).supported = message.supported := rfl
  simp only [parse, if_neg fits]
  simp only [wire, List.append_assoc, u16_append, u8_append, kind]
  constructor
  · intro known
    simp only [known, Bool.true_eq_false, if_false, EthernetAddress.parse_append, u32_append]
  · intro unknown
    rw [if_pos unknown]

/-- A serialized message is read back, whatever follows it. -/
theorem parse_serialize (prior : ARPMessage) {message : ARPMessage} {bytes : Bytes} (rest : Bytes)
    (written : message.serialize = some bytes) :
    prior.parse (bytes ++ rest) = (.noError, message) := by
  rw [serialize_eq] at written
  split_ifs at written with known
  obtain rfl := Option.some.inj written
  exact (parse_wire prior message rest).1 known

/-- The three outcomes of the parser. -/
theorem parse_cases (prior : ARPMessage) (buffer : Bytes) :
    buffer.length < length ∧ (prior.parse buffer).1 = .packetTooShort ∨
      length ≤ buffer.length ∧ (prior.parse buffer).1 = .unsupported ∨
      length ≤ buffer.length ∧ ∃ message bytes rest, message.serialize = some bytes ∧
        buffer = bytes ++ rest ∧ prior.parse buffer = (.noError, message) := by
  rcases Nat.lt_or_ge buffer.length length with short | fits
  · exact .inl ⟨short, by rw [parse, if_pos short]⟩
  · obtain ⟨message, rest, rfl⟩ := exists_wire fits
    obtain ⟨reads, refuses⟩ := parse_wire prior message rest
    cases known : message.supported with
    | false => exact .inr (.inl ⟨fits, refuses known⟩)
    | true =>
        have written : message.serialize = some message.wire := by rw [serialize_eq, if_pos known]
        exact .inr (.inr ⟨fits, message, message.wire, rest, written, rfl, reads known⟩)

/--
The parser of messages is exact.  It accepts a buffer, with a given message, just if the
buffer begins with the serialization of that message, whatever follows; it refuses
a buffer of fewer than twenty-eight bytes as too short, and any other as unsupported.
-/
theorem messages_parse_exactly (prior : ARPMessage) (buffer : Bytes) :
    (∀ message, prior.parse buffer = (.noError, message) ↔
        ∃ bytes rest, message.serialize = some bytes ∧ buffer = bytes ++ rest) ∧
      ((prior.parse buffer).1 = .packetTooShort ↔ buffer.length < length) ∧
      ((prior.parse buffer).1 ≠ .noError → length ≤ buffer.length →
        (prior.parse buffer).1 = .unsupported) := by
  have accepts : ∀ message, (∃ bytes rest, message.serialize = some bytes ∧
      buffer = bytes ++ rest) → prior.parse buffer = (.noError, message) := by
    rintro message ⟨bytes, rest, written, rfl⟩
    exact parse_serialize prior rest written
  have fails : ∀ message, (prior.parse buffer).1 ≠ .noError →
      prior.parse buffer ≠ (.noError, message) :=
    fun message failed same => failed (congrArg Prod.fst same)
  rcases parse_cases prior buffer with ⟨short, result⟩ | ⟨fits, result⟩ |
    ⟨fits, found, bytes, rest, written, split, result⟩
  · have failed : (prior.parse buffer).1 ≠ .noError := by rw [result]; decide
    exact ⟨fun message => ⟨fun same => absurd same (fails message failed), accepts message⟩,
      ⟨fun _ => short, fun _ => result⟩, fun _ fits => absurd fits (Nat.not_le.mpr short)⟩
  · have failed : (prior.parse buffer).1 ≠ .noError := by rw [result]; decide
    refine ⟨fun message => ⟨fun same => absurd same (fails message failed), accepts message⟩,
      ⟨fun short => ?_, fun short => absurd fits (Nat.not_le.mpr short)⟩, fun _ _ => result⟩
    exact absurd (result.symm.trans short) (by decide)
  · have fine : (prior.parse buffer).1 = .noError := congrArg Prod.fst result
    refine ⟨fun message => ⟨fun same => ?_, accepts message⟩,
      ⟨fun short => ?_, fun short => absurd fits (Nat.not_le.mpr short)⟩,
      fun failed => absurd fine failed⟩
    · obtain rfl : found = message := congrArg Prod.snd (result.symm.trans same)
      exact ⟨bytes, rest, written, split⟩
    · exact absurd (fine.symm.trans short) (by decide)

end ARPMessage

end Sponge
