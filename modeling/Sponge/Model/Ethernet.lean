import Sponge.Model.Parser

/-!
# Ethernet frames and ARP messages

`tcp_helpers/ethernet_header.cc`, `tcp_helpers/ethernet_frame.cc` and
`tcp_helpers/arp_message.cc`.  Parsing overwrites the object it is called on, as far
as it gets.  An exception of a serializer is `none`.
-/

namespace Sponge

/-- Read `n` bytes, one after the other. -/
def NetParser.u8s : Nat → NetParser → Bytes × NetParser
  | 0, p => ([], p)
  | n + 1, p =>
      let byte := p.u8
      let rest := u8s n byte.2
      (byte.1 :: rest.1, rest.2)

theorem NetParser.length_u8s (n : Nat) (p : NetParser) : (p.u8s n).1.length = n := by
  induction n generalizing p with
  | zero => rfl
  | succ n ih => rw [u8s, List.length_cons, ih]

/-- Six bytes. -/
abbrev EthernetAddress := { bytes : Bytes // bytes.length = 6 }

namespace EthernetAddress

def zero : EthernetAddress := ⟨[0, 0, 0, 0, 0, 0], rfl⟩

/-- The loop over the bytes of an address. -/
def parse (p : NetParser) : EthernetAddress × NetParser :=
  (⟨(p.u8s 6).1, p.length_u8s 6⟩, (p.u8s 6).2)

def serialize (s : Bytes) (address : EthernetAddress) : Bytes :=
  address.1.foldl NetUnparser.u8 s

end EthernetAddress

/-- The header of a frame. -/
structure EthernetHeader where
  dst : EthernetAddress := .zero
  src : EthernetAddress := .zero
  type : UInt16 := 0
  deriving DecidableEq

namespace EthernetHeader

/-- `LENGTH`: the header length. -/
def length : Nat := 14

/-- `TYPE_IPv4`. -/
def typeIPv4 : UInt16 := 0x800

/-- Parse the header from the front of the buffer. -/
def parse (header : EthernetHeader) (p : NetParser) : ParseResult × EthernetHeader × NetParser :=
  if p.buffer.length < length then (.packetTooShort, header, p)
  else
    let dst := EthernetAddress.parse p
    let src := EthernetAddress.parse dst.2
    let type := src.2.u16
    (type.2.error, { dst := dst.1, src := src.1, type := type.1 }, type.2)

def serialize (header : EthernetHeader) : Bytes :=
  let ret := EthernetAddress.serialize [] header.dst
  let ret := EthernetAddress.serialize ret header.src
  NetUnparser.u16 ret header.type

end EthernetHeader

/-- A frame. -/
structure EthernetFrame where
  header : EthernetHeader := {}
  payload : Bytes := []
  deriving DecidableEq

namespace EthernetFrame

/-- Parse the frame; what the parser of the header returns is not looked at. -/
def parse (frame : EthernetFrame) (buffer : Bytes) : ParseResult × EthernetFrame :=
  let p : NetParser := { buffer }
  let (_, header, p) := frame.header.parse p
  (p.error, { header, payload := p.buffer })

def serialize (frame : EthernetFrame) : Bytes := frame.header.serialize ++ frame.payload

end EthernetFrame

/-- An ARP message. -/
structure ARPMessage where
  hardwareType : UInt16 := 1
  protocolType : UInt16 := EthernetHeader.typeIPv4
  hardwareAddressSize : UInt8 := 6
  protocolAddressSize : UInt8 := 4
  opcode : UInt16 := 0
  senderEthernetAddress : EthernetAddress := .zero
  senderIpAddress : UInt32 := 0
  targetEthernetAddress : EthernetAddress := .zero
  targetIpAddress : UInt32 := 0
  deriving DecidableEq

namespace ARPMessage

/-- `LENGTH`: the length of a message. -/
def length : Nat := 28

/-- `TYPE_ETHERNET`. -/
def typeEthernet : UInt16 := 1

/-- `OPCODE_REQUEST`. -/
def opcodeRequest : UInt16 := 1

/-- `OPCODE_REPLY`. -/
def opcodeReply : UInt16 := 2

/-- Is this type of message supported by the parser? -/
def supported (message : ARPMessage) : Bool :=
  message.hardwareType = typeEthernet && message.protocolType = EthernetHeader.typeIPv4 &&
    message.hardwareAddressSize = 6 && message.protocolAddressSize = 4 &&
    (message.opcode = opcodeRequest || message.opcode = opcodeReply)

/-- Parse a message from the front of the buffer. -/
def parse (message : ARPMessage) (buffer : Bytes) : ParseResult × ARPMessage :=
  let p : NetParser := { buffer }
  if p.buffer.length < length then (.packetTooShort, message)
  else
    let hardwareType := p.u16
    let protocolType := hardwareType.2.u16
    let hardwareAddressSize := protocolType.2.u8
    let protocolAddressSize := hardwareAddressSize.2.u8
    let opcode := protocolAddressSize.2.u16
    let message := { message with
      hardwareType := hardwareType.1
      protocolType := protocolType.1
      hardwareAddressSize := hardwareAddressSize.1
      protocolAddressSize := protocolAddressSize.1
      opcode := opcode.1 }
    if message.supported = false then (.unsupported, message)
    else
      let senderEthernetAddress := EthernetAddress.parse opcode.2
      let senderIpAddress := senderEthernetAddress.2.u32
      let targetEthernetAddress := EthernetAddress.parse senderIpAddress.2
      let targetIpAddress := targetEthernetAddress.2.u32
      (targetIpAddress.2.error, { message with
        senderEthernetAddress := senderEthernetAddress.1
        senderIpAddress := senderIpAddress.1
        targetEthernetAddress := targetEthernetAddress.1
        targetIpAddress := targetIpAddress.1 })

/-- Serialize a message, if it is supported. -/
def serialize (message : ARPMessage) : Option Bytes :=
  if message.supported = false then none
  else
    let ret := NetUnparser.u16 [] message.hardwareType
    let ret := NetUnparser.u16 ret message.protocolType
    let ret := NetUnparser.u8 ret message.hardwareAddressSize
    let ret := NetUnparser.u8 ret message.protocolAddressSize
    let ret := NetUnparser.u16 ret message.opcode
    let ret := EthernetAddress.serialize ret message.senderEthernetAddress
    let ret := NetUnparser.u32 ret message.senderIpAddress
    let ret := EthernetAddress.serialize ret message.targetEthernetAddress
    some (NetUnparser.u32 ret message.targetIpAddress)

end ARPMessage

end Sponge
