import Sponge.Model.InternetChecksum
import Sponge.Model.Parser

/-!
# IPv4 datagrams

`tcp_helpers/ipv4_header.cc` and `tcp_helpers/ipv4_datagram.cc`.  Parsing
overwrites the object it is called on; a header too short to read leaves the
fields of the object as they were.  An exception of a serializer is `none`.
-/

namespace Sponge

/-- An IPv4 header. -/
structure IPv4Header where
  ver : UInt8 := 4
  /-- Header length in 32-bit words: `LENGTH / 4` for a header without options. -/
  hlen : UInt8 := 5
  tos : UInt8 := 0
  len : UInt16 := 0
  id : UInt16 := 0
  df : Bool := true
  mf : Bool := false
  offset : UInt16 := 0
  ttl : UInt8 := 128
  proto : UInt8 := 6
  cksum : UInt16 := 0
  src : UInt32 := 0
  dst : UInt32 := 0
  deriving DecidableEq

namespace IPv4Header

/-- `LENGTH`: the header length, not including options. -/
def length : Nat := 20

/-- The reads of the header parser. -/
def parseFields (p : NetParser) : IPv4Header × NetParser :=
  let firstByte := p.u8
  let tos := firstByte.2.u8
  let len := tos.2.u16
  let id := len.2.u16
  let foVal := id.2.u16
  let ttl := foVal.2.u8
  let proto := ttl.2.u8
  let cksum := proto.2.u16
  let src := cksum.2.u32
  let dst := src.2.u32
  ({ ver := firstByte.1 >>> 4
     hlen := firstByte.1 &&& 0x0f
     tos := tos.1
     len := len.1
     id := id.1
     df := foVal.1 &&& 0x4000 != 0
     mf := foVal.1 &&& 0x2000 != 0
     offset := foVal.1 &&& 0x1fff
     ttl := ttl.1
     proto := proto.1
     cksum := cksum.1
     src := src.1
     dst := dst.1 }, dst.2)

/-- Parse a header from the front of the buffer. -/
def parse (header : IPv4Header) (p : NetParser) : ParseResult × IPv4Header × NetParser :=
  let originalSerializedVersion := p.buffer
  let dataSize := p.buffer.length
  if dataSize < length then (.packetTooShort, header, p)
  else
    let header := (parseFields p).1
    let p := (parseFields p).2
    if dataSize < 4 * header.hlen.toNat then (.packetTooShort, header, p)
    else if header.ver ≠ 4 then (.wrongIPVersion, header, p)
    else if header.hlen < 5 then (.headerTooShort, header, p)
    else if dataSize ≠ header.len.toNat then (.truncatedPacket, header, p)
    else
      let p := p.removePrefix (header.hlen.toNat * 4 - length)
      if p.error ≠ .noError then (p.error, header, p)
      else
        let check : InternetChecksum := { sum := 0 }
        let check := check.add (originalSerializedVersion.take (4 * header.hlen.toNat))
        if check.value ≠ 0 then (.badChecksum, header, p) else (.noError, header, p)

/-- The byte of a header that holds its version and its length. -/
def firstByte (header : IPv4Header) : UInt8 := (header.ver <<< 4) ||| (header.hlen &&& 0xf)

/-- The 16 bits of a header that hold its flags and its fragment offset. -/
def foVal (header : IPv4Header) : UInt16 :=
  (if header.df then 0x4000 else 0) ||| (if header.mf then 0x2000 else 0) |||
    (header.offset &&& 0x1fff)

/-- Serialize the fields of a header, without recomputing the checksum. -/
def serialize (header : IPv4Header) : Option Bytes :=
  if header.ver ≠ 4 then none
  else if 4 * header.hlen.toNat < length then none
  else
    let ret := []
    let ret := NetUnparser.u8 ret header.firstByte
    let ret := NetUnparser.u8 ret header.tos
    let ret := NetUnparser.u16 ret header.len
    let ret := NetUnparser.u16 ret header.id
    let ret := NetUnparser.u16 ret header.foVal
    let ret := NetUnparser.u8 ret header.ttl
    let ret := NetUnparser.u8 ret header.proto
    let ret := NetUnparser.u16 ret header.cksum
    let ret := NetUnparser.u32 ret header.src
    let ret := NetUnparser.u32 ret header.dst
    some (resize ret (4 * header.hlen.toNat))

/-- The length of the payload, in 16-bit arithmetic. -/
def payloadLength (header : IPv4Header) : UInt16 := header.len - 4 * header.hlen.toUInt16

/-- The contribution of the pseudo-header to the checksum of a segment. -/
def pseudoCksum (header : IPv4Header) : UInt32 :=
  let pcksum := (header.src >>> 16) + (header.src &&& 0xffff)
  let pcksum := pcksum + ((header.dst >>> 16) + (header.dst &&& 0xffff))
  let pcksum := pcksum + header.proto.toUInt32
  pcksum + header.payloadLength.toUInt32

end IPv4Header

/-- An IPv4 datagram: a header and a payload. -/
structure IPv4Datagram where
  header : IPv4Header := {}
  payload : Bytes := []
  deriving DecidableEq

namespace IPv4Datagram

/-- Parse a datagram out of a buffer. -/
def parse (datagram : IPv4Datagram) (buffer : Bytes) : ParseResult × IPv4Datagram :=
  -- what the header's parser returns is ignored
  let parsed := datagram.header.parse { buffer := buffer }
  let datagram : IPv4Datagram := { header := parsed.2.1, payload := parsed.2.2.buffer }
  if datagram.payload.length ≠ datagram.header.payloadLength.toNat then (.packetTooShort, datagram)
  else (parsed.2.2.error, datagram)

/-- Serialize a datagram, with the checksum over its header. -/
def serialize (datagram : IPv4Datagram) : Option Bytes :=
  if datagram.payload.length ≠ datagram.header.payloadLength.toNat then none
  else do
    let headerOut := { datagram.header with cksum := 0 }
    let check : InternetChecksum := { sum := 0 }
    let check := check.add (← headerOut.serialize)
    let headerOut := { headerOut with cksum := check.value }
    return (← headerOut.serialize) ++ datagram.payload

end IPv4Datagram

end Sponge
