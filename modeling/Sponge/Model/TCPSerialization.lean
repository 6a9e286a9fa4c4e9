import Sponge.Model.InternetChecksum
import Sponge.Model.Parser
import Sponge.Model.TCPSegment

/-!
# TCP segments on the wire

`tcp_helpers/tcp_header.cc` and `tcp_helpers/tcp_segment.cc`.  Parsing overwrites
the object it is called on and reports its result; an exception of a serializer
is `none`.  A `BufferList` is the concatenation of its buffers.
-/

namespace Sponge

namespace TCPHeader

/-- `LENGTH`: the header length, not including options. -/
def length : Nat := 20

/-- The reads of the header parser: every field is assigned, on each path. -/
def parseFields (p : NetParser) : TCPHeader × NetParser :=
  let sport := p.u16
  let dport := sport.2.u16
  let seqno := dport.2.u32
  let ackno := seqno.2.u32
  let doff := ackno.2.u8
  let flags := doff.2.u8
  let win := flags.2.u16
  let cksum := win.2.u16
  let uptr := cksum.2.u16
  ({ sport := sport.1
     dport := dport.1
     seqno := ⟨seqno.1⟩
     ackno := ⟨ackno.1⟩
     doff := doff.1 >>> 4
     urg := flags.1 &&& 0b00100000 != 0
     ack := flags.1 &&& 0b00010000 != 0
     psh := flags.1 &&& 0b00001000 != 0
     rst := flags.1 &&& 0b00000100 != 0
     syn := flags.1 &&& 0b00000010 != 0
     fin := flags.1 &&& 0b00000001 != 0
     win := win.1
     cksum := cksum.1
     uptr := uptr.1 }, uptr.2)

/-- Parse a header from the front of the buffer. -/
def parse (p : NetParser) : ParseResult × TCPHeader × NetParser :=
  let header := (parseFields p).1
  let p := (parseFields p).2
  if header.doff < 5 then (.headerTooShort, header, p)
  else
    -- skip any options or anything extra in the header
    let p := p.removePrefix (header.doff.toNat * 4 - length)
    if p.error ≠ .noError then (p.error, header, p) else (.noError, header, p)

/-- The byte of a header that holds its flags. -/
def flagByte (header : TCPHeader) : UInt8 :=
  (if header.urg then 0b00100000 else 0) ||| (if header.ack then 0b00010000 else 0) |||
    (if header.psh then 0b00001000 else 0) ||| (if header.rst then 0b00000100 else 0) |||
    (if header.syn then 0b00000010 else 0) ||| (if header.fin then 0b00000001 else 0)

/-- Serialize the fields of a header, without recomputing the checksum. -/
def serialize (header : TCPHeader) : Option Bytes :=
  if header.doff < 5 then none
  else
    let ret := []
    let ret := NetUnparser.u16 ret header.sport
    let ret := NetUnparser.u16 ret header.dport
    let ret := NetUnparser.u32 ret header.seqno.rawValue
    let ret := NetUnparser.u32 ret header.ackno.rawValue
    let ret := NetUnparser.u8 ret (header.doff <<< 4)
    let ret := NetUnparser.u8 ret header.flagByte
    let ret := NetUnparser.u16 ret header.win
    let ret := NetUnparser.u16 ret header.cksum
    let ret := NetUnparser.u16 ret header.uptr
    some (resize ret (4 * header.doff.toNat))

end TCPHeader

namespace TCPSegment

/-- Parse a segment out of a buffer, given the sum of the pseudo-header. -/
def parse (segment : TCPSegment) (buffer : Bytes) (datagramLayerChecksum : Nat) :
    ParseResult × TCPSegment :=
  let check := InternetChecksum.add { sum := datagramLayerChecksum } buffer
  if check.value ≠ 0 then (.badChecksum, segment)
  else
    -- what the header's parser returns is ignored
    let parsed := TCPHeader.parse { buffer := buffer }
    (parsed.2.2.error, { segment with header := parsed.2.1, payload := parsed.2.2.buffer })

/-- Serialize a segment, with the checksum over the whole of it. -/
def serialize (segment : TCPSegment) (datagramLayerChecksum : Nat) : Option Bytes := do
  let headerOut := { segment.header with cksum := 0 }
  let check : InternetChecksum := { sum := datagramLayerChecksum }
  let check := check.add (← headerOut.serialize)
  let check := check.add segment.payload
  let headerOut := { headerOut with cksum := check.value }
  return (← headerOut.serialize) ++ segment.payload

end TCPSegment

end Sponge
