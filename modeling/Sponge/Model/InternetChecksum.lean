import Sponge.Library.MachineInt
import Sponge.Model.ByteStream

/-!
# The Internet checksum

`InternetChecksum` of `util/util.hh` and `util/util.cc`.  The sum is a `uint32_t`,
kept as a natural number with the wrap written out.
-/

namespace Sponge

open MachineInt

/-- The running sum, and whether an odd number of bytes has been added. -/
structure InternetChecksum where
  sum : Nat
  parity : Bool := false

namespace InternetChecksum

/-- One round of the loop of `add`: even bytes are the high halves of their words. -/
def addByte (check : InternetChecksum) (byte : UInt8) : InternetChecksum :=
  let val := byte.toNat
  let val := if check.parity = false then val <<< 8 else val
  { sum := add32 check.sum val, parity := !check.parity }

def add (check : InternetChecksum) (data : Bytes) : InternetChecksum := data.foldl addByte check

/-- The loop of `value`, with a bound on its rounds. -/
def foldLoop : Nat → Nat → Nat
  | 0, ret => ret
  | fuel + 1, ret =>
      if ret > 0xffff then foldLoop fuel ((ret >>> 16) + (ret &&& 0xffff)) else ret

/-- The checksum; two rounds fold any 32-bit sum. -/
def value (check : InternetChecksum) : UInt16 := ~~~ UInt16.ofNat (foldLoop 2 check.sum)

end InternetChecksum

end Sponge
