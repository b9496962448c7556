import TableCatalog.Bytes

/-! Numbers of varying length: seven bits to a byte, the lowest first, and the high bit set on every
byte but the last. A 64-bit number takes at most ten bytes, of which the tenth holds one bit. -/

namespace TableCatalog.Wire.Varint

/-- The shortest form of a number. -/
def writeNat (n : Nat) : Bytes :=
  if n < 128 then [UInt8.ofNat n] else UInt8.ofNat (n % 128 + 128) :: writeNat (n / 128)
termination_by n

def write (n : UInt64) : Bytes := writeNat n.toNat

/-- Reads on from the byte at `index`. Forms longer than needed are read too, up to ten bytes. -/
def readFrom (index : Nat) : Bytes → Option (Nat × Bytes)
  | [] => none
  | byte :: rest =>
    if byte < 128 then
      if index = 9 ∧ 2 ≤ byte then none else some (byte.toNat, rest)
    else if index = 9 then none
    else (readFrom (index + 1) rest).map fun (high, rest) => (byte.toNat - 128 + 128 * high, rest)

/-- Reads a number off the front. -/
def read (bytes : Bytes) : Option (UInt64 × Bytes) :=
  (readFrom 0 bytes).map fun (n, rest) => (UInt64.ofNat n, rest)

end TableCatalog.Wire.Varint
