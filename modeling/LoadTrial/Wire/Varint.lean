/-
Base-128 numbers: seven bits to a byte, the low ones first, with the top bit set on every byte but the last.
A 64-bit number takes at most ten bytes, the tenth of which holds one bit.
-/
import LoadTrial.Text.Utf8

namespace LoadTrial.Wire

namespace Varint

/-- the shortest base-128 form -/
def encode (n : Nat) : Bytes :=
  if n < 128 then [UInt8.ofNat n] else UInt8.ofNat (n % 128 + 128) :: encode (n / 128)

/-- the number of bytes of the shortest form -/
def size (n : Nat) : Nat :=
  if n < 128 then 1 else 1 + size (n / 128)

/-- reads the groups of a number, of which `left` may still come, into `value`, the next one at weight `weight` -/
def decodeGroups : Nat → Nat → Nat → Bytes → Option (Nat × Bytes)
  | 0, _, _, _ => none
  | _, _, _, [] => none
  | left + 1, weight, value, b :: rest =>
    if b < 0x80 then
      if left == 0 && 2 ≤ b then none else some (value + weight * b.toNat, rest)
    else decodeGroups left (weight * 128) (value + weight * (b.toNat - 128)) rest

/-- the 64-bit number in front, and what follows it; none if it does not end or does not fit -/
def decode (bytes : Bytes) : Option (Nat × Bytes) :=
  decodeGroups 10 1 0 bytes

end Varint

end LoadTrial.Wire
