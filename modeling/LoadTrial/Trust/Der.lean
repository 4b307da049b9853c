/-
Values in DER: a tag, a length and that many bytes, which may be values again.
-/
import LoadTrial.Text.Utf8

namespace LoadTrial.Der

structure Value where
  tag : UInt8
  content : Bytes
  deriving DecidableEq, Repr

def integer : UInt8 := 0x02
def bitString : UInt8 := 0x03
def octetString : UInt8 := 0x04
def identifier : UInt8 := 0x06
def utcTime : UInt8 := 0x17
def generalTime : UInt8 := 0x18
def sequence : UInt8 := 0x30

/-- a tag made for its place in a value, by its number -/
def contextual (number : UInt8) : UInt8 := 0xA0 + number

def natural (bytes : Bytes) : Nat :=
  bytes.foldl (fun n b => 256 * n + b.toNat) 0

/-- reads a length, which is written as short as can be -/
def length? : Bytes → Option (Nat × Bytes)
  | [] => none
  | b :: rest =>
    if b < 0x80 then some (b.toNat, rest)
    else
      let size := b.toNat - 0x80
      let n := natural (rest.take size)
      if size == 0 || 4 < size || rest.length < size then none
      else if n < 128 || n < Nat.pow 256 (size - 1) then none
      else some (n, rest.drop size)

/-- the value in front, and what follows it -/
def value? : Bytes → Option (Value × Bytes)
  | [] => none
  | tag :: rest => match length? rest with
    | none => none
    | some (n, rest) => if rest.length < n then none else some (⟨tag, rest.take n⟩, rest.drop n)

/-- the content of the value in front, if it has a tag, and what follows it -/
def expect? (tag : UInt8) (bytes : Bytes) : Option (Bytes × Bytes) :=
  match value? bytes with
  | some (v, rest) => if v.tag == tag then some (v.content, rest) else none
  | none => none

/-- drops the value in front if it has a tag -/
def skipOptional (tag : UInt8) (bytes : Bytes) : Bytes :=
  match expect? tag bytes with
  | some (_, rest) => rest
  | none => bytes

/-- drops the value in front, which must have a tag -/
def skip? (tag : UInt8) (bytes : Bytes) : Option Bytes :=
  (expect? tag bytes).map (·.2)

def encodeLength (n : Nat) : Bytes :=
  if n < 128 then [UInt8.ofNat n]
  else if n < 256 then [0x81, UInt8.ofNat n]
  else [0x82, UInt8.ofNat (n / 256), UInt8.ofNat (n % 256)]

def encode (tag : UInt8) (content : Bytes) : Bytes :=
  tag :: (encodeLength content.length ++ content)

end LoadTrial.Der
