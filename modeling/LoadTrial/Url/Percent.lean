/-
Percent-encoding: a byte is written as a percent sign and two hexadecimal digits where its character may not
stand in a part of a URL.
-/
import LoadTrial.Text.Utf8

namespace LoadTrial.Url

open Text (utf8)

def upperHexDigit (n : Nat) : Char :=
  if n < 10 then Char.ofNat (48 + n) else Char.ofNat (55 + n)

def hexValue (c : Char) : Option Nat :=
  if c.isDigit then some (c.toNat - 48)
  else if 'a' ≤ c && c ≤ 'f' then some (c.toNat - 87)
  else if 'A' ≤ c && c ≤ 'F' then some (c.toNat - 55)
  else none

/-- a character, or its bytes as percent escapes if it is not ASCII or in the set -/
def encodeChar (set : Char → Bool) (c : Char) : List Char :=
  if c.toNat < 0x80 && !set c then [c]
  else (utf8 c.toString).flatMap fun b => ['%', upperHexDigit (b.toNat / 16), upperHexDigit (b.toNat % 16)]

/-- percent-encodes the characters of a set, and all beyond ASCII -/
def percentEncode (set : Char → Bool) (cs : List Char) : List Char :=
  cs.flatMap (encodeChar set)

/-- control characters -/
def controlSet (c : Char) : Bool :=
  c.toNat < 0x20 || c.toNat == 0x7F

def fragmentSet (c : Char) : Bool :=
  controlSet c || c == ' ' || c == '"' || c == '<' || c == '>' || c == '`'

def pathSet (c : Char) : Bool :=
  fragmentSet c || c == '#' || c == '?' || c == '{' || c == '}'

def querySet (c : Char) : Bool :=
  controlSet c || c == ' ' || c == '"' || c == '#' || c == '<' || c == '>'

/-- in the query of a special URL a single quote is encoded too -/
def specialQuerySet (c : Char) : Bool :=
  querySet c || c == '\''

/-- the bytes of a text in which escapes stand for the bytes they name; a stray percent sign stands for itself -/
def percentDecode : List Char → Bytes
  | [] => []
  | '%' :: a :: b :: rest =>
    match hexValue a, hexValue b with
    | some x, some y => UInt8.ofNat (16 * x + y) :: percentDecode rest
    | _, _ => utf8 "%" ++ percentDecode (a :: b :: rest)
  | c :: rest => utf8 c.toString ++ percentDecode rest

end LoadTrial.Url
