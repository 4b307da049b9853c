/-
Identifiers of runs: 128 bits, written as 32 hexadecimal digits in five groups.
-/
import LoadTrial.Number.Natural

namespace LoadTrial

structure RunId where
  value : BitVec 128
  deriving DecidableEq, Repr

namespace RunId

def hexDigit (n : Nat) : Char :=
  if n < 10 then Char.ofNat (48 + n) else Char.ofNat (87 + n)

def hexValue? (c : Char) : Option Nat :=
  if c.isDigit then some (c.toNat - 48)
  else if 'a' ≤ c && c ≤ 'f' then some (c.toNat - 87)
  else if 'A' ≤ c && c ≤ 'F' then some (c.toNat - 55)
  else none

/-- the last `count` hexadecimal digits of a number -/
def hexDigits : Nat → Nat → List Char
  | 0, _ => []
  | count + 1, n => hexDigits count (n / 16) ++ [hexDigit (n % 16)]

/-- the number that some hexadecimal digits denote -/
def ofHexDigits? (cs : List Char) : Option Nat :=
  cs.foldlM (fun n c => (hexValue? c).map (16 * n + ·)) 0

/-- an identifier as text -/
def toText (id : RunId) : String :=
  let ds := hexDigits 32 id.value.toNat
  String.ofList (ds.take 8 ++ '-' :: ((ds.drop 8).take 4 ++ '-' :: ((ds.drop 12).take 4
    ++ '-' :: ((ds.drop 16).take 4 ++ '-' :: ds.drop 20))))

/-- 32 hexadecimal digits -/
def ofSimple? (cs : List Char) : Option RunId :=
  if cs.length == 32 then (ofHexDigits? cs).map fun n => ⟨BitVec.ofNat 128 n⟩ else none

/-- 32 hexadecimal digits in five groups -/
def ofGrouped? (cs : List Char) : Option RunId :=
  if cs.length == 36 && [8, 13, 18, 23].all fun i => cs[i]? == some '-' then
    ofSimple? (cs.take 8 ++ (cs.drop 9).take 4 ++ (cs.drop 14).take 4 ++ (cs.drop 19).take 4 ++ cs.drop 24)
  else none

/-- reads an identifier: digits alone, in groups, in groups and braces, or behind `urn:uuid:` -/
def ofText? (s : String) : Option RunId :=
  match s.toList with
  | '\x7b' :: rest => if rest.getLast? == some '\x7d' then ofGrouped? rest.dropLast else none
  | 'u' :: 'r' :: 'n' :: ':' :: 'u' :: 'u' :: 'i' :: 'd' :: ':' :: rest => ofGrouped? rest
  | cs => if cs.length == 32 then ofSimple? cs else ofGrouped? cs

end RunId

end LoadTrial
