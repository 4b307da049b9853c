/-
Numeric hosts. An IPv4 address has up to four parts, decimal, octal or hexadecimal, the last of which fills the
bytes that are left. An IPv6 address has eight pieces of 16 bits; one run of zero pieces may be left out, and the
last two pieces may be written as an IPv4 address.
-/
import LoadTrial.Number.Natural
import LoadTrial.Url.Percent

namespace LoadTrial.Url

/-- the pieces of a text between occurrences of a character -/
def splitOn (c : Char) : List Char → List (List Char)
  | [] => [[]]
  | x :: xs =>
    if x == c then [] :: splitOn c xs
    else match splitOn c xs with
      | [] => [[x]]
      | piece :: pieces => (x :: piece) :: pieces

namespace Ipv4

/-- the value of digits of a radix; none if one is not of it -/
def ofRadix? (radix : Nat) (cs : List Char) : Option Nat :=
  cs.foldlM (fun n c => match hexValue c with
    | some d => if d < radix then some (radix * n + d) else none
    | none => none) 0

/-- a part of an address: hexadecimal behind `0x`, octal behind another zero, else decimal;
    `0x` alone is zero -/
def part? (cs : List Char) : Option Nat :=
  match cs with
  | [] => none
  | '0' :: 'x' :: ds => ofRadix? 16 ds
  | '0' :: 'X' :: ds => ofRadix? 16 ds
  | '0' :: d :: ds => ofRadix? 8 (d :: ds)
  | ds => ofRadix? 10 ds

/-- the parts of a name, without the empty one behind a dot at the end -/
def parts (cs : List Char) : List (List Char) :=
  let ps := splitOn '.' cs
  if ps.getLast? == some [] && 1 < ps.length then ps.dropLast else ps

/-- the last part is a number, so the name must be an address -/
def endsInNumber (cs : List Char) : Bool :=
  match (parts cs).getLast? with
  | some last => (!last.isEmpty && last.all Char.isDigit) || (part? last).isSome
  | none => false

/-- puts the values of the parts together: each but the last is one byte, the last fills the rest -/
def assemble (values : List Nat) : Option UInt32 :=
  match values.getLast? with
  | none => none
  | some last =>
    let front := values.dropLast
    if 3 < front.length || front.any (255 < ·) || Nat.pow 256 (4 - front.length) ≤ last then none
    else
      let high := front.foldl (fun n b => 256 * n + b) 0
      some (UInt32.ofNat (high * Nat.pow 256 (4 - front.length) + last))

/-- reads an address -/
def parse? (cs : List Char) : Option UInt32 :=
  (parts cs).mapM part? >>= assemble

/-- 127.0.0.0/8 -/
def isLoopback (a : UInt32) : Bool :=
  a.toNat / 0x1000000 == 127

/-- 10.0.0.0/8, 172.16.0.0/12 and 192.168.0.0/16 -/
def isPrivate (a : UInt32) : Bool :=
  a.toNat / 0x1000000 == 10 || a.toNat / 0x100000 == 172 * 16 + 1 || a.toNat / 0x10000 == 192 * 256 + 168

end Ipv4

namespace Ipv6

/-- one to four hexadecimal digits -/
def piece? (cs : List Char) : Option Nat :=
  if cs.isEmpty || 4 < cs.length then none else Ipv4.ofRadix? 16 cs

/-- a decimal byte without leading zeros -/
def byte? (cs : List Char) : Option Nat :=
  if cs.isEmpty || !cs.all Char.isDigit || (cs.head? == some '0' && 1 < cs.length) then none
  else
    let n := Number.ofDigits cs
    if n ≤ 255 then some n else none

/-- four decimal bytes with dots between, as two pieces -/
def dotted? (cs : List Char) : Option (List Nat) :=
  match (splitOn '.' cs).mapM byte? with
  | some [a, b, c, d] => some [256 * a + b, 256 * c + d]
  | _ => none

/-- pieces with colons between; the last may be dotted if `dottedEnd` -/
def pieces? (dottedEnd : Bool) (cs : List Char) : Option (List Nat) :=
  if cs.isEmpty then some []
  else
    let ps := splitOn ':' cs
    match ps.dropLast.mapM piece?, ps.getLast? with
    | some front, some last =>
      if dottedEnd && last.contains '.' then (dotted? last).map (front ++ ·)
      else (piece? last).map fun p => front ++ [p]
    | _, _ => none

/-- splits at the first double colon -/
def splitGap : List Char → Option (List Char × List Char)
  | ':' :: ':' :: rest => some ([], rest)
  | c :: rest => (splitGap rest).map fun (front, back) => (c :: front, back)
  | [] => none

/-- reads the eight pieces of an address -/
def parse? (cs : List Char) : Option (List Nat) :=
  match splitGap cs with
  | some (front, back) =>
    match pieces? false front, pieces? true back with
    | some xs, some ys =>
      if xs.length + ys.length ≤ 7 then some (xs ++ List.replicate (8 - xs.length - ys.length) 0 ++ ys) else none
    | _, _ => none
  | none =>
    match pieces? true cs with
    | some xs => if xs.length == 8 then some xs else none
    | none => none

def isLoopback (pieces : List Nat) : Bool :=
  pieces == [0, 0, 0, 0, 0, 0, 0, 1]

end Ipv6

end LoadTrial.Url
