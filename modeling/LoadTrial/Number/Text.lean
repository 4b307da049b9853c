/-
Doubles as decimal text. A double is written with the fewest digits that read back as it, never with an
exponent, or with a fixed number of places. It is read by a grammar with optional point, fraction and
exponent, and rounded once.
-/
import LoadTrial.Number.Binary64
import LoadTrial.Number.Natural

namespace LoadTrial.Number

namespace Binary64

/-! ## Writing -/

/-- the exponent of ten that all values here are scaled by, to stay in natural numbers -/
def scale : Nat := 400

/-- `c · 10^(k - scale)` lies among the reals that round to `units`; the ends count when the double is even -/
def readsBack (units c k : Nat) : Bool :=
  let step := spacing units
  let below := if units == Nat.pow 2 52 * step && 1 < step then step / 2 else step
  let x := 2 * c * Nat.pow 10 k * one
  let low := (2 * units - below) * Nat.pow 10 scale
  let high := (2 * units + step) * Nat.pow 10 scale
  if units / step % 2 == 0 then low ≤ x && x ≤ high else low < x && x < high

/-- the distance of `c · 10^(k - scale)` from `units`, in a unit common to all `c` -/
def distance (units c k : Nat) : Nat :=
  let x := c * Nat.pow 10 k * one
  let v := units * Nat.pow 10 scale
  (x - v) + (v - x)

/-- on the grid of multiples of 10^(k - scale): the neighbour of `units` that reads back, the nearer one first -/
def onGrid (units k : Nat) : Option Nat :=
  let c := units * Nat.pow 10 scale / (one * Nat.pow 10 k)
  match readsBack units c k, readsBack units (c + 1) k with
  | true, true => some (if distance units c k < distance units (c + 1) k then c else c + 1)
  | true, false => some c
  | false, true => some (c + 1)
  | false, false => none

/-- the first of the grids with 1, 2, …, 17 digits that holds a number reading back as `units` -/
def firstGrid (units top : Nat) : Nat → Nat × Nat
  | 0 => (0, scale)
  | n + 1 =>
    let k := top - (17 - n)
    match onGrid units k with
    | some c => (c, k)
    | none => firstGrid units top n

/-- digits `c` and exponent `k` of the shortest decimal `c · 10^(k - scale)` that reads back -/
def shortest (units : Nat) : Nat × Nat :=
  let top := (digits (units * Nat.pow 10 scale / one)).length
  firstGrid units top 17

/-- `c · 10^(k - scale)` in positional notation -/
def positional (c k : Nat) : String :=
  if scale ≤ k then String.ofList (digits c ++ List.replicate (k - scale) '0')
  else
    let places := scale - k
    let ds := digits c
    let ds := List.replicate (places + 1 - ds.length) '0' ++ ds
    let whole := ds.take (ds.length - places)
    String.ofList (whole ++ '.' :: ds.drop (ds.length - places))

def signText (negative : Bool) : String :=
  if negative then "-" else ""

/-- the shortest text that reads back as the same double -/
def toText : Binary64 → String
  | .nan => "NaN"
  | .infinite s => signText s ++ "inf"
  | .finite s 0 => signText s ++ "0"
  | .finite s units => let (c, k) := shortest units; signText s ++ positional c k

/-- the text with a fixed, positive number of places; a tie goes to the even digit -/
def toFixed (places : Nat) : Binary64 → String
  | .nan => "NaN"
  | .infinite s => signText s ++ "inf"
  | .finite s units =>
    let n := roundHalfEven (units * Nat.pow 10 places) one
    signText s ++ decimal (n / Nat.pow 10 places) ++ "." ++ decimalPadded places (n % Nat.pow 10 places)

/-! ## Reading -/

/-- why a text is not a double -/
inductive TextFault where
  | empty
  | invalid
  deriving DecidableEq, Repr

def TextFault.message : TextFault → String
  | .empty => "cannot parse float from empty string"
  | .invalid => "invalid float literal"

/-- the double nearest to `m · 10^(up - down)`; exponents far outside the range are cut off first -/
def ofDecimal (negative : Bool) (m up down : Nat) : Binary64 :=
  if m == 0 then .finite negative 0
  else
    let size := (digits m).length
    if down + 310 < size + up then .infinite negative
    else if size + up + 330 < down then .finite negative 0
    else if down ≤ up then ofRatio negative (m * Nat.pow 10 (up - down)) 1
    else ofRatio negative m (Nat.pow 10 (down - up))

/-- the exponent part behind its letter: whether it is negative, and its size -/
def readExponent : List Char → Option (Bool × Nat)
  | '-' :: ds => unsigned true ds
  | '+' :: ds => unsigned false ds
  | ds => unsigned false ds
where
  unsigned (negative : Bool) (ds : List Char) : Option (Bool × Nat) :=
    if ds.isEmpty || !ds.all Char.isDigit then none else some (negative, ofDigits ds)

/-- digits, an optional point with digits, at least one digit in all, and an optional exponent -/
def readUnsignedDecimal (negative : Bool) (cs : List Char) : Option Binary64 :=
  let whole := cs.takeWhile Char.isDigit
  let rest := cs.dropWhile Char.isDigit
  let (fraction, rest) := match rest with
    | '.' :: r => (r.takeWhile Char.isDigit, r.dropWhile Char.isDigit)
    | r => ([], r)
  if whole.isEmpty && fraction.isEmpty then none
  else
    let m := ofDigits (whole ++ fraction)
    match rest with
    | [] => some (ofDecimal negative m 0 fraction.length)
    | c :: r =>
      if c == 'e' || c == 'E' then
        match readExponent r with
        | some (true, n) => some (ofDecimal negative m 0 (fraction.length + n))
        | some (false, n) => some (ofDecimal negative m n fraction.length)
        | none => none
      else none

/-- a number without its sign: a decimal, or a word for an infinity or not-a-number in either case -/
def readMagnitude (negative : Bool) (cs : List Char) : Option Binary64 :=
  match readUnsignedDecimal negative cs with
  | some x => some x
  | none =>
    let word := String.ofList (cs.map Char.toLower)
    if word == "inf" || word == "infinity" then some (.infinite negative)
    else if word == "nan" then some .nan
    else none

/-- reads a double; blanks are not part of one -/
def ofText (cs : List Char) : Except TextFault Binary64 :=
  let read := match cs with
    | '-' :: r => readMagnitude true r
    | '+' :: r => readMagnitude false r
    | r => readMagnitude false r
  match cs, read with
  | [], _ => .error .empty
  | _, some x => .ok x
  | _, none => .error .invalid

end Binary64

end LoadTrial.Number
