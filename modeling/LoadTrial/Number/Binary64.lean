/-
Double-precision numbers and their arithmetic, exactly. A finite double is a whole multiple of the least
positive one, 2^-1074, so it is held as a sign and a natural number of those units; an operation computes its
exact result as a quotient of naturals and rounds it once, to the nearest double, a tie to the even one.
-/

namespace LoadTrial.Number

/-- a double-precision number; `units` counts multiples of 2^-1074 -/
inductive Binary64 where
  | nan
  | infinite (negative : Bool)
  | finite (negative : Bool) (units : Nat)
  deriving DecidableEq, Repr, Inhabited

/-- the quotient rounded to the nearest whole number, a tie to the even one -/
def roundHalfEven (num den : Nat) : Nat :=
  let q := num / den
  let r := num % den
  if 2 * r < den then q
  else if den < 2 * r then q + 1
  else q + q % 2

namespace Binary64

/-- how many units make one -/
def one : Nat := Nat.pow 2 1074

/-- the least number of units that is too large for a finite double -/
def ceiling : Nat := Nat.pow 2 2098

/-- the distance between neighbouring doubles just above `units`: 53 binary digits are kept -/
def spacing (units : Nat) : Nat :=
  Nat.pow 2 (Nat.log2 units - 52)

/-- the units of the double nearest to `num / den` units, were exponents unbounded -/
def roundUnits (num den : Nat) : Nat :=
  let step := spacing (num / den)
  roundHalfEven num (den * step) * step

/-- a sign and a number of units as a double; a number that is too large becomes infinite -/
def ofUnits (negative : Bool) (units : Nat) : Binary64 :=
  if units < ceiling then .finite negative units else .infinite negative

/-- the double nearest to `num / den` -/
def ofRatio (negative : Bool) (num den : Nat) : Binary64 :=
  ofUnits negative (roundUnits (num * one) den)

/-- the double nearest to a natural number -/
def ofNat (n : Nat) : Binary64 :=
  ofRatio false n 1

def zero : Binary64 := .finite false 0

/-- a double from its 64 bits; every not-a-number is the same one -/
def ofBits (bits : UInt64) : Binary64 :=
  let n := bits.toNat
  let negative := n / Nat.pow 2 63 == 1
  let exponent := n / Nat.pow 2 52 % 2048
  let fraction := n % Nat.pow 2 52
  if exponent == 2047 then (if fraction == 0 then .infinite negative else .nan)
  else if exponent == 0 then .finite negative fraction
  else .finite negative ((Nat.pow 2 52 + fraction) * Nat.pow 2 (exponent - 1))

/-- the 64 bits of a double -/
def toBits : Binary64 → UInt64
  | .nan => 0x7FF8000000000000
  | .infinite negative => (if negative then 0xFFF0000000000000 else 0x7FF0000000000000)
  | .finite negative units =>
    let sign := if negative then Nat.pow 2 63 else 0
    let exponent := Nat.log2 units - 52
    UInt64.ofNat (sign + (if units < Nat.pow 2 52 then units else exponent * Nat.pow 2 52 + units / Nat.pow 2 exponent))

def isNaN : Binary64 → Bool
  | .nan => true
  | _ => false

def isFinite : Binary64 → Bool
  | .finite .. => true
  | _ => false

def negate : Binary64 → Binary64
  | .nan => .nan
  | .infinite s => .infinite !s
  | .finite s u => .finite (!s) u

/-- the signed number of units of a finite double -/
def signed (negative : Bool) (units : Nat) : Int :=
  if negative then -Int.ofNat units else Int.ofNat units

/-- `a ≤ b`; a not-a-number compares with nothing, and the two zeros are equal -/
def le : Binary64 → Binary64 → Bool
  | .nan, _ => false
  | _, .nan => false
  | .infinite s, .infinite t => s || !t
  | .infinite s, .finite .. => s
  | .finite .., .infinite t => !t
  | .finite s u, .finite t v => signed s u ≤ signed t v

/-- `a < b`; a not-a-number compares with nothing -/
def lt (a b : Binary64) : Bool :=
  a.le b && !b.le a

def add : Binary64 → Binary64 → Binary64
  | .nan, _ => .nan
  | _, .nan => .nan
  | .infinite s, .infinite t => if s == t then .infinite s else .nan
  | .infinite s, .finite .. => .infinite s
  | .finite .., .infinite t => .infinite t
  | .finite s u, .finite t v =>
    let sum := signed s u + signed t v
    if sum == 0 then .finite (s && t) 0 else ofUnits (sum < 0) (roundUnits sum.natAbs 1)

def sub (a b : Binary64) : Binary64 :=
  a.add b.negate

def mul : Binary64 → Binary64 → Binary64
  | .nan, _ => .nan
  | _, .nan => .nan
  | .infinite s, .infinite t => .infinite (s != t)
  | .infinite s, .finite t v => if v == 0 then .nan else .infinite (s != t)
  | .finite s u, .infinite t => if u == 0 then .nan else .infinite (s != t)
  | .finite s u, .finite t v => ofUnits (s != t) (roundUnits (u * v) one)

def div : Binary64 → Binary64 → Binary64
  | .nan, _ => .nan
  | _, .nan => .nan
  | .infinite _, .infinite _ => .nan
  | .infinite s, .finite t _ => .infinite (s != t)
  | .finite s _, .infinite t => .finite (s != t) 0
  | .finite s u, .finite t v =>
    if v == 0 then (if u == 0 then .nan else .infinite (s != t))
    else ofUnits (s != t) (roundUnits (u * one) v)

end Binary64

end LoadTrial.Number
