/-
Punycode: a text in ASCII for one with other characters. The ASCII characters come first; behind them, digits in
base 36 say which other characters there are, in increasing order, and where each of them stands.
-/

namespace LoadTrial.Url.Punycode

def digitChar (d : Nat) : Char :=
  if d < 26 then Char.ofNat (97 + d) else Char.ofNat (22 + d)

def digitValue? (c : Char) : Option Nat :=
  if c.isDigit then some (c.toNat - 22)
  else if c.isAlpha then some (c.toLower.toNat - 97)
  else none

/-- the first digit value that does not end a number, at the place `k` -/
def threshold (k bias : Nat) : Nat :=
  if k ≤ bias then 1 else if bias + 26 ≤ k then 26 else k - bias

theorem threshold_pos (k bias : Nat) : 1 ≤ threshold k bias := by
  unfold threshold
  split
  · omega
  · split <;> omega

/-- how often a distance is divided by 35 until it is small, times 36, and what is left of it -/
def scaleDown (distance k : Nat) : Nat × Nat :=
  if h : 455 < distance then scaleDown (distance / 35) (k + 36) else (distance, k)
termination_by distance
decreasing_by omega

/-- the bias for the next number, behind one that moved `distance` with `count` characters in place -/
def adapt (distance count : Nat) (first : Bool) : Nat :=
  let d := if first then distance / 700 else distance / 2
  let (d, k) := scaleDown (d + d / count) 0
  k + 36 * d / (d + 38)

/-- the digits of a number from the place `k` on -/
def digits (bias k n : Nat) : List Char :=
  let t := threshold k bias
  if n < t then [digitChar n]
  else digitChar (t + (n - t) % (36 - t)) :: digits bias (k + 36) ((n - t) / (36 - t))
termination_by n
decreasing_by
  have h := threshold_pos k bias
  have := Nat.div_le_self (n - threshold k bias) (36 - threshold k bias)
  omega

/-! ## Encoding -/

structure Encoder where
  out : List Char
  /-- the distance moved since the last number -/
  distance : Nat
  bias : Nat
  /-- how many characters are in place -/
  count : Nat
  first : Bool

/-- passes over a character of the text while characters `m` are put in place -/
def Encoder.scan (m : Nat) (e : Encoder) (c : Char) : Encoder :=
  if c.toNat < m then { e with distance := e.distance + 1 }
  else if c.toNat == m then
    { out := e.out ++ digits e.bias 36 e.distance
      distance := 0
      bias := adapt e.distance (e.count + 1) e.first
      count := e.count + 1
      first := false }
  else e

/-- puts the characters of some numbers in place, in order; `n` is the least number not looked at -/
def encodeFrom (text : List Char) (n : Nat) (e : Encoder) : List Nat → List Char
  | [] => e.out
  | m :: rest =>
    let e := text.foldl (Encoder.scan m) { e with distance := e.distance + (m - n) * (e.count + 1) }
    encodeFrom text (m + 1) { e with distance := e.distance + 1 } rest

/-- the numbers of a list in increasing order, each once -/
def increasing (ns : List Nat) : List Nat :=
  (ns.mergeSort (· ≤ ·)).eraseReps

def isBasic (c : Char) : Bool :=
  c.toNat < 0x80

/-- the form in ASCII -/
def encode (text : List Char) : List Char :=
  let basic := text.filter isBasic
  let others := increasing ((text.filter (!isBasic ·)).map Char.toNat)
  let front := if basic.isEmpty then [] else basic ++ ['-']
  encodeFrom text 128 ⟨front, 0, 72, basic.length, true⟩ others

/-! ## Decoding -/

structure Decoder where
  out : List Char
  /-- the character to put in place next -/
  next : Nat
  /-- the place where it goes -/
  index : Nat
  bias : Nat
  first : Bool

/-- a number has been read that moves the place on to `moved` -/
def Decoder.insert (d : Decoder) (moved : Nat) : Option Decoder :=
  let count := d.out.length + 1
  let next := d.next + moved / count
  let index := moved % count
  if h : next.isValidChar then
    some {
      out := d.out.take index ++ Char.ofNatAux next h :: d.out.drop index
      next
      index := index + 1
      bias := adapt (moved - d.index) count d.first
      first := false }
  else none

/-- reads digits; `moved`, `weight` and `k` belong to the number at hand. Numbers have 32 bits -/
def decodeFrom (d : Decoder) (moved weight k : Nat) : List Char → Option (List Char)
  | [] => if k == 36 then some d.out else none
  | c :: cs => match digitValue? c with
    | none => none
    | some v =>
      let moved := moved + v * weight
      let t := threshold k d.bias
      if UInt32.size ≤ moved then none
      else if v < t then match d.insert moved with
        | some d => decodeFrom d d.index 1 36 cs
        | none => none
      else if UInt32.size ≤ weight * (36 - t) then none
      else decodeFrom d moved (weight * (36 - t)) (k + 36) cs

/-- the text of a form in ASCII; the last hyphen stands behind the ASCII characters -/
def decode? (cs : List Char) : Option (List Char) :=
  let behind := (cs.reverse.takeWhile (· != '-')).reverse
  let basic := if cs.contains '-' then (cs.take (cs.length - behind.length)).dropLast else []
  if !basic.all isBasic then none
  else decodeFrom ⟨basic, 128, 0, 72, true⟩ 0 1 36 (if cs.contains '-' then behind else cs)

end LoadTrial.Url.Punycode
