/-
Composed normal form. A text is taken apart into characters that are not composed, the marks behind each
character are put in order, and what can be composed is put together again.
-/
import LoadTrial.Unicode.Composition

namespace LoadTrial.Unicode

/-! ## Hangul, where composition is arithmetic -/

def syllableBase : Nat := 0xAC00
def leadBase : Nat := 0x1100
def vowelBase : Nat := 0x1161
def tailBase : Nat := 0x11A7

/-- the letters of a syllable -/
def syllableParts? (n : Nat) : Option (List Nat) :=
  if n < syllableBase || syllableBase + 11172 ≤ n then none
  else
    let i := n - syllableBase
    let front := [leadBase + i / 588, vowelBase + i % 588 / 28]
    some (if i % 28 == 0 then front else front ++ [tailBase + i % 28])

/-- the syllable of two letters, or of a syllable without a last letter and that letter -/
def syllable? (a b : Nat) : Option Nat :=
  if leadBase ≤ a && a < leadBase + 19 && vowelBase ≤ b && b < vowelBase + 21 then
    some (syllableBase + ((a - leadBase) * 21 + (b - vowelBase)) * 28)
  else if syllableBase ≤ a && a < syllableBase + 11172 && (a - syllableBase) % 28 == 0
      && tailBase < b && b < tailBase + 28 then
    some (a + (b - tailBase))
  else none

/-! ## Taking apart -/

/-- the characters of which one is composed; no character is composed of more than `fuel` levels -/
def decomposeFrom : Nat → Nat → List Nat
  | 0, n => [n]
  | fuel + 1, n =>
    if n < 0xC0 then [n]
    else match syllableParts? n with
      | some parts => parts
      | none => match composed.lookup n with
        | some parts => parts.flatMap (decomposeFrom fuel)
        | none => [n]

def decompose (c : Char) : List Char :=
  (decomposeFrom 4 c.toNat).map Char.ofNat

/-! ## Ordering -/

/-- puts a mark in front of the marks behind it that have a higher class -/
def insertMark (c : Char) : List Char → List Char
  | [] => [c]
  | d :: ds =>
    if combiningClass d != 0 && combiningClass d < combiningClass c then d :: insertMark c ds else c :: d :: ds

/-- puts marks in the order of their classes -/
def order : List Char → List Char
  | [] => []
  | c :: cs => if combiningClass c == 0 then c :: order cs else insertMark c (order cs)

/-! ## Putting together -/

/-- the character that is composed of two -/
def compose? (a b : Char) : Option Char :=
  match syllable? a.toNat b.toNat with
  | some n => some (Char.ofNat n)
  | none => (composed.find? fun r => r.2 == [a.toNat, b.toNat]).map fun r => Char.ofNat r.1

/-- puts characters together with the last one that begins anew: that one, if there is one; the marks behind it
    that stay, the last first; and the characters to come -/
def composeFrom (starter : Option Char) (marks : List Char) : List Char → List Char
  | [] => starter.toList ++ marks.reverse
  | c :: cs =>
    let joined := match starter with
      | none => none
      | some s =>
        let blocked := match marks with
          | [] => false
          | m :: _ => combiningClass c ≤ combiningClass m
        if blocked then none else compose? s c
    match joined with
    | some s => composeFrom (some s) marks cs
    | none =>
      if combiningClass c == 0 then starter.toList ++ marks.reverse ++ composeFrom (some c) [] cs
      else composeFrom starter (c :: marks) cs

/-- the composed normal form of a text -/
def normalForm (cs : List Char) : List Char :=
  composeFrom none [] (order (cs.flatMap decompose))

end LoadTrial.Unicode
