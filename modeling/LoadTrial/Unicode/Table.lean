/-
Tables of characters, written as text: rows with blanks between them, each of hexadecimal numbers with commas
between them.
-/

namespace LoadTrial.Unicode.Table

def hexValue (c : Char) : Nat :=
  if c.isDigit then c.toNat - 48 else c.toNat - 55

/-- the rows of a text: the fields so far, the field at hand and its sign, and the characters to come -/
def rowsFrom (fields : List Int) (value : Nat) (negative : Bool) : List Char → List (List Int)
  | [] => [fields ++ [signed value negative]]
  | c :: cs =>
    if c == ' ' then (fields ++ [signed value negative]) :: rowsFrom [] 0 false cs
    else if c == ',' then rowsFrom (fields ++ [signed value negative]) 0 false cs
    else if c == '-' then rowsFrom fields value true cs
    else rowsFrom fields (16 * value + hexValue c) negative cs
where
  signed (value : Nat) (negative : Bool) : Int := if negative then -Int.ofNat value else Int.ofNat value

/-- the rows of a table -/
def rows (lines : List String) : List (List Int) :=
  lines.flatMap fun line => rowsFrom [] 0 false line.toList

/-- rows of one number, or of the first and last of a range -/
def ranges (lines : List String) : List (Nat × Nat) :=
  (rows lines).filterMap fun
    | [a] => some (a.toNat, a.toNat)
    | [a, b] => some (a.toNat, b.toNat)
    | _ => none

/-- rows of three numbers -/
def triples (lines : List String) : List (Nat × Nat × Nat) :=
  (rows lines).filterMap fun
    | [a, b, c] => some (a.toNat, b.toNat, c.toNat)
    | _ => none

/-- rows of a number and others that belong to it -/
def sequences (lines : List String) : List (Nat × List Nat) :=
  (rows lines).filterMap fun
    | a :: rest => some (a.toNat, rest.map Int.toNat)
    | [] => none

/-- the numbers `first, first + step, …, last`, each of which leads to itself plus `shift` -/
structure Run where
  first : Nat
  last : Nat
  step : Nat
  shift : Int

def runs (lines : List String) : List Run :=
  (rows lines).filterMap fun
    | [a, b, step, shift] => some ⟨a.toNat, b.toNat, step.toNat, shift⟩
    | _ => none

/-- a number lies in one of some ranges -/
def holds (ranges : List (Nat × Nat)) (n : Nat) : Bool :=
  ranges.any fun r => r.1 ≤ n && n ≤ r.2

/-- where a number leads to -/
def shift? (runs : List Run) (n : Nat) : Option Nat :=
  (runs.find? fun r => r.first ≤ n && n ≤ r.last && (n - r.first) % r.step == 0).map fun r => ((n : Int) + r.shift).toNat

end LoadTrial.Unicode.Table
