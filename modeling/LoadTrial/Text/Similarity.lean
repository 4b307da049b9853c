/-
How alike two texts are, by the measure of Jaro: characters match if they are equal and stand at about the same
place, and matches count less when they stand in another order.
-/

namespace LoadTrial.Text

/-- marks the first element that `wanted` holds of among those from place `low` to place `high`, not marked yet -/
def markFirst (wanted : Char → Bool) (low high : Nat) : List (Char × Bool) → Option (List (Char × Bool))
  | [] => none
  | (c, marked) :: rest =>
    if high = 0 then none
    else if low = 0 && !marked && wanted c then some ((c, true) :: rest)
    else (markFirst wanted (low - 1) (high - 1) rest).map ((c, marked) :: ·)

/-- the characters of a text from place `i` on that have a match within reach, and the other text with its
    matches marked -/
def matchFrom (reach i : Nat) (other : List (Char × Bool)) : List Char → List Char × List (Char × Bool)
  | [] => ([], other)
  | c :: cs =>
    match markFirst (· == c) (i - reach) (i + reach + 1) other with
    | some other =>
      let (found, other) := matchFrom reach (i + 1) other cs
      (c :: found, other)
    | none => matchFrom reach (i + 1) other cs

/-- similarity as a fraction, with its numerator and denominator -/
structure Similarity where
  numerator : Nat
  denominator : Nat
  deriving DecidableEq, Repr

/-- one is less than another -/
def Similarity.lt (x y : Similarity) : Bool :=
  x.numerator * y.denominator < y.numerator * x.denominator

/-- the similarity of two texts: the mean of the shares of their characters that match, and of the matches that
    stand in the same order -/
def similarity (a b : List Char) : Similarity :=
  if a.isEmpty && b.isEmpty then ⟨1, 1⟩
  else
    let reach := max a.length b.length / 2 - 1
    let (found, marked) := matchFrom reach 0 (b.map (·, false)) a
    let partners := (marked.filter (·.2)).map (·.1)
    let m := found.length
    let swapped := ((found.zip partners).countP fun (x, y) => x != y) / 2
    if m = 0 then ⟨0, 1⟩
    else ⟨m * m * b.length + m * m * a.length + (m - swapped) * a.length * b.length, 3 * a.length * b.length * m⟩

/-- texts less similar than this are not taken for one another -/
def similarityLimit : Similarity := ⟨7, 10⟩

/-- the most similar of some candidates, of equally similar ones the last; none if none is similar -/
def closest? {α : Type} (text : α → String) (word : String) (candidates : List α) : Option α :=
  let scored := candidates.map fun a => (a, similarity word.toList (text a).toList)
  (scored.foldl (fun best (a, s) => match best with
    | some (_, s') => if s.lt s' then best else some (a, s)
    | none => if similarityLimit.lt s then some (a, s) else none) none).map (·.1)

end LoadTrial.Text
