/-
Names of hosts. A name is brought into normal form, in small letters; each of its labels must be well formed, and
one that is not in ASCII is written in ASCII in the end.
-/
import LoadTrial.Unicode.Direction
import LoadTrial.Unicode.DomainMapping
import LoadTrial.Unicode.Joining
import LoadTrial.Unicode.Mark
import LoadTrial.Unicode.Normal
import LoadTrial.Url.Address
import LoadTrial.Url.Punycode

namespace LoadTrial.Url.Domain

open Unicode

/-- characters that a name may not hold -/
def isForbidden (c : Char) : Bool :=
  c.toNat ≤ 0x20 || c.toNat == 0x7F || "%#/:<>?@[\\]^|".toList.contains c

/-- the normal form of a name; none if a character may not stand in one -/
def normalForm? (cs : List Char) : Option (List Char) :=
  (cs.mapM domainForm?).map fun forms => normalForm forms.flatten

/-! ## Labels -/

def nonJoiner : Char := '\u200C'
def joiner : Char := '\u200D'

/-- the class of the marks that suppress a vowel -/
def viramaClass : Nat := 9

/-- joiners stand where they have an effect: behind a mark that suppresses a vowel, or, for the one that keeps
    characters apart, between characters that would join. `before` holds what stands in front, the nearest first -/
def joinersFit (before : List Char) : List Char → Bool
  | [] => true
  | c :: rest =>
    let behindVirama := before.head?.any fun p => combiningClass p == viramaClass
    let between := (before.dropWhile isTransparent).head?.any joinsNext
      && (rest.dropWhile isTransparent).head?.any joinsPrevious
    (c != joiner || behindVirama) && (c != nonJoiner || behindVirama || between) && joinersFit (c :: before) rest

/-- a label is well formed: it does not begin with a mark, and its joiners fit -/
def isWellFormed (label : List Char) : Bool :=
  !label.head?.any isMark && joinersFit [] label

/-- the letters in front of a label that is written in Punycode -/
def asciiMark : List Char := "xn--".toList

/-- the longest Punycode that is read, and the longest label that is written in it -/
def longestRead : Nat := 2000
def longestWritten : Nat := 1000

/-- a label with its form in ASCII -/
structure Label where
  text : List Char
  ascii : List Char

/-- reads a label in normal form; one in Punycode must stand for a label in normal form that needs it -/
def readLabel? (cs : List Char) : Option Label :=
  if asciiMark.isPrefixOf cs then
    let code := cs.drop asciiMark.length
    if longestRead < code.length then none
    else match Punycode.decode? code with
      | none => none
      | some text =>
        if text.all Punycode.isBasic || asciiMark.isPrefixOf text || normalForm? text != some text
            || !isWellFormed text then none
        else some ⟨text, cs⟩
  else if !isWellFormed cs then none
  else if cs.all Punycode.isBasic then some ⟨cs, cs⟩
  else if longestWritten < cs.length then none
  else some ⟨cs, asciiMark ++ Punycode.encode cs⟩

/-! ## Direction -/

/-- a character written from right to left -/
def isRightToLeft (c : Char) : Bool :=
  [Direction.right, .arabic, .arabicNumber].contains (direction c)

/-- the classes that may stand in a label written from left to right -/
def inLeftLabel : List Direction :=
  [.left, .europeanNumber, .europeanSeparator, .commonSeparator, .europeanTerminator, .neutral, .boundary, .mark]

/-- the classes that may stand in a label written from right to left -/
def inRightLabel : List Direction :=
  [.right, .arabic, .arabicNumber, .europeanNumber, .europeanSeparator, .commonSeparator, .europeanTerminator,
    .neutral, .boundary, .mark]

/-- a label begins with a letter, and the rest of it goes with that letter's direction -/
def directionsFit (label : List Char) : Bool :=
  let ds := label.map direction
  let last := ds.reverse.find? (· != .mark)
  match ds.head? with
  | none => true
  | some .left => ds.all inLeftLabel.contains && last.any [Direction.left, .europeanNumber].contains
  | some first =>
    [Direction.right, .arabic].contains first && ds.all inRightLabel.contains
      && last.any [Direction.right, .arabic, .europeanNumber, .arabicNumber].contains
      && !(ds.contains .europeanNumber && ds.contains .arabicNumber)

/-! ## Names -/

/-- joins texts with a character between them -/
def joinWith (c : Char) (texts : List (List Char)) : List Char :=
  (texts.intersperse [c]).flatten

/-- the form of a name in ASCII -/
def toAscii? (cs : List Char) : Option (List Char) := do
  let normal ← normalForm? cs
  let labels ← (splitOn '.' normal).mapM readLabel?
  if labels.any (·.text.any isRightToLeft) && !labels.all (directionsFit ·.text) then failure
  let ascii := joinWith '.' (labels.map (·.ascii))
  if ascii.any isForbidden then failure
  return ascii

end LoadTrial.Url.Domain
