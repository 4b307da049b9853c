/-
Paths in normal form: a segment of one dot is dropped, a segment of two dots takes the one in front of it away.
-/
import LoadTrial.Url.Percent
import LoadTrial.Url.Address

namespace LoadTrial.Url.Path

/-- a dot, written plainly or as an escape, is dropped from the front -/
def dropDot : List Char → Option (List Char)
  | '.' :: rest => some rest
  | '%' :: '2' :: 'e' :: rest => some rest
  | '%' :: '2' :: 'E' :: rest => some rest
  | _ => none

/-- a segment of one dot -/
def isSingleDot (segment : List Char) : Bool :=
  dropDot segment == some []

/-- a segment of two dots -/
def isDoubleDot (segment : List Char) : Bool :=
  match dropDot segment with
  | some rest => isSingleDot rest
  | none => false

/-- a letter and a colon or bar: such a segment is never taken away -/
def isDrive (segment : List Char) : Bool :=
  match segment with
  | [a, b] => a.isAlpha && (b == ':' || b == '|')
  | _ => false

/-- takes the last of the finished segments away; they stand in reverse -/
def pop (finished : List (List Char)) : List (List Char) :=
  match finished with
  | [] => []
  | last :: rest => if isDrive last then finished else rest

/-- takes up segments in order; gives the finished ones in reverse, and the text behind the last slash -/
def collect (finished : List (List Char)) : List (List Char) → List (List Char) × List Char
  | [] => (finished, [])
  | [last] =>
    if isDoubleDot last then (pop finished, [])
    else if isSingleDot last then (finished, [])
    else (finished, last)
  | segment :: rest =>
    if isDoubleDot segment then collect (pop finished) rest
    else if isSingleDot segment then collect finished rest
    else collect (segment :: finished) rest

/-- a slash, and every finished segment with a slash behind it -/
def render (p : List (List Char) × List Char) : List Char :=
  '/' :: (p.1.reverse.flatMap (· ++ ['/']) ++ p.2)

/-- the normal form of a path whose segments are given, percent-encoded -/
def normalize (segments : List (List Char)) : List Char :=
  render (collect [] (segments.map (percentEncode pathSet)))

end LoadTrial.Url.Path
