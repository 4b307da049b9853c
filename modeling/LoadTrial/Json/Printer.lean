/-
JSON text in the indented form: two blanks for each level, one item or field on a line, a blank behind the colon,
and empty arrays and objects closed at once. A string escapes quotes, backslashes and control characters only.
-/
import LoadTrial.Json.Basic
import LoadTrial.Number.Natural
import LoadTrial.Number.Text

namespace LoadTrial.Json

/-- a hexadecimal digit, in lower case -/
def hexDigit (n : Nat) : Char :=
  if n < 10 then Char.ofNat (48 + n) else Char.ofNat (87 + n)

/-- a character inside a quoted string -/
def escape (c : Char) : List Char :=
  if c == '"' then ['\\', '"']
  else if c == '\\' then ['\\', '\\']
  else if c == '\x08' then ['\\', 'b']
  else if c == '\x0c' then ['\\', 'f']
  else if c == '\n' then ['\\', 'n']
  else if c == '\r' then ['\\', 'r']
  else if c == '\t' then ['\\', 't']
  else if c.toNat < 0x20 then ['\\', 'u', '0', '0', hexDigit (c.toNat / 16), hexDigit (c.toNat % 16)]
  else [c]

def quoted (s : String) : List Char :=
  '"' :: (s.toList.flatMap escape ++ ['"'])

def integerText (n : Int) : List Char :=
  if n < 0 then '-' :: Number.digits n.natAbs else Number.digits n.natAbs

/-- a line break and the blanks of a level -/
def newline (level : Nat) : List Char :=
  '\n' :: List.replicate (2 * level) ' '

mutual

/-- the text of a document whose first line stands at the given level -/
def prettyAt (level : Nat) : Json → List Char
  | .null => "null".toList
  | .bool true => "true".toList
  | .bool false => "false".toList
  | .integer n => integerText n
  | .real x => x.toText.toList
  | .string s => quoted s
  | .array [] => ['[', ']']
  | .array (item :: items) =>
    '[' :: (newline (level + 1) ++ prettyAt (level + 1) item ++ prettyItems (level + 1) items
      ++ newline level ++ [']'])
  | .object [] => ['{', '}']
  | .object ((name, value) :: fields) =>
    '{' :: (newline (level + 1) ++ quoted name ++ [':', ' '] ++ prettyAt (level + 1) value
      ++ prettyFields (level + 1) fields ++ newline level ++ ['}'])

/-- the items behind the first -/
def prettyItems (level : Nat) : List Json → List Char
  | [] => []
  | item :: items => ',' :: (newline level ++ prettyAt level item ++ prettyItems level items)

/-- the fields behind the first -/
def prettyFields (level : Nat) : List (String × Json) → List Char
  | [] => []
  | (name, value) :: fields =>
    ',' :: (newline level ++ quoted name ++ [':', ' '] ++ prettyAt level value ++ prettyFields level fields)

end

/-- the indented text of a document -/
def pretty (j : Json) : String :=
  String.ofList (prettyAt 0 j)

end LoadTrial.Json
