/-
Environment files. A line assigns a value to a name; the value may be quoted, may hold escapes, and may refer to
variables that are set already. Lines take effect one by one, and only on variables that are not set, until one
of them is bad.
-/
import LoadTrial.Environment.Basic
import LoadTrial.Text.Alphanumeric
import LoadTrial.Text.Blank
import LoadTrial.Text.Utf8
import LoadTrial.Number.Natural

namespace LoadTrial.EnvFile

/-- why a line is bad -/
inductive Fault where
  /-- the text cannot be read on from `index` -/
  | badLine (text : String) (index : Nat)
  | notUtf8
  /-- a value that no variable can hold -/
  | nulInValue
  deriving DecidableEq, Repr

def Fault.message : Fault → String
  | .badLine text index => "Error parsing line: '" ++ text ++ "', error at line index: " ++ Number.decimal index
  | .notUtf8 => "stream did not contain valid UTF-8"
  | .nulInValue => "failed to set environment variable: value contains a NUL byte"

/-! ## Values -/

/-- where the reader of a value stands; `weak` says that it is inside double quotes -/
inductive ValueState where
  | text (weak : Bool)
  /-- behind a backslash -/
  | escape (weak : Bool)
  /-- inside single quotes -/
  | strong
  /-- in a reference to a variable, behind the dollar sign -/
  | reference (weak : Bool) (name : List Char)
  /-- in a reference to a variable, behind the opening brace -/
  | braces (weak : Bool) (name : List Char)
  /-- behind the blank that ends the value -/
  | blank
  | comment
  deriving DecidableEq, Repr

/-- the value of a variable that is referred to; empty if it is not set -/
def referred (env : Environment) (name : List Char) : List Char :=
  ((env.get? (String.ofList name)).getD "").toList

/-- the character that an escape stands for -/
def escaped? (c : Char) : Option Char :=
  if c == '\\' || c == '\'' || c == '"' || c == '$' || c == ' ' then some c
  else if c == 'n' then some '\n'
  else none

/-- takes one character: what it adds to the value, and the next state; none if it cannot stand there -/
def ValueState.step (env : Environment) : ValueState → Char → Option (List Char × ValueState)
  | .text weak, c =>
    if c == '$' then some ([], .reference weak [])
    else if c == '\\' then some ([], .escape weak)
    else if c == '"' then some ([], .text !weak)
    else if weak then some ([c], .text weak)
    else if c == '\'' then some ([], .strong)
    else if c == ' ' || c == '\t' then some ([], .blank)
    else some ([c], .text weak)
  | .escape weak, c => (escaped? c).map fun x => ([x], .text weak)
  | .strong, c => if c == '\'' then some ([], .text false) else some ([c], .strong)
  | .reference weak name, c =>
    if Text.isAlphanumeric c then some ([], .reference weak (name ++ [c]))
    else if c == '{' && name.isEmpty then some ([], .braces weak [])
    else if c == '$' then some (referred env name, .reference weak [])
    else some (referred env name ++ [c], .text weak)
  | .braces weak name, c =>
    if c == '}' then some (referred env name, .text weak) else some ([], .braces weak (name ++ [c]))
  | .blank, c =>
    if c == ' ' || c == '\t' then some ([], .blank)
    else if c == '#' then some ([], .comment)
    else none
  | .comment, _ => some ([], .comment)

/-- the end of a value: what a reference at the end adds; none inside braces or quotes -/
def ValueState.finish (env : Environment) : ValueState → Option (List Char)
  | .text weak => if weak then none else some []
  | .escape weak => if weak then none else some []
  | .strong => none
  | .reference weak name => if weak then none else some (referred env name)
  | .braces .. => none
  | .blank => some []
  | .comment => some []

/-- reads a value from the character at `index`; the fault is the index of a character, or none at the end -/
def readValueFrom (env : Environment) (st : ValueState) (index : Nat) : List Char → Except (Option Nat) (List Char)
  | [] => match st.finish env with
    | some out => .ok out
    | none => .error none
  | c :: cs => match st.step env c with
    | none => .error (some index)
    | some (out, next) => (readValueFrom env next (index + 1) cs).map (out ++ ·)

/-- reads a value; a fault at its end is reported at its last byte -/
def readValue (env : Environment) (cs : List Char) : Except Fault String :=
  match readValueFrom env (.text false) 0 cs with
  | .ok out => .ok (String.ofList out)
  | .error (some index) => .error (.badLine (String.ofList cs) index)
  | .error none => .error (.badLine (String.ofList cs) ((String.ofList cs).utf8ByteSize - 1))

/-! ## Lines -/

def isNameStart (c : Char) : Bool :=
  c.isAlpha || c == '_'

def isNameChar (c : Char) : Bool :=
  c.isAlphanum || c == '_' || c == '.'

/-- the name in front, and what follows it; none if there is no name -/
def splitName (cs : List Char) : Option (List Char × List Char) :=
  match cs with
  | [] => none
  | c :: _ => if isNameStart c then some (cs.takeWhile isNameChar, cs.dropWhile isNameChar) else none

def skipBlanks (cs : List Char) : List Char :=
  cs.dropWhile Text.isBlank

/-- nothing but a comment follows -/
def isBare (cs : List Char) : Bool :=
  cs.isEmpty || cs.head? == some '#'

/-- the name that a line assigns to and the characters behind its equals sign; the fault is what is left where
    the line cannot be read on. The word `export` may stand in front of the name -/
def splitAssignment (cs : List Char) : Except (List Char) (List Char × List Char) :=
  match splitName cs with
  | none => .error cs
  | some (name, rest) =>
    match skipBlanks rest with
    | '=' :: value => .ok (name, value)
    | rest =>
      if name == "export".toList then
        match splitName rest with
        | none => .error rest
        | some (name, rest) =>
          match skipBlanks rest with
          | '=' :: value => .ok (name, value)
          | rest => .error rest
      else .error rest

/-- reads a line: a name and its value, or nothing -/
def readLine (env : Environment) (line : String) : Except Fault (Option (String × String)) :=
  let trimmed := Text.dropTail Text.isBlank line.toList
  let cs := skipBlanks trimmed
  if isBare cs then .ok none
  else match splitAssignment cs with
    | .error rest =>
      .error (.badLine line ((String.ofList trimmed).utf8ByteSize - (String.ofList rest).utf8ByteSize))
    | .ok (name, value) =>
      let value := skipBlanks value
      if isBare value then .ok (some (String.ofList name, ""))
      else (readValue env value).map fun v => some (String.ofList name, v)

/-! ## Files -/

/-- the lines of some bytes, without their line breaks; a carriage return belongs to the break behind it -/
def lines (bytes : Bytes) : List Bytes :=
  match bytes with
  | [] => []
  | b :: rest =>
    if b == 0x0A then [] :: lines rest
    else if b == 0x0D && rest.head? == some 0x0A then lines rest
    else match rest, lines rest with
      | [], _ => [[b]]
      | _ :: _, [] => [[b]]
      | _ :: _, line :: more => (b :: line) :: more

/-- the effect of one line -/
def applyLine (env : Environment) (line : Bytes) : Except Fault Environment :=
  match Text.ofUtf8? line with
  | none => .error .notUtf8
  | some text => match readLine env text with
    | .error f => .error f
    | .ok none => .ok env
    | .ok (some (name, value)) =>
      if !env.isSet name && value.toList.contains '\x00' then .error .nulInValue
      else .ok (env.setIfUnset name value)

/-- the effect of some lines: the environment they leave, and the fault of the first bad one -/
def applyLines (env : Environment) : List Bytes → Environment × Option Fault
  | [] => (env, none)
  | line :: rest => match applyLine env line with
    | .error f => (env, some f)
    | .ok env' => applyLines env' rest

/-- the effect of a file -/
def apply (env : Environment) (content : Bytes) : Environment × Option Fault :=
  applyLines env (lines content)

end LoadTrial.EnvFile
