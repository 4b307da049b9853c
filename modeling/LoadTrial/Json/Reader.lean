/-
Reading JSON text, one character at a time. The reader's state says what may come next; `step` takes one
character to the next state or names the fault, and the text is read by folding `step` over it. A fault is
reported with the line and column reached, columns counted in bytes.
-/
import LoadTrial.Json.Basic
import LoadTrial.Number.Natural
import LoadTrial.Number.Text

namespace LoadTrial.Json

/-! ## Faults -/

/-- why a text is not JSON -/
inductive Cause where
  | endInList
  | endInObject
  | endInString
  | endInValue
  | expectedColon
  | expectedListCommaOrEnd
  | expectedObjectCommaOrEnd
  | expectedWord
  | expectedValue
  | invalidEscape
  | invalidNumber
  | numberOutOfRange
  | controlCharacter
  | keyMustBeString
  | loneSurrogate
  | trailingComma
  | trailingCharacters
  | unfinishedSurrogate
  | tooDeep
  deriving DecidableEq, Repr

def Cause.message : Cause → String
  | .endInList => "EOF while parsing a list"
  | .endInObject => "EOF while parsing an object"
  | .endInString => "EOF while parsing a string"
  | .endInValue => "EOF while parsing a value"
  | .expectedColon => "expected `:`"
  | .expectedListCommaOrEnd => "expected `,` or `]`"
  | .expectedObjectCommaOrEnd => "expected `,` or `\x7d`"
  | .expectedWord => "expected ident"
  | .expectedValue => "expected value"
  | .invalidEscape => "invalid escape"
  | .invalidNumber => "invalid number"
  | .numberOutOfRange => "number out of range"
  | .controlCharacter => "control character (\\u0000-\\u001F) found while parsing a string"
  | .keyMustBeString => "key must be a string"
  | .loneSurrogate => "lone leading surrogate in hex escape"
  | .trailingComma => "trailing comma"
  | .trailingCharacters => "trailing characters"
  | .unfinishedSurrogate => "unexpected end of hex escape"
  | .tooDeep => "recursion limit exceeded"

/-- where in the text a fault shows: in front of the character at hand, or some bytes into it -/
inductive Place where
  | before
  | bytes (n : Nat)

structure StepFault where
  cause : Cause
  place : Place := .bytes 1

/-- a place in a text: lines count from one, columns in bytes from zero -/
structure Position where
  line : Nat
  column : Nat
  deriving DecidableEq, Repr

def Position.after (p : Position) (c : Char) : Position :=
  if c == '\n' then ⟨p.line + 1, 0⟩ else ⟨p.line, p.column + c.utf8Size⟩

structure ReadFault where
  cause : Cause
  position : Position
  deriving DecidableEq, Repr

def ReadFault.message (f : ReadFault) : String :=
  f.cause.message ++ " at line " ++ Number.decimal f.position.line ++ " column " ++ Number.decimal f.position.column

/-! ## Numbers -/

/-- how far a number has been read -/
inductive NumberPart where
  /-- behind the minus sign -/
  | sign
  /-- behind a leading zero -/
  | zero
  /-- in the whole part -/
  | whole
  /-- in a whole part of which digits have been dropped -/
  | longWhole
  /-- behind the point -/
  | point
  /-- in the fraction -/
  | fraction
  /-- in a fraction of which digits have been dropped -/
  | longFraction
  /-- behind the letter of the exponent -/
  | mark
  /-- behind the sign of the exponent -/
  | exponentSign
  /-- in the digits of the exponent -/
  | exponent
  /-- in an exponent that is too large to matter -/
  | vastExponent
  deriving DecidableEq

/-- a number being read: a significand of at most 64 bits, the power of ten that its point and dropped digits
    stand for, and the written exponent -/
structure Numeral where
  part : NumberPart
  negative : Bool
  significand : Nat := 0
  shift : Int := 0
  exponentNegative : Bool := false
  exponent : Nat := 0

namespace Numeral

open LoadTrial.Number (Binary64)

def limit : Nat := UInt64.size - 1

def exponentLimit : Nat := UInt32.size / 2 - 1

/-- the powers of ten up to 10^308, each rounded to a double -/
def power (n : Nat) : Binary64 :=
  Binary64.ofNat (Nat.pow 10 n)

/-- `x · 10^e`, scaled by one power of ten, or by several where e is below -308; none if it is too large -/
def scaled (fuel : Nat) (x : Binary64) (e : Int) : Option Binary64 :=
  if e.natAbs ≤ 308 then
    if 0 ≤ e then
      let y := x.mul (power e.natAbs)
      if y.isFinite then some y else none
    else some (x.div (power e.natAbs))
  else if x == Binary64.zero then some x
  else if 0 ≤ e then none
  else match fuel with
    | 0 => some Binary64.zero
    | fuel + 1 => scaled fuel (x.div (power 308)) (e + 308)

/-- the number as a double; its significand is rounded first, then scaled -/
def real? (m : Numeral) : Option Binary64 :=
  let e := if m.exponentNegative then m.shift - m.exponent else m.shift + m.exponent
  (scaled 4 (Binary64.ofNat m.significand) e).map fun x => if m.negative then x.negate else x

/-- the number read, once a character follows that is not part of it -/
def finish (m : Numeral) : Except StepFault Json :=
  match m.part with
  | .sign => .error ⟨.invalidNumber, .bytes 1⟩
  | .point => .error ⟨.invalidNumber, .bytes 1⟩
  | .mark => .error ⟨.invalidNumber, .bytes 1⟩
  | .exponentSign => .error ⟨.invalidNumber, .bytes 1⟩
  | .zero => if m.negative then .ok (.real (.finite true 0)) else .ok (.integer 0)
  | .whole =>
    if !m.negative then .ok (.integer m.significand)
    else if m.significand ≤ UInt64.size / 2 then .ok (.integer (-m.significand))
    else .ok (.real (Binary64.ofNat m.significand).negate)
  | .vastExponent => .ok (.real (.finite m.negative 0))
  | .longWhole | .fraction | .longFraction | .exponent =>
    match m.real? with
    | some x => .ok (.real x)
    | none => .error ⟨.numberOutOfRange, .before⟩

/-- a digit of the exponent; an exponent beyond 31 bits is a fault unless it makes the number zero -/
def exponentDigit (m : Numeral) (d : Nat) : Except StepFault Numeral :=
  let e := 10 * m.exponent + d
  if e ≤ exponentLimit then .ok { m with part := .exponent, exponent := e }
  else if m.significand != 0 && !m.exponentNegative then .error ⟨.numberOutOfRange, .bytes 1⟩
  else .ok { m with part := .vastExponent }

/-- takes one character into the number; none if it is not part of it -/
def step (m : Numeral) (c : Char) : Except StepFault (Option Numeral) :=
  let d := Number.digitValue c
  let grown := 10 * m.significand + d
  if c.isDigit then
    match m.part with
    | .sign => .ok (some { m with part := if d == 0 then .zero else .whole, significand := d })
    | .zero => .error ⟨.invalidNumber, .bytes 1⟩
    | .whole =>
      if grown ≤ limit then .ok (some { m with significand := grown })
      else .ok (some { m with part := .longWhole, shift := m.shift + 1 })
    | .longWhole => .ok (some { m with shift := m.shift + 1 })
    | .point | .fraction =>
      if grown ≤ limit then .ok (some { m with part := .fraction, significand := grown, shift := m.shift - 1 })
      else .ok (some { m with part := .longFraction })
    | .longFraction => .ok (some m)
    | .mark | .exponentSign | .exponent => (m.exponentDigit d).map some
    | .vastExponent => .ok (some m)
  else
    match m.part, c with
    | .zero, '.' | .whole, '.' | .longWhole, '.' => .ok (some { m with part := .point })
    | .zero, 'e' | .whole, 'e' | .longWhole, 'e' | .fraction, 'e' | .longFraction, 'e'
    | .zero, 'E' | .whole, 'E' | .longWhole, 'E' | .fraction, 'E' | .longFraction, 'E' =>
      .ok (some { m with part := .mark })
    | .mark, '+' => .ok (some { m with part := .exponentSign })
    | .mark, '-' => .ok (some { m with part := .exponentSign, exponentNegative := true })
    | _, _ => .ok none

end Numeral

/-! ## The reader's state -/

/-- an array or object that has been opened; what it holds so far stands in reverse -/
inductive Frame where
  | array (items : List Json)
  | object (fields : List (String × Json)) (key : String)

/-- what may come next between two tokens -/
inductive Awaited where
  /-- a value -/
  | value
  /-- the first item of an array, or its end -/
  | firstItem
  /-- the item behind a comma -/
  | nextItem
  /-- the first key of an object, or its end -/
  | firstKey (fields : List (String × Json))
  /-- the key behind a comma -/
  | nextKey (fields : List (String × Json))
  /-- the colon behind a key -/
  | colon
  /-- a comma, or the end of the array or object at hand -/
  | more
  /-- nothing: the document is complete -/
  | nothing (document : Json)

/-- how far an escape in a string has been read; `high` is the first half of a surrogate pair -/
inductive Escape where
  /-- behind the backslash -/
  | slash
  /-- in the four hexadecimal digits; `left` bytes are missing -/
  | hex (left value : Nat) (sound : Bool) (high : Option Nat)
  /-- behind the first half of a pair -/
  | pairSlash (high : Nat)
  /-- behind the backslash that opens the second half -/
  | pairLetter (high : Nat)

/-- what is being read -/
inductive Mode where
  | between (awaited : Awaited)
  | word (next : Char) (rest : List Char) (value : Json)
  | number (numeral : Numeral)
  /-- a string, of which `content` holds the characters so far in reverse; as a key, it keeps the fields before it -/
  | text (key : Option (List (String × Json))) (content : List Char)
  | escape (key : Option (List (String × Json))) (content : List Char) (at_ : Escape)

structure State where
  frames : List Frame
  mode : Mode

def State.initial : State := ⟨[], .between .value⟩

/-- the deepest nesting that is read -/
def depthLimit : Nat := 127

/-- what is open and what may come behind a complete value -/
def accept (frames : List Frame) (value : Json) : List Frame × Awaited :=
  match frames with
  | [] => ([], .nothing value)
  | .array items :: rest => (.array (value :: items) :: rest, .more)
  | .object fields key :: rest => (.object ((key, value) :: fields) key :: rest, .more)

/-- the state between two tokens -/
def State.between (p : List Frame × Awaited) : State :=
  ⟨p.1, .between p.2⟩

def fault (cause : Cause) : Except StepFault State :=
  .error ⟨cause, .bytes 1⟩

def isSpace (c : Char) : Bool :=
  c == ' ' || c == '\n' || c == '\t' || c == '\r'

/-- the first character of a value -/
def openValue (frames : List Frame) (c : Char) : Except StepFault State :=
  if c == 'n' then .ok ⟨frames, .word 'u' ['l', 'l'] .null⟩
  else if c == 't' then .ok ⟨frames, .word 'r' ['u', 'e'] (.bool true)⟩
  else if c == 'f' then .ok ⟨frames, .word 'a' ['l', 's', 'e'] (.bool false)⟩
  else if c == '-' then .ok ⟨frames, .number { part := .sign, negative := true }⟩
  else if c == '0' then .ok ⟨frames, .number { part := .zero, negative := false }⟩
  else if c.isDigit then
    .ok ⟨frames, .number { part := .whole, negative := false, significand := Number.digitValue c }⟩
  else if c == '"' then .ok ⟨frames, .text none []⟩
  else if c == '[' then
    if frames.length < depthLimit then .ok ⟨.array [] :: frames, .between .firstItem⟩ else fault .tooDeep
  else if c == '{' then
    if frames.length < depthLimit then .ok ⟨frames, .between (.firstKey [])⟩ else fault .tooDeep
  else fault .expectedValue

/-- the comma or closing bracket behind a value -/
def closeOrContinue (frames : List Frame) (c : Char) : Except StepFault State :=
  match frames with
  | [] => fault .trailingCharacters
  | .array items :: rest =>
    if c == ']' then .ok (.between (accept rest (.array items.reverse)))
    else if c == ',' then .ok ⟨frames, .between .nextItem⟩
    else fault .expectedListCommaOrEnd
  | .object fields _ :: rest =>
    if c == '}' then .ok (.between (accept rest (.object fields.reverse)))
    else if c == ',' then .ok ⟨rest, .between (.nextKey fields)⟩
    else fault .expectedObjectCommaOrEnd

/-- a character between two tokens -/
def stepBetween (frames : List Frame) (awaited : Awaited) (c : Char) : Except StepFault State :=
  if isSpace c then .ok ⟨frames, .between awaited⟩
  else match awaited with
    | .value => openValue frames c
    | .firstItem =>
      if c == ']' then
        match frames with
        | .array items :: rest => .ok (.between (accept rest (.array items.reverse)))
        | _ => fault .expectedValue
      else openValue frames c
    | .nextItem => if c == ']' then fault .trailingComma else openValue frames c
    | .firstKey fields =>
      if c == '}' then .ok (.between (accept frames (.object fields.reverse)))
      else if c == '"' then .ok ⟨frames, .text (some fields) []⟩
      else fault .keyMustBeString
    | .nextKey fields =>
      if c == '"' then .ok ⟨frames, .text (some fields) []⟩
      else if c == '}' then fault .trailingComma
      else fault .keyMustBeString
    | .colon => if c == ':' then .ok ⟨frames, .between .value⟩ else fault .expectedColon
    | .more => closeOrContinue frames c
    | .nothing _ => fault .trailingCharacters

/-- the character that a short escape stands for -/
def shortEscape (c : Char) : Option Char :=
  if c == '"' then some '"'
  else if c == '\\' then some '\\'
  else if c == '/' then some '/'
  else if c == 'b' then some '\x08'
  else if c == 'f' then some '\x0c'
  else if c == 'n' then some '\n'
  else if c == 'r' then some '\r'
  else if c == 't' then some '\t'
  else none

def hexValue (c : Char) : Option Nat :=
  if c.isDigit then some (c.toNat - 48)
  else if 'a' ≤ c && c ≤ 'f' then some (c.toNat - 87)
  else if 'A' ≤ c && c ≤ 'F' then some (c.toNat - 55)
  else none

/-- four hexadecimal digits have been read: a character, or half of a surrogate pair -/
def unicodeEscape (content : List Char) (value : Nat) (high : Option Nat) :
    Except StepFault (List Char × Option Escape) :=
  match high with
  | some h =>
    if 0xDC00 ≤ value && value ≤ 0xDFFF then
      .ok (Char.ofNat (0x10000 + (h - 0xD800) * 1024 + (value - 0xDC00)) :: content, none)
    else .error ⟨.loneSurrogate, .bytes 1⟩
  | none =>
    if 0xDC00 ≤ value && value ≤ 0xDFFF then .error ⟨.loneSurrogate, .bytes 1⟩
    else if 0xD800 ≤ value && value ≤ 0xDBFF then .ok (content, some (.pairSlash value))
    else .ok (Char.ofNat value :: content, none)

/-- a character of an escape: the content behind it, and how the escape goes on -/
def stepEscape (content : List Char) (e : Escape) (c : Char) : Except StepFault (List Char × Option Escape) :=
  match e with
  | .slash =>
    if c == 'u' then .ok (content, some (.hex 4 0 true none))
    else match shortEscape c with
      | some x => .ok (x :: content, none)
      | none => .error ⟨.invalidEscape, .bytes 1⟩
  | .hex left value sound high =>
    let (value, sound) := match hexValue c with
      | some d => (16 * value + d, sound)
      | none => (value, false)
    if c.utf8Size < left then .ok (content, some (.hex (left - c.utf8Size) value sound high))
    else if !sound then .error ⟨.invalidEscape, .bytes left⟩
    else unicodeEscape content value high
  | .pairSlash high =>
    if c == '\\' then .ok (content, some (.pairLetter high)) else .error ⟨.unfinishedSurrogate, .bytes 1⟩
  | .pairLetter high =>
    if c == 'u' then .ok (content, some (.hex 4 0 true (some high)))
    else .error ⟨.unfinishedSurrogate, .bytes 1⟩

/-- the state behind the closing quote -/
def closeText (frames : List Frame) (key : Option (List (String × Json))) (content : List Char) : State :=
  let s := String.ofList content.reverse
  match key with
  | some fields => ⟨.object fields s :: frames, .between .colon⟩
  | none => .between (accept frames (.string s))

/-- takes one character -/
def step (st : State) (c : Char) : Except StepFault State :=
  match st.mode with
  | .between awaited => stepBetween st.frames awaited c
  | .word next rest value =>
    if c != next then fault .expectedWord
    else match rest with
      | [] => .ok (.between (accept st.frames value))
      | next' :: rest' => .ok ⟨st.frames, .word next' rest' value⟩
  | .number m =>
    match m.step c with
    | .error e => .error e
    | .ok (some m') => .ok ⟨st.frames, .number m'⟩
    | .ok none =>
      match m.finish with
      | .error e => .error e
      | .ok value =>
        let (frames, awaited) := accept st.frames value
        stepBetween frames awaited c
  | .text key content =>
    if c == '"' then .ok (closeText st.frames key content)
    else if c == '\\' then .ok ⟨st.frames, .escape key content .slash⟩
    else if c.toNat < 0x20 then fault .controlCharacter
    else .ok ⟨st.frames, .text key (c :: content)⟩
  | .escape key content e =>
    match stepEscape content e c with
    | .error f => .error f
    | .ok (content', some e') => .ok ⟨st.frames, .escape key content' e'⟩
    | .ok (content', none) => .ok ⟨st.frames, .text key content'⟩

/-- what is missing when the text ends between two tokens -/
def endBetween (frames : List Frame) : Awaited → Except Cause Json
  | .value | .nextItem | .nextKey _ => .error .endInValue
  | .firstItem => .error .endInList
  | .firstKey _ | .colon => .error .endInObject
  | .nothing document => .ok document
  | .more =>
    match frames with
    | .object .. :: _ => .error .endInObject
    | _ => .error .endInList

/-- the document read when the text ends, or what is missing -/
def finish (st : State) : Except Cause Json :=
  match st.mode with
  | .between awaited => endBetween st.frames awaited
  | .word .. => .error .endInValue
  | .text .. | .escape .. => .error .endInString
  | .number m =>
    match m.part, m.finish with
    | .sign, _ | .point, _ | .mark, _ | .exponentSign, _ => .error .endInValue
    | _, .error e => .error e.cause
    | _, .ok value =>
      let (frames, awaited) := accept st.frames value
      endBetween frames awaited

/-- reads on from a state and a position -/
def readFrom (st : State) (at_ : Position) : List Char → Except ReadFault Json
  | [] => match finish st with
    | .ok j => .ok j
    | .error cause => .error ⟨cause, at_⟩
  | c :: cs => match step st c with
    | .ok st' => readFrom st' (at_.after c) cs
    | .error ⟨cause, .before⟩ => .error ⟨cause, at_⟩
    | .error ⟨cause, .bytes n⟩ =>
      .error ⟨cause, if c == '\n' then at_.after c else ⟨at_.line, at_.column + n⟩⟩

/-- reads a whole document -/
def read (s : String) : Except ReadFault Json :=
  readFrom .initial ⟨1, 0⟩ s.toList

end LoadTrial.Json
