/-
Replies as they come over a connection: a status line, fields, an empty line, and a body whose end is told by a
length, by chunks, or by the end of the connection.
-/
import LoadTrial.Number.Natural
import LoadTrial.Text.Utf8
import LoadTrial.Exchange

namespace LoadTrial.Http

/-- what happens to a connection behind the bytes that have come -/
inductive Ending where
  | closes
  /-- it stays open, and nothing comes any more -/
  | stays
  deriving DecidableEq, Repr

/-- the head of a reply; the names of fields are in lower case -/
structure Head where
  minor : Nat
  status : Nat
  fields : List (String × Bytes)
  deriving DecidableEq

/-- what bytes hold, with the bytes behind it -/
inductive Found (α : Type) where
  | found (a : α) (rest : Bytes)
  /-- the bytes end too early -/
  | wanting
  | broken

/-! ## Heads -/

/-- a line without the carriage return at its end -/
def bare (line : Bytes) : Bytes :=
  if line.getLast? == some 0x0D then line.dropLast else line

/-- lines up to an empty one; none if there is none -/
def splitLines : Bytes → Option (List Bytes × Bytes) :=
  go [] []
where
  /-- `line` and `done` stand in reverse -/
  go (line : Bytes) (done : List Bytes) : Bytes → Option (List Bytes × Bytes)
    | [] => none
    | b :: rest =>
      if b != 0x0A then go (b :: line) done rest
      else
        let finished := bare line.reverse
        if finished.isEmpty then some (done.reverse, rest) else go [] (finished :: done) rest

def isBlankByte (b : UInt8) : Bool :=
  b == 0x20 || b == 0x09

/-- bytes of texts: blanks, visible characters, and all beyond ASCII -/
def isTextByte (b : UInt8) : Bool :=
  b == 0x09 || (0x20 ≤ b && b != 0x7F)

/-- bytes of field names -/
def isNameByte (b : UInt8) : Bool :=
  let c := Char.ofNat b.toNat
  c.isAlphanum || "!#$%&'*+-.^_|~\x60".toList.contains c

def digit? (b : UInt8) : Option Nat :=
  if 0x30 ≤ b && b ≤ 0x39 then some (b.toNat - 0x30) else none

/-- the minor version and the status of a status line; any text may follow -/
def statusLine? (line : Bytes) : Option (Nat × Nat) :=
  match line with
  | 0x48 :: 0x54 :: 0x54 :: 0x50 :: 0x2F :: 0x31 :: 0x2E :: v :: 0x20 :: a :: b :: c :: reason => do
    let minor ← digit? v
    let status := 100 * (← digit? a) + 10 * (← digit? b) + (← digit? c)
    let ends := reason.isEmpty || (reason.head? == some 0x20 && reason.all isTextByte)
    if minor ≤ 1 && 100 ≤ status && ends then some (minor, status) else none
  | _ => none

/-- a field with its name in lower case -/
def field? (line : Bytes) : Option (String × Bytes) :=
  let name := line.takeWhile (· != 0x3A)
  let value := (line.dropWhile (· != 0x3A)).drop 1
  let trimmed := ((value.dropWhile isBlankByte).reverse.dropWhile isBlankByte).reverse
  if name.isEmpty || name.length = line.length || !name.all isNameByte || !value.all isTextByte then none
  else some (String.ofList (name.map fun b => (Char.ofNat b.toNat).toLower), trimmed)

/-- more fields than this are refused -/
def mostFields : Nat := 100

/-- empty lines in front of a head do not count -/
def skipEmptyLines : Bytes → Bytes
  | 0x0A :: rest => skipEmptyLines rest
  | 0x0D :: 0x0A :: rest => skipEmptyLines rest
  | bytes => bytes

/-- the head that bytes begin with -/
def readHead (bytes : Bytes) : Found Head :=
  match splitLines (skipEmptyLines bytes) with
  | none => .wanting
  | some ([], _) => .broken
  | some (first :: lines, rest) =>
    match statusLine? first, lines.mapM field? with
    | some (minor, status), some fields =>
      if mostFields < fields.length then .broken else .found ⟨minor, status, fields⟩ rest
    | _, _ => .broken

namespace Head

/-- the values of a field -/
def values (h : Head) (name : String) : List Bytes :=
  (h.fields.filter (·.1 == name)).map (·.2)

/-- a reply that only says that another one follows -/
def isInterim (h : Head) : Bool :=
  h.status < 200 && h.status != 101

end Head

/-- the head that counts: the first one behind those that only announce it; `fuel` bounds their number -/
def readFinalHead : Nat → Bytes → Found Head
  | 0, _ => .broken
  | fuel + 1, bytes => match readHead bytes with
    | .found h rest => if h.isInterim then readFinalHead fuel rest else .found h rest
    | other => other

/-! ## The end of a body -/

inductive Framing where
  | length (n : Nat)
  | chunks
  | connection
  deriving DecidableEq, Repr

/-- pieces between commas, without the blanks around them -/
def pieces (bytes : Bytes) : List Bytes :=
  let split := bytes.foldr (fun b acc => match acc with
    | [] => [[b]]
    | piece :: more => if b == 0x2C then [] :: piece :: more else (b :: piece) :: more) [[]]
  split.map fun piece => ((piece.dropWhile isBlankByte).reverse.dropWhile isBlankByte).reverse

/-- a length in decimal digits, of 64 bits -/
def length? (bytes : Bytes) : Option Nat :=
  if bytes.isEmpty then none
  else do
    let n := (← bytes.mapM digit?).foldl (fun n d => 10 * n + d) 0
    if n < UInt64.size - 2 then some n else none

/-- all lengths given, which must be the same -/
def sameLength? (values : List Bytes) : Option Nat :=
  match values.flatMap pieces with
  | [] => none
  | first :: more => do
    let n ← length? first
    if more.all (length? · == some n) then some n else none

/-- how the end of the body is told; none if the fields contradict each other -/
def framing? (h : Head) : Option Framing :=
  if h.status == 101 || h.status == 204 || h.status == 304 then some (.length 0)
  else match (h.values "transfer-encoding").getLast? with
    | some value =>
      if h.minor == 0 then none
      else
        let last := ((pieces value).getLast?.getD []).map fun b => (Char.ofNat b.toNat).toLower
        some (if last == "chunked".toList then .chunks else .connection)
    | none =>
      let lengths := h.values "content-length"
      if lengths.isEmpty then some .connection else (sameLength? lengths).map .length

/-! ## Chunks -/

/-- where a reader of chunks stands in front of the next byte -/
inductive Chunk where
  /-- in front of a size -/
  | start
  | size (n : Nat)
  /-- behind the digits of a size -/
  | behindSize (n : Nat)
  | remark (n : Nat)
  /-- behind the carriage return that ends a size -/
  | sizeEnd (n : Nat)
  | data (left : Nat)
  | dataReturn
  | dataEnd
  /-- in front of a line behind the last chunk -/
  | tail
  | tailLine
  | tailLineEnd
  | last
  | finished
  | broken
  deriving DecidableEq, Repr

namespace Chunk

def hexDigit? (b : UInt8) : Option Nat :=
  let c := Char.ofNat b.toNat
  if c.isDigit then some (b.toNat - 48)
  else if 'a' ≤ c && c ≤ 'f' then some (b.toNat - 87)
  else if 'A' ≤ c && c ≤ 'F' then some (b.toNat - 55)
  else none

/-- behind the digits of a size -/
def afterSize (n : Nat) (b : UInt8) : Chunk :=
  if isBlankByte b then .behindSize n
  else if b == 0x3B then .remark n
  else if b == 0x0D then .sizeEnd n
  else .broken

/-- one byte: where the reader stands behind it, and whether the byte is one of the body -/
def step : Chunk → UInt8 → Chunk × Bool
  | .start, b => (match hexDigit? b with | some d => .size d | none => .broken, false)
  | .size n, b => match hexDigit? b with
    | some d => (if 16 * n + d < UInt64.size then .size (16 * n + d) else .broken, false)
    | none => (afterSize n b, false)
  | .behindSize n, b => (afterSize n b, false)
  | .remark n, b => (if b == 0x0D then .sizeEnd n else if b == 0x0A then .broken else .remark n, false)
  | .sizeEnd n, b => (if b != 0x0A then .broken else if n = 0 then .tail else .data n, false)
  | .data left, _ => (if left ≤ 1 then .dataReturn else .data (left - 1), true)
  | .dataReturn, b => (if b == 0x0D then .dataEnd else .broken, false)
  | .dataEnd, b => (if b == 0x0A then .start else .broken, false)
  | .tail, b => (if b == 0x0D then .last else .tailLine, false)
  | .tailLine, b => (if b == 0x0D then .tailLineEnd else .tailLine, false)
  | .tailLineEnd, b => (if b == 0x0A then .tail else .broken, false)
  | .last, b => (if b == 0x0A then .finished else .broken, false)
  | .finished, _ => (.finished, false)
  | .broken, _ => (.broken, false)

/-- where the reader stands behind some bytes, and the bytes of the body among them -/
def run (c : Chunk) : Bytes → Chunk × Bytes
  | [] => (c, [])
  | b :: rest =>
    let (c', inBody) := step c b
    let (final, body) := run c' rest
    (final, if inBody then b :: body else body)

end Chunk

/-! ## Replies -/

/-- what comes of a body that has not ended when no byte comes any more -/
def unfinished : Ending → Exchange.Body
  | .closes => .broken
  | .stays => .timedOut

/-- reads a body -/
def readBody (framing : Framing) (bytes : Bytes) (ending : Ending) : Exchange.Body :=
  match framing with
  | .length n => if n ≤ bytes.length then .complete (bytes.take n) else unfinished ending
  | .chunks => match Chunk.run .start bytes with
    | (.finished, body) => .complete body
    | (.broken, _) => .broken
    | _ => unfinished ending
  | .connection => match ending with
    | .closes => .complete bytes
    | .stays => .timedOut

/-- what comes over a connection in answer to a request -/
inductive Reply where
  | timedOut
  | broken
  | reply (head : Head) (body : Exchange.Body)

/-- reads the answer to a request -/
def Reply.read (bytes : Bytes) (ending : Ending) : Reply :=
  match readFinalHead (bytes.length + 1) bytes with
  | .broken => .broken
  | .wanting => match ending with
    | .closes => .broken
    | .stays => .timedOut
  | .found head rest => match framing? head with
    | some framing => .reply head (readBody framing rest ending)
    | none => .broken

end LoadTrial.Http
