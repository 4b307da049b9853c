/-
PEM files. A section stands between a line that begins it and a line that ends it, both with the section's
label; the lines between are its content in base 64. Lines outside of sections do not count.
-/
import LoadTrial.Text.Utf8

namespace LoadTrial.Pem

/-- the sections that have a meaning -/
inductive Label where
  | certificate
  | publicKey
  | rsaPrivateKey
  | privateKey
  | ecPrivateKey
  | revocationList
  | request
  deriving DecidableEq, Repr

def Label.all : List Label :=
  [.certificate, .publicKey, .rsaPrivateKey, .privateKey, .ecPrivateKey, .revocationList, .request]

def Label.text : Label → String
  | .certificate => "CERTIFICATE"
  | .publicKey => "PUBLIC KEY"
  | .rsaPrivateKey => "RSA PRIVATE KEY"
  | .privateKey => "PRIVATE KEY"
  | .ecPrivateKey => "EC PRIVATE KEY"
  | .revocationList => "X509 CRL"
  | .request => "CERTIFICATE REQUEST"

structure Section where
  label : Label
  content : Bytes
  deriving DecidableEq, Repr

/-! ## Base 64 -/

/-- the value of a digit in base 64 -/
def digitValue? (b : UInt8) : Option Nat :=
  let n := b.toNat
  if 65 ≤ n && n ≤ 90 then some (n - 65)
  else if 97 ≤ n && n ≤ 122 then some (n - 71)
  else if 48 ≤ n && n ≤ 57 then some (n + 4)
  else if n == 43 then some 62
  else if n == 47 then some 63
  else none

def isSpace (b : UInt8) : Bool :=
  b == 0x20 || b == 0x09 || b == 0x0A || b == 0x0D

/-- the bytes that some digits denote; one digit cannot stand alone at the end -/
def ofDigits? : List Nat → Option Bytes
  | a :: b :: c :: d :: rest =>
    let n := ((a * 64 + b) * 64 + c) * 64 + d
    (ofDigits? rest).map ([UInt8.ofNat (n / 65536), UInt8.ofNat (n / 256 % 256), UInt8.ofNat (n % 256)] ++ ·)
  | [a, b, c] =>
    let n := (a * 64 + b) * 64 + c
    some [UInt8.ofNat (n / 1024), UInt8.ofNat (n / 4 % 256)]
  | [a, b] => some [UInt8.ofNat ((a * 64 + b) / 16)]
  | [_] => none
  | [] => some []

/-- decodes base 64; blanks do not count, and equals signs fill the last group up -/
def decodeBase64? (text : Bytes) : Option Bytes := do
  let marks := text.filter (!isSpace ·)
  let body := marks.takeWhile (· != 0x3D)
  let fill := marks.dropWhile (· != 0x3D)
  if !fill.all (· == 0x3D) || 2 < fill.length then failure
  if !fill.isEmpty && (body.length + fill.length) % 4 != 0 then failure
  ofDigits? (← body.mapM digitValue?)

/-! ## Lines -/

/-- the lines of some bytes with their ends; a line feed or a carriage return ends a line -/
def lines : Bytes → List Bytes
  | [] => []
  | b :: rest =>
    if b == 0x0A || b == 0x0D then [b] :: lines rest
    else match lines rest with
      | [] => [[b]]
      | line :: more => (b :: line) :: more

def beginMark : Bytes := Text.utf8 "-----BEGIN "
def endMark : Bytes := Text.utf8 "-----END "
def dashes : Bytes := Text.utf8 "-----"

/-- among bytes in reverse: how many dashes stand in front of the first other byte, blanks aside, and what
    follows them -/
def trailingDashes (count : Nat) (rest : Bytes) : Bytes → Nat × Bytes
  | [] => (count, rest)
  | b :: bs =>
    if b == 0x2D then trailingDashes (count + 1) bs bs
    else if b == 0x0A || b == 0x0D || b == 0x20 then trailingDashes count rest bs
    else (count, rest)

/-- the label in a line that begins a section; none if it does not end in five dashes -/
def labelOf? (line : Bytes) : Option Bytes :=
  let (count, rest) := trailingDashes 0 line.reverse line.reverse
  if count == 5 then some (rest.reverse.drop beginMark.length) else none

/-! ## Sections -/

/-- the label of the section that is open, and what was read of contents -/
structure State where
  label : Option Bytes := none
  buffer : Bytes := []

/-- takes up a line: the next state, and the section that the line ends; none if the line is bad -/
def step (st : State) (line : Bytes) : Option (State × Option Section) :=
  if beginMark.isPrefixOf line then
    (labelOf? line).map fun label => ({ st with label := some label }, none)
  else match st.label with
    | none => some (st, none)
    | some label =>
      if (endMark ++ label ++ dashes).isPrefixOf line then
        match Label.all.find? fun l => Text.utf8 l.text == label with
        | none => some ({}, none)
        | some l => (decodeBase64? st.buffer).map fun content => ({}, some ⟨l, content⟩)
      else some ({ st with buffer := st.buffer ++ line }, none)

/-- the sections of some lines; a section must be ended -/
def sectionsFrom (st : State) : List Bytes → Option (List Section)
  | [] => if st.label.isSome then none else some []
  | line :: rest => match step st line with
    | none => none
    | some (next, found) => (sectionsFrom next rest).map (found.toList ++ ·)

/-- the sections of a PEM file; none if one of them is bad -/
def sections? (pem : Bytes) : Option (List Section) :=
  sectionsFrom {} (lines pem)

end LoadTrial.Pem
