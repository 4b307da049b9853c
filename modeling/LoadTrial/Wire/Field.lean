/-
Fields of a wire message: a key, which is a tag and a wire type, and a value in the form the wire type names.
This module reads and writes keys and single values, skips fields with unknown tags, and names what can be
wrong with them.
-/
import LoadTrial.Wire.Varint
import LoadTrial.Number.Natural

namespace LoadTrial.Wire

open Text (utf8 ofUtf8?)

/-- the form in which the value of a field is written -/
inductive WireType where
  | varint
  | sixtyFourBit
  | lengthDelimited
  | startGroup
  | endGroup
  | thirtyTwoBit
  deriving DecidableEq, Repr

namespace WireType

def code : WireType → Nat
  | .varint => 0
  | .sixtyFourBit => 1
  | .lengthDelimited => 2
  | .startGroup => 3
  | .endGroup => 4
  | .thirtyTwoBit => 5

def ofCode? : Nat → Option WireType
  | 0 => some .varint
  | 1 => some .sixtyFourBit
  | 2 => some .lengthDelimited
  | 3 => some .startGroup
  | 4 => some .endGroup
  | 5 => some .thirtyTwoBit
  | _ => none

def name : WireType → String
  | .varint => "Varint"
  | .sixtyFourBit => "SixtyFourBit"
  | .lengthDelimited => "LengthDelimited"
  | .startGroup => "StartGroup"
  | .endGroup => "EndGroup"
  | .thirtyTwoBit => "ThirtyTwoBit"

end WireType

/-! ## Faults -/

/-- why bytes are not a message -/
inductive Cause where
  | invalidVarint
  | bufferUnderflow
  | lengthExceeded
  | wrongWireType (actual expected : WireType)
  | unknownWireType (code : Nat)
  | zeroTag
  | invalidKey (key : Nat)
  | unexpectedEndGroup
  | tooDeep
  | invalidText
  | other (description : String)
  deriving DecidableEq, Repr

def Cause.message : Cause → String
  | .invalidVarint => "invalid varint"
  | .bufferUnderflow => "buffer underflow"
  | .lengthExceeded => "delimited length exceeded"
  | .wrongWireType actual expected =>
    "invalid wire type: " ++ actual.name ++ " (expected " ++ expected.name ++ ")"
  | .unknownWireType code => "invalid wire type value: " ++ Number.decimal code
  | .zeroTag => "invalid tag value: 0"
  | .invalidKey key => "invalid key value: " ++ Number.decimal key
  | .unexpectedEndGroup => "unexpected end group tag"
  | .tooDeep => "recursion limit reached"
  | .invalidText => "invalid string value: data is not UTF-8 encoded"
  | .other description => description

/-- a cause with the fields in which it was met, as message and field name, the innermost first -/
structure Fault where
  cause : Cause
  path : List (String × String) := []
  deriving DecidableEq, Repr

def Fault.message (f : Fault) : String :=
  "failed to decode Protobuf message: "
    ++ String.join (f.path.map fun (message, field) => message ++ "." ++ field ++ ": ") ++ f.cause.message

/-- reading from the front of some bytes: a value and what is left, or a fault -/
abbrev Reader (α : Type) := Bytes → Except Fault (α × Bytes)

namespace Reader

variable {α β : Type}

def fail (cause : Cause) : Except Fault α :=
  .error { cause }

/-- names the field in which the reader works -/
def within (message field : String) (r : Reader α) : Reader α := fun bytes =>
  match r bytes with
  | .ok p => .ok p
  | .error f => .error { f with path := f.path ++ [(message, field)] }

/-- passes the value read through a function -/
def map (g : α → β) (r : Reader α) : Reader β := fun bytes =>
  match r bytes with
  | .ok (a, rest) => .ok (g a, rest)
  | .error f => .error f

end Reader

open Reader (fail)

/-! ## Keys -/

structure Key where
  tag : Nat
  wireType : WireType
  deriving DecidableEq, Repr

def Key.encode (k : Key) : Bytes :=
  Varint.encode (8 * k.tag + k.wireType.code)

def readVarint : Reader Nat := fun bytes =>
  match Varint.decode bytes with
  | some p => .ok p
  | none => fail .invalidVarint

/-- reads a key; it has 32 bits, and the tag 0 does not exist -/
def readKey : Reader Key := fun bytes =>
  match readVarint bytes with
  | .error f => .error f
  | .ok (key, rest) =>
    if UInt32.size ≤ key then fail (.invalidKey key)
    else match WireType.ofCode? (key % 8) with
      | none => fail (.unknownWireType (key % 8))
      | some wireType => if key / 8 == 0 then fail .zeroTag else .ok (⟨key / 8, wireType⟩, rest)

/-! ## Values -/

/-- reads with `r` if the field has the wire type that its tag calls for -/
def expecting {α : Type} (expected actual : WireType) (r : Reader α) : Reader α := fun bytes =>
  if actual = expected then r bytes else fail (.wrongWireType actual expected)

/-- a number of 32 bits; higher bits are dropped -/
def readUInt32 (wireType : WireType) : Reader UInt32 :=
  expecting .varint wireType (readVarint.map UInt32.ofNat)

/-- a truth value: every number but zero is true -/
def readBool (wireType : WireType) : Reader Bool :=
  expecting .varint wireType (readVarint.map (· != 0))

/-- the bytes behind a length -/
def readDelimited : Reader Bytes := fun bytes =>
  match readVarint bytes with
  | .error f => .error f
  | .ok (length, rest) =>
    if rest.length < length then fail .bufferUnderflow else .ok (rest.take length, rest.drop length)

def readString (wireType : WireType) : Reader String :=
  expecting .lengthDelimited wireType fun bytes =>
    match readDelimited bytes with
    | .error f => .error f
    | .ok (content, rest) =>
      match ofUtf8? content with
      | some s => .ok (s, rest)
      | none => fail .invalidText

/-- drops a number of bytes -/
def skipBytes (n : Nat) : Reader Unit := fun bytes =>
  if bytes.length < n then fail .bufferUnderflow else .ok ((), bytes.drop n)

/-- skips the fields of a group up to its end key, which must carry the tag of the group;
    `fuel` is at least the number of bytes, and every field takes one -/
def skipGroup (skip : Key → Reader Unit) (tag : Nat) : Nat → Reader Unit
  | 0, _ => fail .invalidVarint
  | fuel + 1, bytes =>
    match readKey bytes with
    | .error f => .error f
    | .ok (key, rest) =>
      if key.wireType = .endGroup then
        if key.tag == tag then .ok ((), rest) else fail .unexpectedEndGroup
      else match skip key rest with
        | .error f => .error f
        | .ok ((), rest') => skipGroup skip tag fuel rest'

/-- skips the value of a field; groups may be nested `depth` deep, the value itself counted -/
def skipValue : Nat → Key → Reader Unit
  | 0, _, _ => fail .tooDeep
  | depth + 1, key, bytes =>
    match key.wireType with
    | .varint => readVarint.map (fun _ => ()) bytes
    | .sixtyFourBit => skipBytes 8 bytes
    | .thirtyTwoBit => skipBytes 4 bytes
    | .lengthDelimited => readDelimited.map (fun _ => ()) bytes
    | .startGroup => skipGroup (skipValue depth) key.tag bytes.length bytes
    | .endGroup => fail .unexpectedEndGroup

/-! ## Messages -/

/-- the end of a nested message must be where its length says -/
def checkEnd {α : Type} (limit : Nat) (value : α) : Reader α := fun bytes =>
  if bytes.length == limit then .ok (value, bytes) else fail .lengthExceeded

/-- merges fields into a value while more than `limit` bytes are left; `fuel` is at least the number of bytes -/
def mergeFields {α : Type} (field : α → Key → Reader α) (limit : Nat) : Nat → α → Reader α
  | 0, value, bytes => checkEnd limit value bytes
  | fuel + 1, value, bytes =>
    if bytes.length ≤ limit then checkEnd limit value bytes
    else match readKey bytes with
      | .error f => .error f
      | .ok (key, rest) =>
        match field value key rest with
        | .error f => .error f
        | .ok (value', rest') => mergeFields field limit fuel value' rest'

/-- merges a nested message, written behind its length, into a value; `depth` levels may still be entered -/
def mergeMessage {α : Type} (depth : Nat) (field : Nat → α → Key → Reader α) (value : α)
    (wireType : WireType) : Reader α :=
  expecting .lengthDelimited wireType fun bytes =>
    match depth with
    | 0 => fail .tooDeep
    | depth + 1 =>
      match readVarint bytes with
      | .error f => .error f
      | .ok (length, rest) =>
        if rest.length < length then fail .bufferUnderflow
        else mergeFields (field depth) (rest.length - length) rest.length value rest

/-! ## Writing -/

/-- a number; zero, the default, is not written -/
def encodeUInt32 (tag : Nat) (n : UInt32) : Bytes :=
  if n == 0 then [] else Key.encode ⟨tag, .varint⟩ ++ Varint.encode n.toNat

/-- a truth value; false, the default, is not written -/
def encodeBool (tag : Nat) (b : Bool) : Bytes :=
  if b then Key.encode ⟨tag, .varint⟩ ++ Varint.encode 1 else []

/-- some bytes behind their length -/
def encodeDelimited (tag : Nat) (content : Bytes) : Bytes :=
  Key.encode ⟨tag, .lengthDelimited⟩ ++ Varint.encode content.length ++ content

/-- a text; the empty one, the default, is not written -/
def encodeString (tag : Nat) (s : String) : Bytes :=
  if s.isEmpty then [] else encodeDelimited tag (utf8 s)

/-- every text of a list, the empty ones too -/
def encodeStrings (tag : Nat) (texts : List String) : Bytes :=
  texts.flatMap fun s => encodeDelimited tag (utf8 s)

/-- a message that may be absent; a present one is written even if it is empty -/
def encodeOptional {α : Type} (tag : Nat) (encode : α → Bytes) : Option α → Bytes
  | none => []
  | some a => encodeDelimited tag (encode a)

/-! ## Sizes -/

def keySize (tag : Nat) : Nat :=
  Varint.size (8 * tag)

def uint32Size (tag : Nat) (n : UInt32) : Nat :=
  if n == 0 then 0 else keySize tag + Varint.size n.toNat

def boolSize (tag : Nat) (b : Bool) : Nat :=
  if b then keySize tag + 1 else 0

def delimitedSize (tag contentSize : Nat) : Nat :=
  keySize tag + Varint.size contentSize + contentSize

def stringSize (tag : Nat) (s : String) : Nat :=
  if s.isEmpty then 0 else delimitedSize tag s.utf8ByteSize

def stringsSize (tag : Nat) (texts : List String) : Nat :=
  Number.total (texts.map fun s => delimitedSize tag s.utf8ByteSize)

def optionalSize {α : Type} (tag : Nat) (size : α → Nat) : Option α → Nat
  | none => 0
  | some a => delimitedSize tag (size a)

end LoadTrial.Wire
