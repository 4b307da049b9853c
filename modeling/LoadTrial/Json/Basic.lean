/-
JSON documents. Numbers are kept apart by their written form: a whole number written without point and exponent
stays an integer, every other number is a double.
-/
import LoadTrial.Number.Binary64

namespace LoadTrial

/-- a JSON document; the fields of an object stand in the order written -/
inductive Json where
  | null
  | bool (b : Bool)
  | integer (n : Int)
  | real (x : Number.Binary64)
  | string (s : String)
  | array (items : List Json)
  | object (fields : List (String × Json))
  deriving Inhabited

namespace Json

def natural (n : UInt64) : Json :=
  .integer n.toNat

/-- the value of a field; of two fields with one name the later counts -/
def lookup (fields : List (String × Json)) (name : String) : Option Json :=
  (fields.reverse.find? (·.1 == name)).map (·.2)

/-- the value of a field of an object -/
def get? (j : Json) (name : String) : Option Json :=
  match j with
  | .object fields => lookup fields name
  | _ => none

def asBool? : Json → Option Bool
  | .bool b => some b
  | _ => none

def asString? : Json → Option String
  | .string s => some s
  | _ => none

def asArray? : Json → Option (List Json)
  | .array items => some items
  | _ => none

/-- a natural number up to `limit`; a double is none, even a whole one -/
def asNatural? (limit : Nat) : Json → Option Nat
  | .integer n => if 0 ≤ n && n.toNat ≤ limit then some n.toNat else none
  | _ => none

def asUInt64? (j : Json) : Option UInt64 :=
  (j.asNatural? (UInt64.size - 1)).map UInt64.ofNat

def asUInt32? (j : Json) : Option UInt32 :=
  (j.asNatural? (UInt32.size - 1)).map UInt32.ofNat

/-- any number as a double -/
def asBinary64? : Json → Option Number.Binary64
  | .integer n => some (Number.Binary64.ofRatio (n < 0) n.natAbs 1)
  | .real x => some x
  | _ => none

end Json

end LoadTrial
