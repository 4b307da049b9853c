/-
Records in JSON. A record is written as an object with its fields by name, or as an array with its fields in
their order. In an object fields may be missing, and unknown ones do not count; an array is complete.
-/
import LoadTrial.Json.Basic

namespace LoadTrial.Json

/-- the fields of a record that has the given ones; `tail` says that an array may end early -/
def record? (tail : Bool) (names : List String) : Json → Option (List (Option Json))
  | .object fields => some (names.map (lookup fields))
  | .array items =>
    if items.length == names.length || (tail && items.length < names.length) then
      some (items.map some ++ List.replicate (names.length - items.length) none)
    else none
  | _ => none

/-- a field that must be there -/
def required {α : Type} (read : Json → Option α) (field : Option Json) : Option α :=
  field.bind read

/-- a field that has a value of its own if it is missing -/
def withDefault {α : Type} (value : α) (read : Json → Option α) : Option Json → Option α
  | none => some value
  | some j => read j

/-- a field that may be missing or null -/
def nullable {α : Type} (read : Json → Option α) : Option Json → Option (Option α)
  | none => some none
  | some .null => some none
  | some j => (read j).map some

/-- a list of values of one kind -/
def list? {α : Type} (read : Json → Option α) : Json → Option (List α)
  | .array items => items.mapM read
  | _ => none

/-- one of some words, written as a string or as the one field of an object, which is null -/
def word? : Json → Option String
  | .string s => some s
  | .object [(name, .null)] => some name
  | _ => none

/-- a value that is there, or null -/
def ofOption {α : Type} (write : α → Json) : Option α → Json
  | none => .null
  | some a => write a

end LoadTrial.Json
