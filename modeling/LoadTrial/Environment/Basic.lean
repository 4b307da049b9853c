/-
The variables that a process is given: names with one value each.

An environment is what one sees who reads variables as texts. An operating system also keeps values that are no text; to
read such a variable finds nothing, so here it is one that is not set, and to set it gives it a text. (A command line that
takes one of its arguments from such a variable is refused at once; no environment here stands for that.)
-/

namespace LoadTrial

/-- variables in the order in which they were first set -/
structure Environment where
  bindings : List (String × String) := []
  deriving DecidableEq

namespace Environment

def empty : Environment := {}

/-- the value of a variable that is set -/
def get? (e : Environment) (name : String) : Option String :=
  e.bindings.lookup name

def isSet (e : Environment) (name : String) : Bool :=
  (e.get? name).isSome

/-- sets a variable that is not set; one that is keeps its value -/
def setIfUnset (e : Environment) (name value : String) : Environment :=
  if e.isSet name then e else ⟨e.bindings ++ [(name, value)]⟩

/-- an environment from pairs, of which the first of a name counts -/
def ofList (pairs : List (String × String)) : Environment :=
  pairs.foldl (fun e (name, value) => e.setIfUnset name value) empty

theorem get?_setIfUnset (e : Environment) (name value other : String) :
    (e.setIfUnset name value).get? other =
      if other = name ∧ e.get? name = none then some value else e.get? other := by
  unfold setIfUnset isSet
  cases h : e.get? name with
  | some v => simp
  | none =>
    simp only [Option.isSome_none, Bool.false_eq_true, if_false, and_true]
    unfold get? at h ⊢
    simp only [List.lookup_append, List.lookup_cons, List.lookup_nil]
    by_cases ho : other = name
    · subst ho; simp [h]
    · have : (other == name) = false := by simpa using ho
      simp [ho, this]

end Environment

end LoadTrial
