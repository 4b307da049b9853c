/-
When a scenario passes: its success rate reaches a threshold, or, if it issued no request, the policy for empty
scenarios says so.
-/
import LoadTrial.Failure
import LoadTrial.Summary
import LoadTrial.Text.Blank
import LoadTrial.Text.Lower

namespace LoadTrial

/-- the verdict on a scenario that issued no request -/
inductive EmptyPolicy where
  /-- nothing failed -/
  | pass
  /-- nothing was exercised -/
  | fail
  deriving DecidableEq, Repr

def EmptyPolicy.passes : EmptyPolicy → Bool
  | .pass => true
  | .fail => false

def EmptyPolicy.name : EmptyPolicy → String
  | .pass => "pass"
  | .fail => "fail"

/-- reads a policy, whatever the case of its letters and the blanks around it -/
def EmptyPolicy.read (s : String) : Except Failure EmptyPolicy :=
  let word := Text.lower (Text.trim s)
  if word == "pass" then .ok .pass
  else if word == "fail" then .ok .fail
  else .error (.config ("Invalid empty scenario policy '" ++ s ++ "': expected 'pass' or 'fail'"))

/-- the least success rate in percent, which still passes, and the policy for empty scenarios -/
structure Criterion where
  successThreshold : Number.Binary64 := .ofNat 99
  emptyPolicy : EmptyPolicy := .fail
  deriving DecidableEq, Repr

/-- the verdict on a scenario -/
def Criterion.passes (c : Criterion) (s : Summary) : Bool :=
  match s.successRate with
  | some rate => c.successThreshold.le rate
  | none => c.emptyPolicy.passes

end LoadTrial
