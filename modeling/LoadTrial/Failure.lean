/-
Failures that end a trial before it starts, or keep one client from starting. Each has a kind, which decides the
heading it is shown under and the exit status, and a text that says what went wrong.
-/

namespace LoadTrial

/-- what part of a trial failed -/
inductive Failure.Kind where
  | config
  | tls
  | encode
  | decode
  | io
  | internal
  deriving DecidableEq, Repr

structure Failure where
  kind : Failure.Kind
  text : String
  deriving DecidableEq, Repr

namespace Failure

def Kind.heading : Kind → String
  | .config => "Configuration error: "
  | .tls => "TLS error: "
  | .encode => "Encode error: "
  | .decode => "Decode error: "
  | .io => "I/O error: "
  | .internal => "Internal error: "

/-- the short tag shown on the console -/
def Kind.category : Kind → String
  | .config => "CONFIG"
  | .tls => "TLS"
  | .encode => "ENCODE"
  | .decode => "DECODE"
  | .io => "IO"
  | .internal => "INTERNAL"

/-- the exit status; a suite that ran and did not pass exits with 1 and is no failure -/
def Kind.exitCode : Kind → Nat
  | .config => 2
  | .tls => 3
  | .io => 5
  | .encode => 6
  | .decode => 6
  | .internal => 99

def message (f : Failure) : String :=
  f.kind.heading ++ f.text

def exitCode (f : Failure) : Nat :=
  f.kind.exitCode

def config (text : String) : Failure := ⟨.config, text⟩

def tls (text : String) : Failure := ⟨.tls, text⟩

end Failure

/-- what ends the program before its work is done: a failure to report, or a breach that aborts it at once -/
inductive Halt where
  | failure (f : Failure)
  | abort
  deriving DecidableEq, Repr

end LoadTrial
