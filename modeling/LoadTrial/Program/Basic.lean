/-
What the program is called, and what it is for.
-/

namespace LoadTrial.Program

/-- the command -/
def command : String := "slt"

/-- the name under which the program makes itself known to coordinators -/
def packageName : String := "signing-load-tester"

def version : String := "0.1.0"

/-- what the program is for, in one line -/
def purpose : String := "Concurrent mutual-TLS load generator for the wallet signing coordinator"

end LoadTrial.Program
