/-
The failures that faults of the lower levels become when nobody on the way knows more about them.
-/
import LoadTrial.Environment.EnvFile
import LoadTrial.Failure
import LoadTrial.Files
import LoadTrial.Json.Reader
import LoadTrial.Url.Parser
import LoadTrial.Wire.Signing

namespace LoadTrial.Failure

def ofOs (e : OsError) : Failure := ⟨.io, e.message⟩

def ofUrl (f : Url.Fault) : Failure := .config ("URL parse error: " ++ f.message)

def ofInteger (f : Number.IntegerFault) : Failure := .config ("Integer parse error: " ++ f.message)

def ofNumber (f : Number.Binary64.TextFault) : Failure := .config ("Float parse error: " ++ f.message)

def ofJson (f : Json.ReadFault) : Failure := ⟨.internal, "JSON serialization error: " ++ f.message⟩

def ofEnvFile (f : EnvFile.Fault) : Failure := .config ("Environment file error: " ++ f.message)

def ofDecoding (f : Wire.Fault) : Failure := ⟨.decode, f.message⟩

def ofEncoding (f : Wire.CapacityFault) : Failure := ⟨.encode, f.message⟩

def ofReply (f : Wire.ReplyFault) : Failure := ⟨.decode, f.message⟩

end LoadTrial.Failure
