/-
The command. It hands the arguments, the environment and the files to the program, and prints its report. This
build holds no transport: every request is answered as if nothing listened.
-/
import LoadTrial.Program

namespace LoadTrial.Main

/-- the variables of the environment, as the operating system lists them; a variable that is no text is not among them -/
def readEnvironment : IO Environment := do
  let bytes ← try IO.FS.readBinFile "/proc/self/environ" catch _ => pure .empty
  let entries := bytes.toList.splitOn 0
  return .ofList (entries.filterMap fun entry =>
    match (Text.ofUtf8? entry).map (·.splitOn "=") with
    | some (name :: value :: more) => some (name, String.intercalate "=" (value :: more))
    | _ => none)

/-- the code of an error, which some calls give with its sign turned -/
def codeOf (code : UInt32) : OsError :=
  ⟨if code < 0x80000000 then code.toNat else (0 - code).toNat⟩

/-- the number of an error -/
def numberOf (e : IO.Error) : OsError :=
  match e with
  | .alreadyExists _ code _ | .noFileOrDirectory _ code _ | .invalidArgument _ code _ | .permissionDenied _ code _
  | .resourceExhausted _ code _ | .inappropriateType _ code _ | .noSuchThing _ code _ | .interrupted _ code _ =>
    codeOf code
  | .otherError code _ | .resourceBusy code _ | .resourceVanished code _ | .unsupportedOperation code _
  | .hardwareFault code _ | .unsatisfiedConstraints code _ | .illegalOperation code _ | .protocolError code _
  | .timeExpired code _ => codeOf code
  | .unexpectedEof | .userError _ => .noSuchFile

/-- something stands at a path, whether or not it can be read -/
def isThere (path : String) : IO Bool := do
  try
    let _ ← IO.FS.realPath path
    return true
  catch _ => return false

/-- what a path leads to -/
def lookUp (path : String) : IO (Except OsError Entry) := do
  try
    return .ok (.file (← IO.FS.readBinFile path).toList)
  catch e =>
    let n := numberOf e
    if n = .isADirectory then return .ok .directory
    else if ← isThere path then return .ok (.unreadable n)
    else return .error n

/-- the files at some paths, as a value -/
def readFiles (paths : List String) : IO Files := do
  let found ← paths.mapM fun path => return (path, ← lookUp path)
  return ⟨fun path => (found.lookup path).getD (.error .noSuchFile)⟩

/-- an identifier made of random bytes, with the marks of its version and variant -/
def randomId : IO RunId := do
  let bytes ← IO.getRandomBytes 16
  let n := bytes.toList.foldl (fun n b => 256 * n + b.toNat) 0
  let bits := BitVec.ofNat 128 n
  return ⟨bits.extractLsb' 80 48 ++ 4#4 ++ bits.extractLsb' 64 12 ++ 2#2 ++ bits.extractLsb' 0 62⟩

/-- identifiers for a number of runs -/
def randomIds (count : Nat) : IO (Nat → RunId) := do
  let ids ← (List.range count).mapM fun _ => randomId
  return fun i => ids.getD i ⟨0⟩

/-- runs a trial; the files it needs are known when its settings are -/
def runTrial (env : Environment) (args : Arguments) : IO Program.Report := do
  let first ← readFiles [EnvFile.defaultPath]
  match Settings.load first EnvFile.defaultPath env args with
  | .error _ => return Program.trial ⟨first, fun _ => ⟨0⟩, .silent, fun _ => ""⟩ env args
  | .ok s =>
    let files ← readFiles [EnvFile.defaultPath, s.trust.caCert, s.trust.clientCert, s.trust.clientKey]
    return Program.trial ⟨files, ← randomIds s.scenarios.length, .silent, fun _ => ""⟩ env args

/-- carries out what a command line asks for -/
def carryOut (env : Environment) (argv : List String) : IO Program.Report := do
  match CommandLine.parse env argv with
  | .error refusal => return Program.refused env refusal
  | .ok args => match Program.taskOf args with
    | .explain => return Program.explained env
    | .writeExample path =>
      try
        IO.FS.writeFile path Variable.exampleFile
        return Program.exampleWritten env args path (.ok ())
      catch e => return Program.exampleWritten env args path (.error (.os (numberOf e)))
    | .trial => runTrial env args

end LoadTrial.Main

def main (argv : List String) : IO UInt32 := do
  let report ← LoadTrial.Main.carryOut (← LoadTrial.Main.readEnvironment) argv
  (← IO.getStdout).putStr report.stdout
  (← IO.getStderr).putStr report.stderr
  return UInt32.ofNat report.status
