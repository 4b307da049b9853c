/-
The program as a whole. A command line asks for help, for an overview of the variables, for an example file, or
for a trial; each comes to a report: what is printed on the two outputs, and the exit status. A trial that was
run ends with 0 or 1; one whose settings could not be loaded ends with the status of that failure.
-/
import LoadTrial.CommandLine.Help
import LoadTrial.Console.Report
import LoadTrial.Directory
import LoadTrial.Exchange.Client
import LoadTrial.Run.Document
import LoadTrial.Settings.Load
import LoadTrial.Settings.Manual
import LoadTrial.Settings.Warning

namespace LoadTrial.Program

/-- what a run of the program leaves behind for its caller -/
structure Report where
  stdout : String := ""
  stderr : String := ""
  status : Nat := 0
  deriving DecidableEq

/-! ## Colour -/

/-- colour is forced by the environment; else there is none, for the outputs are no terminals -/
def forcesColor (env : Environment) : Bool :=
  match env.get? "CLICOLOR_FORCE" with
  | some value => value != "0"
  | none => false

/-- the painter of failures: what counts is the environment at the start, and the one at the time of painting -/
def painter (start now : Environment) (args : Arguments) : Console.Painter :=
  ⟨args.usesColor start, forcesColor now⟩

/-! ## Failures -/

/-- what may help against a failure -/
def suggestions (f : Failure) : List String :=
  match f.kind with
  | .config => [
      "",
      "Configuration help:",
      "  - Check your .env file format",
      "  - Coordinator URL must start with https:// (or http:// for mocks)",
      "  - Success threshold must be between 0 and 100",
      "  - Run with --help to list every option"]
  | .tls => [
      "",
      "TLS troubleshooting:",
      "  - Verify --ca-cert, --client-cert and --client-key point at PEM files",
      "  - Ensure the client key matches the client certificate"]
  | _ => []

/-- lines of text -/
def lines (texts : List String) : String :=
  String.join (texts.map (· ++ "\n"))

/-- the report of a failure with suggestions -/
def failed (p : Console.Painter) (f : Failure) : Report where
  stderr := lines (Console.failure p f :: suggestions f)
  status := f.exitCode

/-- the exit status of a breach that aborts the program -/
def abortStatus : Nat := 101

/-- the report of what ended the program before its work was done -/
def halted (p : Console.Painter) : Halt → Report
  | .failure f => failed p f
  | .abort => { stderr := "Application panic\n", status := abortStatus }

/-! ## The tasks -/

/-- the report of a command line that is not carried out -/
def refused (env : Environment) (r : CommandLine.Refusal) : Report :=
  if r.isError then { stderr := r.text env, status := 2 } else { stdout := r.text env }

/-- the overview of the variables, with a line for each whose value is not taken -/
def explained (env : Environment) : Report :=
  let complaints := Variable.complaints env
  { stdout := lines (Variable.overview :: complaints), status := if complaints.isEmpty then 0 else 2 }

/-- the report after the example file was written, or was not -/
def exampleWritten (env : Environment) (args : Arguments) (path : String) : Except ReadError Unit → Report
  | .ok () => { stdout := lines ["Example configuration written to " ++ path] }
  | .error e =>
    let f := Variable.unwritten e
    { stderr := lines [Console.failure (painter env env args) f], status := f.exitCode }

/-- the report of a trial whose scenarios were run -/
def finished (now : Environment) (s : Settings) (runs : List Scenario.Run) : Report :=
  let suite := Suite.ofRuns runs
  let transcript := (Console.Formatter.ofSettings (forcesColor now) s).transcript runs
  { stdout := transcript ++ (if s.jsonOutput then lines [suite.toText] else ""), status := suite.exitCode }

/-- what a command line asks for -/
inductive Task where
  | explain
  | writeExample (path : String)
  | trial
  deriving DecidableEq, Repr

def taskOf (args : Arguments) : Task :=
  if args.envHelp then .explain
  else match args.initEnv with
    | some path => .writeExample path
    | none => .trial

/-- what a trial needs from outside: files, identifiers for its runs, a network, and a clock -/
structure World where
  files : Files
  runIds : Nat → RunId
  network : Exchange.Network
  timestamp : Nat → String

/-- runs the scenarios of settings -/
def runScenarios (w : World) (s : Settings) : List Scenario.Run :=
  Suite.run s.criterion w.runIds (Exchange.factory w.files w.network w.timestamp) s.plans

/-- the environment in which a trial runs: the one at the start, with what the environment file adds -/
def trialEnvironment (files : Files) (env : Environment) : Environment :=
  (EnvFile.load files EnvFile.defaultPath env).1

/-- a trial; settings that were loaded are checked once more, for what may not be as meant, which goes to the log -/
def trial (w : World) (env : Environment) (args : Arguments) : Report :=
  let now := trialEnvironment w.files env
  match Settings.load w.files EnvFile.defaultPath env args with
  | .error halt => halted (painter env now args) halt
  | .ok s => match s.warnings w.files with
    | .error fault => failed (painter env now args) (.config fault.message)
    | .ok _ => finished now s (runScenarios w s)

/-- the report of a command line that is carried out; `written` is what became of the example file, if it asks for
    one -/
def report (w : World) (env : Environment) (args : Arguments) (written : Except ReadError Unit) : Report :=
  match taskOf args with
  | .explain => explained env
  | .writeExample path => exampleWritten env args path written
  | .trial => trial w env args

/-- the working directory behind a command line, or why the example file cannot be written -/
def directoryAfter (dir : Directory) (args : Arguments) : Except ReadError Directory :=
  match taskOf args with
  | .writeExample path => dir.write path (Text.utf8 Variable.exampleFile)
  | _ => .ok dir

/-- a run of the program in a working directory, and what the directory holds afterwards -/
def run (runIds : Nat → RunId) (network : Exchange.Network) (timestamp : Nat → String) (env : Environment)
    (dir : Directory) (argv : List String) : Report × Directory :=
  match CommandLine.parse env argv with
  | .error refusal => (refused env refusal, dir)
  | .ok args =>
    let w : World := ⟨dir.files, runIds, network, timestamp⟩
    match directoryAfter dir args with
    | .ok dir' => (report w env args (.ok ()), dir')
    | .error e => (report w env args (.error e), dir)

end LoadTrial.Program
