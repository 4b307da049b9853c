/-
The arguments that the command line knows: their names, the values they take, and what a value means.
-/
import LoadTrial.CommandLine.Arguments

namespace LoadTrial

/-- an argument of the command line -/
inductive Argument where
  | url
  | caCert
  | clientCert
  | clientKey
  | coordinatorId
  | keyId
  | scenario
  | clients
  | requests
  | delayMs
  | poolSize
  | timeout
  | threshold
  | emptyPolicy
  | json
  | noColor
  | verbose
  | debug
  | logFormat
  | envHelp
  | initEnv
  | help
  | version
  deriving DecidableEq, Repr

namespace Argument

/-- all arguments, in the order in which help lists them -/
def all : List Argument :=
  [.url, .caCert, .clientCert, .clientKey, .coordinatorId, .keyId, .scenario, .clients, .requests, .delayMs,
    .poolSize, .timeout, .threshold, .emptyPolicy, .json, .noColor, .verbose, .debug, .logFormat, .envHelp,
    .initEnv, .help, .version]

/-- the name behind two dashes -/
def long : Argument → String
  | .url => "url"
  | .caCert => "ca-cert"
  | .clientCert => "client-cert"
  | .clientKey => "client-key"
  | .coordinatorId => "coordinator-id"
  | .keyId => "key-id"
  | .scenario => "scenario"
  | .clients => "clients"
  | .requests => "requests"
  | .delayMs => "delay-ms"
  | .poolSize => "pool-size"
  | .timeout => "timeout"
  | .threshold => "threshold"
  | .emptyPolicy => "empty-policy"
  | .json => "json"
  | .noColor => "no-color"
  | .verbose => "verbose"
  | .debug => "debug"
  | .logFormat => "log-format"
  | .envHelp => "env-help"
  | .initEnv => "init-env"
  | .help => "help"
  | .version => "version"

/-- the letter behind one dash -/
def short? : Argument → Option Char
  | .timeout => some 't'
  | .help => some 'h'
  | .version => some 'V'
  | _ => none

/-- what the value of an argument is called; none for an argument without a value -/
def placeholder? : Argument → Option String
  | .url => some "URL"
  | .caCert => some "PATH"
  | .clientCert => some "PATH"
  | .clientKey => some "PATH"
  | .coordinatorId => some "COORDINATOR_ID"
  | .keyId => some "KEY_ID"
  | .scenario => some "SCENARIOS"
  | .clients => some "CLIENTS"
  | .requests => some "REQUESTS"
  | .delayMs => some "DELAY_MS"
  | .poolSize => some "POOL_SIZE"
  | .timeout => some "TIMEOUT"
  | .threshold => some "THRESHOLD"
  | .emptyPolicy => some "POLICY"
  | .logFormat => some "FORMAT"
  | .initEnv => some "PATH"
  | _ => none

def takesValue (a : Argument) : Bool :=
  a.placeholder?.isSome

def description : Argument → String
  | .url => "Coordinator base URL (e.g. https://127.0.0.1:9080)"
  | .caCert => "CA certificate (PEM) used to verify the coordinator"
  | .clientCert => "Client certificate (PEM) presented to the coordinator"
  | .clientKey => "Private key (PEM) for the client certificate"
  | .coordinatorId => "Coordinator ID stamped into every request header"
  | .keyId => "Key ID to request signatures for"
  | .scenario => "Built-in scenario to run (can be used multiple times; default: all)"
  | .clients => "Run a single custom scenario with this many concurrent clients"
  | .requests => "Requests issued by each client in the custom scenario"
  | .delayMs => "Delay between consecutive requests of a client, in milliseconds"
  | .poolSize => "Connection pool size shared out across the custom scenario's clients"
  | .timeout => "Per-request timeout in seconds (applies to every scenario)"
  | .threshold => "Minimum success rate in percent for a scenario to pass"
  | .emptyPolicy => "Verdict for scenarios that issue no requests (pass or fail)"
  | .json => "Print the suite result as JSON after the report"
  | .noColor => "Disable colored output"
  | .verbose => "Enable verbose output"
  | .debug => "Enable debug output"
  | .logFormat => "Log format (console, json, compact)"
  | .envHelp => "List supported environment variables, check the current ones, and exit"
  | .initEnv => "Write an example .env file to PATH and exit"
  | .help => "Print help"
  | .version => "Print version"

/-- an argument as messages show it: its name and the name of its value -/
def display (a : Argument) : String :=
  match a.placeholder? with
  | some name => "--" ++ a.long ++ " <" ++ name ++ ">"
  | none => "--" ++ a.long

def ofLong? (name : String) : Option Argument :=
  all.find? (·.long == name)

def ofShort? (letter : Char) : Option Argument :=
  all.find? (·.short? == some letter)

/-- an argument may be given more than once -/
def isRepeatable (a : Argument) : Bool :=
  a == .scenario

/-- the arguments that shape a custom scenario -/
def isCustom (a : Argument) : Bool :=
  a == .clients || a == .requests || a == .delayMs || a == .poolSize

/-- two arguments exclude each other: a custom scenario and built-in ones, and the two that replace a trial -/
def excludes (a b : Argument) : Bool :=
  (a == .scenario && b.isCustom) || (a.isCustom && b == .scenario)
    || (a == .envHelp && b == .initEnv) || (a == .initEnv && b == .envHelp)

/-! ## Values -/

/-- the values among which some arguments choose -/
def choices : Argument → List String
  | .scenario => Preset.all.map Preset.name
  | .emptyPolicy => ["pass", "fail"]
  | _ => []

/-- why a value is refused -/
inductive ValueFault where
  /-- an empty value where there must be one -/
  | missing
  | notAChoice
  | invalid (reason : String)
  deriving DecidableEq, Repr

/-- reads a number of up to 64 bits -/
def readCount (text : String) : Except ValueFault UInt64 :=
  match Number.readUnsigned (UInt64.size - 1) text.toList with
  | .ok n => .ok (UInt64.ofNat n)
  | .error fault => .error (.invalid fault.message)

/-- a plus sign is in front, or the mark of a number to base 16 -/
def isMarked (cs : List Char) : Bool :=
  cs.head? == some '+' || ['0', 'x'].isPrefixOf cs || ['0', 'X'].isPrefixOf cs

/-- reads a number of seconds from 1 to 300, in digits only -/
def readTimeout (text : String) : Except ValueFault UInt64 :=
  let cs := text.toList
  if isMarked cs then .error (.invalid ("Invalid duration: " ++ text))
  else match Number.readUnsigned (UInt64.size - 1) cs with
    | .error _ => .error (.invalid ("Invalid duration: " ++ text))
    | .ok 0 => .error (.invalid "Duration must be greater than 0")
    | .ok n => if 300 < n then .error (.invalid "Duration cannot exceed 300 seconds") else .ok (UInt64.ofNat n)

/-- reads a share in percent; percent signs may follow it, and blanks may stand around it -/
def readThreshold (text : String) : Except ValueFault Number.Binary64 :=
  match Number.Binary64.ofText (Text.dropTail (· == '%') (Text.trim text).toList) with
  | .error _ => .error (.invalid ("Invalid threshold: " ++ text))
  | .ok t =>
    if Number.Binary64.zero.le t && t.le (.ofNat 100) then .ok t
    else .error (.invalid ("Threshold must be between 0 and 100, got: " ++ text))

def readPath (text : String) : Except ValueFault String :=
  if text.isEmpty then .error .missing else .ok text

/-- reads one of some values -/
def readChoice {α : Type} (choose : String → Option α) (text : String) : Except ValueFault α :=
  if text.isEmpty then .error .missing
  else match choose text with
    | some a => .ok a
    | none => .error .notAChoice

/-- the policy with a name; its letters must be in lower case -/
def policyOfName? (name : String) : Option EmptyPolicy :=
  [EmptyPolicy.pass, .fail].find? (·.name == name)

/-- puts the value of an argument in its place -/
def store (a : Argument) (text : String) (args : Arguments) : Except ValueFault Arguments :=
  match a with
  | .url => .ok { args with url := some text }
  | .caCert => (readPath text).map fun p => { args with caCert := some p }
  | .clientCert => (readPath text).map fun p => { args with clientCert := some p }
  | .clientKey => (readPath text).map fun p => { args with clientKey := some p }
  | .coordinatorId => .ok { args with coordinatorId := some text }
  | .keyId => .ok { args with keyId := some text }
  | .scenario => (readChoice Preset.ofName? text).map fun p => { args with scenarios := args.scenarios ++ [p] }
  | .clients => (readCount text).map fun n => { args with clients := some n }
  | .requests => (readCount text).map fun n => { args with requests := some n }
  | .delayMs => (readCount text).map fun n => { args with delayMs := some n }
  | .poolSize => (readCount text).map fun n => { args with poolSize := some n }
  | .timeout => (readTimeout text).map fun n => { args with timeout := some n }
  | .threshold => (readThreshold text).map fun t => { args with threshold := some t }
  | .emptyPolicy => (readChoice policyOfName? text).map fun p => { args with emptyPolicy := some p }
  | .logFormat => .ok { args with logFormat := some text }
  | .initEnv => (readPath text).map fun p => { args with initEnv := some p }
  | .json => .ok { args with json := true }
  | .noColor => .ok { args with noColor := true }
  | .verbose => .ok { args with verbose := true }
  | .debug => .ok { args with debug := true }
  | .envHelp => .ok { args with envHelp := true }
  | .help => .ok args
  | .version => .ok args

end Argument

end LoadTrial
