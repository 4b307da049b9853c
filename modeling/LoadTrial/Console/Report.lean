/-
What a trial shows on the console: the parameters of a scenario before it starts, its figures when it is over,
and the verdicts.
-/
import LoadTrial.Console.Paint
import LoadTrial.Failure
import LoadTrial.Number.Text
import LoadTrial.Run.Suite
import LoadTrial.Text.Blank

namespace LoadTrial.Console

/-- writes the report; the threshold decides the colour of success rates -/
structure Formatter where
  painter : Painter
  threshold : Number.Binary64 := .ofNat 99
  deriving DecidableEq

namespace Formatter

/-- the formatter that settings ask for -/
def ofSettings (terminal : Bool) (s : Settings) : Formatter :=
  ⟨⟨s.enableColor, terminal⟩, s.successThreshold⟩

def rule : String := "========================================"

/-- the column in which values stand -/
def labelWidth : Nat := 21

/-- a title between two rules -/
def boxed (f : Formatter) (title : String) : String :=
  f.painter.border rule ++ "\n  " ++ f.painter.header title ++ "\n" ++ f.painter.border rule

/-- a label and a value on a line -/
def line (label value : String) : String :=
  Text.padRight labelWidth (label ++ ":") ++ value ++ "\n"

def count (n : UInt64) : String :=
  Number.decimal n.toNat

/-- the parameters of a scenario that is about to start -/
def banner (f : Formatter) (p : Plan) : String :=
  "\n" ++ f.boxed "Starting Load Test" ++ "\n"
    ++ line "Coordinator URL" (f.painter.info p.coordinatorUrl)
    ++ line "Wallet Clients" (count p.numClients)
    ++ line "Requests/Client" (count p.requestsPerClient)
    ++ line "Total Requests" (count p.totalRequests)
    ++ line "Request Delay" (Number.decimal p.requestDelay.millis ++ " ms")
    ++ line "Request Timeout" (count p.requestTimeout.secs ++ " sec")
    ++ line "Connection Pool" (count p.connectionPoolSize)
    ++ f.painter.border rule

/-- a success rate, painted by how it compares with the threshold -/
def rate (f : Formatter) : Option Number.Binary64 → String
  | some r => f.painter.rate (r.toFixed 2 ++ "%") r f.threshold
  | none => "n/a"

/-- a latency, painted by its level -/
def latency (f : Formatter) : Option UInt64 → String
  | some ms => f.painter.latency (count ms ++ " ms") ms
  | none => "n/a"

/-- the line about workers without a working client; there is none if all had one -/
def failedLine (f : Formatter) (r : Scenario.Result) : String :=
  if 0 < r.failedWorkers then
    line "Client Setup Errors" (f.painter.warning (count r.failedWorkers ++ " of " ++ count r.numClients))
  else ""

/-- the figures of a scenario that is over -/
def report (f : Formatter) (r : Scenario.Result) : String :=
  let s := r.summary
  "\n" ++ f.boxed "Load Test Report" ++ "\n"
    ++ line "Total Requests" (count s.total)
    ++ line "Successful" (count s.successful ++ " (" ++ f.rate s.successRate ++ ")")
    ++ line "Failed" (count s.failed)
    ++ line "Timeouts" (count s.timedOut)
    ++ f.failedLine r
    ++ line "Duration" (s.duration.seconds.toFixed 2 ++ " sec")
    ++ line "Throughput" (s.throughput.toFixed 2 ++ " req/sec")
    ++ "\nLatency Statistics:\n"
    ++ line "  Average" (f.latency (if s.isEmpty then none else some s.avgLatencyMs))
    ++ line "  Min" (f.latency s.minLatencyMs)
    ++ line "  Max" (f.latency s.maxLatencyMs)
    ++ f.painter.border rule

/-- the heading of a suite of some scenarios -/
def suiteHeader (f : Formatter) (scenarios : Nat) : String :=
  "\n" ++ f.boxed "Coordinator HTTPS Load Test Suite" ++ "\n" ++ Number.decimal scenarios ++ " scenario(s) selected"

/-- the heading of a scenario; scenarios are numbered from one -/
def scenarioHeading (f : Formatter) (index : Nat) (label : String) : String :=
  "\n" ++ f.painter.header ("[Test " ++ Number.decimal index ++ "] " ++ label)

def verdict (f : Formatter) (label : String) (passed : Bool) : String :=
  if passed then f.painter.success ("✓ " ++ label ++ " passed!")
  else f.painter.error ("✗ " ++ label ++ " failed!")

/-- the line about one entry of a suite -/
def entryLine (f : Formatter) (e : Suite.Entry) : String :=
  (if e.passed then f.painter.success "✓" else f.painter.error "✗") ++ " " ++ e.label ++ "\n"

/-- the verdicts on all scenarios, and the one on the suite -/
def suiteSummary (f : Formatter) (s : Suite) : String :=
  "\n" ++ f.boxed "Final Test Results" ++ "\n"
    ++ String.join (s.entries.map f.entryLine)
    ++ Number.decimal s.passedCount ++ "/" ++ Number.decimal s.entries.length ++ " scenarios passed\n"
    ++ (if s.allPassed then f.painter.success "✓ All load tests PASSED!" else f.painter.error "✗ Some tests FAILED!")

/-- all that is shown of one scenario, one text for each line group -/
def scenarioTexts (f : Formatter) (index : Nat) (r : Scenario.Run) : List String :=
  [f.scenarioHeading index r.plan.label, f.banner r.plan, f.report r.result,
    f.verdict r.plan.label r.result.passed]

/-- all that is shown of scenarios from a number on -/
def scenariosTexts (f : Formatter) (index : Nat) : List Scenario.Run → List String
  | [] => []
  | r :: rs => f.scenarioTexts index r ++ f.scenariosTexts (index + 1) rs

/-- all that is shown of a suite while it runs -/
def transcript (f : Formatter) (runs : List Scenario.Run) : String :=
  let texts := f.suiteHeader runs.length :: f.scenariosTexts 1 runs ++ [f.suiteSummary (Suite.ofRuns runs)]
  String.join (texts.map (· ++ "\n"))

end Formatter

/-- the colour of a failure of each kind -/
def failureColor : Failure.Kind → Color
  | .config => .red
  | .tls => .magenta
  | .encode => .cyan
  | .decode => .cyan
  | .io => .cyan
  | .internal => .brightRed

/-- a failure as the console shows it: its category in brackets, and its message -/
def failure (p : Painter) (f : Failure) : String :=
  let color := failureColor f.kind
  "[" ++ p.bold color f.kind.category ++ "] " ++ p.paint color f.message

end LoadTrial.Console
