/-
What users are told about variables: an overview, and an environment file to begin with.
-/
import LoadTrial.Files
import LoadTrial.Settings.Variable

namespace LoadTrial.Variable

/-- two lines and an empty one about a variable -/
def paragraph (v : Variable) : String :=
  "  " ++ Text.padRight 22 v.name ++ " " ++ v.description ++ "\n"
    ++ "  " ++ Text.padRight 22 "" ++ " Example: " ++ v.sample ++ "\n\n"

/-- the overview of all variables -/
def overview : String :=
  "Supported Environment Variables:\n\n" ++ String.join (all.map paragraph)
    ++ "Configuration Priority (highest to lowest):\n"
    ++ "  1. Command-line arguments\n"
    ++ "  2. Environment variables\n"
    ++ "  3. .env file values\n"
    ++ "  4. Default values\n"

/-- an environment file that sets nothing, and shows how to -/
def exampleFile : String :=
  String.intercalate "\n" [
    "# Signing Load Tester Configuration",
    "#",
    "# Values here are used as defaults and can be overridden by real",
    "# environment variables and then by command-line arguments.",
    "",
    "# Base URL of the signing coordinator",
    "# COORDINATOR_URL=https://127.0.0.1:9080",
    "",
    "# Trust material for mutual TLS (PEM files)",
    "# CA_CERT_PATH=../../certs/local/ca-cert.pem",
    "# CLIENT_CERT_PATH=../../certs/local/coordinator-cert.pem",
    "# CLIENT_KEY_PATH=../../.kms/coordinator-key.pem",
    "",
    "# Coordinator ID stamped into every request header",
    "# COORDINATOR_ID=test-coordinator",
    "",
    "# Minimum success rate (percent) for a scenario to pass",
    "# SUCCESS_THRESHOLD=99.0",
    "",
    "# Verdict for scenarios that issue no requests (pass/fail)",
    "# EMPTY_SCENARIO_POLICY=fail",
    "",
    "# Enable colored output (true/false)",
    "# ENABLE_COLOR=true",
    "",
    "# Log format (console/json/compact)",
    "# LOG_FORMAT=console",
    ""]

/-- the failure to write such a file -/
def unwritten (e : ReadError) : Failure :=
  .config ("Failed to write example .env file: " ++ e.message)

end LoadTrial.Variable
