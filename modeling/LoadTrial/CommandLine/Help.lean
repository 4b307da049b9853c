/-
What the command line says about itself: the list of all arguments, and the full text about words that it does
not accept, with hints on what may have been meant.
-/
import LoadTrial.CommandLine.Parser
import LoadTrial.Console.Plain
import LoadTrial.Text.Similarity

namespace LoadTrial

namespace Argument

/-- the variable from which an argument takes its value if it is not given -/
def fallback? : Argument → Option Variable
  | .logFormat => some .logFormat
  | _ => none

/-- what stands behind a description: where else the value comes from, and the values to choose from -/
def remarks (env : Environment) (a : Argument) : List String :=
  let source := match a.fallback? with
    | some v => ["[env: " ++ v.name ++ "=" ++ (env.get? v.name).getD "" ++ "]"]
    | none => []
  let choices := if a.choices.isEmpty then []
    else ["[possible values: " ++ String.intercalate ", " a.choices ++ "]"]
  source ++ choices

/-- the two lines about an argument -/
def helpLines (env : Environment) (a : Argument) : String :=
  let short := match a.short? with
    | some letter => String.ofList ['-', letter, ',', ' ']
    | none => "    "
  "  " ++ short ++ a.display ++ "\n          " ++ String.intercalate " " (a.description :: a.remarks env) ++ "\n"

end Argument

namespace CommandLine

/-- how the program is called, with some arguments or with any -/
def usage (shown : List Argument) : String :=
  "Usage: " ++ Program.command ++ " "
    ++ (if shown.isEmpty then "[OPTIONS]" else String.intercalate " " (shown.map Argument.display))

/-- the list of all arguments -/
def helpText (env : Environment) : String :=
  Program.purpose ++ "\n\n" ++ usage [] ++ "\n\nOptions:\n" ++ String.join (Argument.all.map (Argument.helpLines env))

/-- the hint that something similar exists -/
def hint (kind text : String) : String :=
  "\n\n  tip: a similar " ++ kind ++ " exists: '" ++ text ++ "'"

namespace Refusal

/-- the argument that an unknown word may have been meant for -/
def similar? (word : String) : Option Argument :=
  if word.startsWith "--" then Text.closest? Argument.long (word.drop 2).copy Argument.all else none

/-- what follows the headline: the values to choose from, hints, and how the program is called -/
def details : Refusal → String
  | .unexpected word given => match similar? word with
    | some a =>
      let shown := if given.contains a then given else given ++ [a]
      hint "argument" ("--" ++ a.long) ++ "\n\n" ++ usage shown
    | none => "\n\n" ++ usage given
  | .unneededValue a _ given => "\n\n" ++ usage (if given.contains a then given else given ++ [a])
  | .missingValue a =>
    if a.choices.isEmpty then "" else "\n  [possible values: " ++ String.intercalate ", " a.choices ++ "]"
  | .notAChoice a value =>
    "\n  [possible values: " ++ String.intercalate ", " a.choices ++ "]"
      ++ (match Text.closest? id value a.choices with
        | some choice => hint "value" choice
        | none => "")
  | .invalidValue .. => ""
  | .repeated _ => "\n\n" ++ usage []
  | .exclusive _ others given =>
    (if others.length = 1 then "" else String.join (others.map fun b => "\n  " ++ b.display))
      ++ "\n\n" ++ usage (given.filter (!others.contains ·))
  | .help _ => ""
  | .version => ""

/-- what is printed instead of a run, before it is made plain -/
def rawText (env : Environment) : Refusal → String
  | .help _ => helpText env
  | .version => Refusal.version.headline ++ "\n"
  | r => r.headline ++ r.details ++ "\n\nFor more information, try '--help'.\n"

/-- all that is printed instead of a run -/
def text (env : Environment) (r : Refusal) : String :=
  Console.Plain.ofText (r.rawText env)

/-- help and the version were asked for; all else is an error -/
def isError : Refusal → Bool
  | .help _ => false
  | .version => false
  | _ => true

end Refusal

end CommandLine

end LoadTrial
