/-
Reading a command line, word by word. An argument that takes a value may have it attached, or in the next word;
such a value is looked at only when the next argument, or the end, is reached.
-/
import LoadTrial.CommandLine.Argument
import LoadTrial.Program.Basic
import LoadTrial.Settings.Variable

namespace LoadTrial.CommandLine

/-- why a command line is not carried out -/
inductive Refusal where
  /-- a word that is no argument, with the arguments in front of it -/
  | unexpected (word : String) (given : List Argument)
  /-- a value for an argument that takes none, with the arguments in front of it -/
  | unneededValue (argument : Argument) (value : String) (given : List Argument)
  | missingValue (argument : Argument)
  | notAChoice (argument : Argument) (value : String)
  | invalidValue (argument : Argument) (value reason : String)
  | repeated (argument : Argument)
  /-- an argument that excludes some others, with all arguments that have a value -/
  | exclusive (argument : Argument) (others given : List Argument)
  | help (long : Bool)
  | version
  deriving DecidableEq, Repr

/-- the first line of what is printed instead of a run -/
def Refusal.headline : Refusal → String
  | .unexpected word _ => "error: unexpected argument '" ++ word ++ "' found"
  | .unneededValue a value _ =>
    "error: unexpected value '" ++ value ++ "' for '" ++ a.display ++ "' found; no more were expected"
  | .missingValue a => "error: a value is required for '" ++ a.display ++ "' but none was supplied"
  | .notAChoice a value => "error: invalid value '" ++ value ++ "' for '" ++ a.display ++ "'"
  | .invalidValue a value reason => "error: invalid value '" ++ value ++ "' for '" ++ a.display ++ "': " ++ reason
  | .repeated a => "error: the argument '" ++ a.display ++ "' cannot be used multiple times"
  | .exclusive a [b] _ => "error: the argument '" ++ a.display ++ "' cannot be used with '" ++ b.display ++ "'"
  | .exclusive a _ _ => "error: the argument '" ++ a.display ++ "' cannot be used with:"
  | .help _ => Program.purpose
  | .version => Program.command ++ " " ++ Program.version

/-- an argument whose value stands in a word of its own -/
structure Pending where
  argument : Argument
  /-- absent until the word is reached -/
  value : Option String
  deriving DecidableEq, Repr

/-- what has been read -/
structure Progress where
  /-- the arguments given, each once, in order -/
  given : List Argument := []
  values : Arguments := {}
  pending : Option Pending := none
  deriving DecidableEq

namespace Progress

/-- takes up an argument with a value that it takes, or without one -/
def supply (p : Progress) (a : Argument) (text : String) : Except Refusal Progress :=
  if p.given.contains a && !a.isRepeatable then .error (.repeated a)
  else match a.store text p.values with
    | .ok values => .ok { p with values, given := if p.given.contains a then p.given else p.given ++ [a] }
    | .error .missing => .error (.missingValue a)
    | .error .notAChoice => .error (.notAChoice a text)
    | .error (.invalid reason) => .error (.invalidValue a text reason)

/-- takes up the argument whose value is looked at only now -/
def settle (p : Progress) : Except Refusal Progress :=
  match p.pending with
  | none => .ok p
  | some ⟨a, none⟩ => .error (.missingValue a)
  | some ⟨a, some text⟩ => { p with pending := none }.supply a text

/-- the arguments given so far, with the one whose value has not been looked at -/
def givenNow (p : Progress) : List Argument :=
  match p.pending with
  | some ⟨a, some _⟩ => if p.given.contains a then p.given else p.given ++ [a]
  | _ => p.given

/-- takes up an argument without a value; help and version end the reading -/
def switch (p : Progress) (a : Argument) (long : Bool) : Except Refusal Progress := do
  let p ← p.settle
  match a with
  | .help => .error (.help long)
  | .version => .error .version
  | _ => p.supply a ""

/-- takes up an argument with a value attached to it, or waits for its value -/
def withValue (p : Progress) (a : Argument) (attached : Option String) : Except Refusal Progress := do
  let p ← p.settle
  match attached with
  | some text => p.supply a text
  | none => .ok { p with pending := some ⟨a, none⟩ }

/-- reads a word behind two dashes -/
def longWord (p : Progress) (body : String) : Except Refusal Progress :=
  let name := String.ofList (body.toList.takeWhile (· != '='))
  let attached := match body.toList.dropWhile (· != '=') with
    | _ :: value => some (String.ofList value)
    | [] => none
  match Argument.ofLong? name with
  | none => .error (.unexpected ("--" ++ name) p.givenNow)
  | some a =>
    if a.takesValue then p.withValue a attached
    else match attached with
      | some value => .error (.unneededValue a value p.givenNow)
      | none => p.switch a true

/-- the value that follows a letter in its own word, with or without an equals sign -/
def attachedTo : List Char → Option String
  | [] => none
  | '=' :: value => some (String.ofList value)
  | value => some (String.ofList value)

/-- reads the letters behind one dash -/
def shortWord (p : Progress) : List Char → Except Refusal Progress
  | [] => .ok p
  | c :: rest => match Argument.ofShort? c with
    | none => .error (.unexpected (String.ofList ['-', c]) [])
    | some a => if a.takesValue then p.withValue a (attachedTo rest) else do shortWord (← p.switch a false) rest

/-- reads a word that is no argument: the value that is waited for -/
def plainWord (p : Progress) (word : String) : Except Refusal Progress :=
  match p.pending with
  | some ⟨a, none⟩ => .ok { p with pending := some ⟨a, some word⟩ }
  | _ => .error (.unexpected word [])

/-- reads one word -/
def word (p : Progress) (w : String) : Except Refusal Progress :=
  match w.toList with
  | '-' :: '-' :: body => p.longWord (String.ofList body)
  | '-' :: c :: rest => p.shortWord (c :: rest)
  | _ => p.plainWord w

/-- reads all words; behind a word of two dashes no argument may follow -/
def words (p : Progress) : List String → Except Refusal Progress
  | [] => p.settle
  | w :: rest =>
    if w == "--" then
      match rest with
      | [] => p.settle
      | next :: _ => .error (.unexpected next [])
    else do words (← p.word w) rest

/-- the first argument given that another one excludes, with those that do -/
def conflict? (p : Progress) : Option (Argument × List Argument) :=
  (p.given.map fun a => (a, p.given.filter a.excludes)).find? (!·.2.isEmpty)

end Progress

/-- reads a command line; the log format may come from the environment -/
def parse (env : Environment) (argv : List String) : Except Refusal Arguments := do
  let p ← Progress.words {} argv
  let fromEnv := env.get? Variable.logFormat.name
  match p.conflict? with
  | some (a, others) =>
    let given := if fromEnv.isSome && !p.given.contains .logFormat then p.given ++ [.logFormat] else p.given
    .error (.exclusive a others given)
  | none =>
    .ok { p.values with logFormat := p.values.logFormat <|> fromEnv }

end LoadTrial.CommandLine
