import SuiteTrigger.Text.Split

/-!
# Command-line arguments

The first argument names a command; only options of the program itself stand before it. A command
takes the name of an event and the path of the file with its payload, and options anywhere among
them. After two dashes on their own there are no more options.
-/

namespace SuiteTrigger.Command

/-- What the program is asked to do with a delivered event. -/
inductive Task where
  | handle (dryRun : Bool)
  /-- Show what the event would lead to on a pull request with the given labels. -/
  | plan (labels : List String)
  deriving DecidableEq

/-- How arguments are understood. -/
inductive Usage where
  /-- A task with the name of the event and the path of its payload. -/
  | task (event path : String) (task : Task)
  | help
  | wrong
  deriving DecidableEq

/-- An option of a command: whether it takes a value. -/
structure OptionKind where
  name : String
  hasValue : Bool

def helpOption : String := "--help"

def dryRunOption : String := "--dry-run"

def labelOption : String := "--label"

/-- Arguments taken apart: those that are no options, and the options with their values. -/
structure Parsed where
  operands : List String
  options : List (String × String)

def Parsed.addOperand (operand : String) (p : Parsed) : Parsed :=
  { p with operands := operand :: p.operands }

def Parsed.addOption (name value : String) (p : Parsed) : Parsed :=
  { p with options := (name, value) :: p.options }

/-- The name of an option and the value behind an equals sign. -/
def splitOption (arg : String) : String × Option String :=
  match Text.cut? '=' arg.toList with
  | some (name, value) => (String.ofList name, some (String.ofList value))
  | none => (arg, none)

/-- Whether an argument is an option: it begins with a dash and is longer. -/
def isOption (arg : String) : Bool :=
  match arg.toList with
  | '-' :: _ :: _ => true
  | _ => false

/-- Takes arguments apart; none when an option is unknown, lacks its value or has one it does not
take. -/
def parse? (kinds : List OptionKind) : List String → Option Parsed
  | [] => some ⟨[], []⟩
  | arg :: rest =>
    if arg = "--" then some ⟨rest, []⟩
    else if !isOption arg then (parse? kinds rest).map (·.addOperand arg)
    else
      let (name, value) := splitOption arg
      match kinds.find? (·.name = name), value with
      | none, _ => none
      | some ⟨_, false⟩, some _ => none
      | some ⟨_, false⟩, none => (parse? kinds rest).map (·.addOption name "")
      | some ⟨_, true⟩, some value => (parse? kinds rest).map (·.addOption name value)
      | some ⟨_, true⟩, none =>
        match rest with
        | [] => none
        | value :: rest => (parse? kinds rest).map (·.addOption name value)

def Parsed.values (p : Parsed) (name : String) : List String :=
  (p.options.filter (·.1 = name)).map (·.2)

def Parsed.has (p : Parsed) (name : String) : Bool := p.options.any (·.1 = name)

/-- The use of a command whose arguments were taken apart. -/
def usageOf (parsed : Option Parsed) (build : Parsed → Task) : Usage :=
  match parsed with
  | none => .wrong
  | some p =>
    if p.has helpOption then .help
    else match p.operands with
      | [event, path] => .task event path (build p)
      | _ => .wrong

def handleUsage (args : List String) : Usage :=
  usageOf (parse? [⟨helpOption, false⟩, ⟨dryRunOption, false⟩] args) fun p =>
    .handle (p.has dryRunOption)

def planUsage (args : List String) : Usage :=
  usageOf (parse? [⟨helpOption, false⟩, ⟨labelOption, true⟩] args) fun p =>
    .plan (p.values labelOption)

/-- Arguments from the name of a command on, and whether help is asked for in front of it. -/
structure CommandLine where
  asksHelp : Bool
  rest : List String

/-- Takes off the options in front of the command; none when one of them is unknown. -/
def splitCommand? : List String → Option CommandLine
  | [] => some ⟨false, []⟩
  | arg :: rest =>
    if arg = "--" then some ⟨false, rest⟩
    else if !isOption arg then some ⟨false, arg :: rest⟩
    else if arg = helpOption then
      (splitCommand? rest).map fun line => { line with asksHelp := true }
    else none

/-- The use of the command that starts the server. It listens on a network, which this program does
not have, so only its help is of use. -/
def serveUsage (args : List String) : Usage :=
  match parse? [⟨helpOption, false⟩, ⟨"--host", true⟩, ⟨"--port", true⟩] args with
  | some p => if p.has helpOption then .help else .wrong
  | none => .wrong

def commands : List (String × (List String → Usage)) :=
  [("handle", handleUsage), ("plan", planUsage), ("serve", serveUsage)]

end SuiteTrigger.Command
