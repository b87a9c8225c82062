import SuiteTrigger.Command.Run

namespace SuiteTrigger

/-- The variables of the environment that settings are read from. -/
def readEnvironment : IO Environment := do
  let mut found := []
  for name in Settings.variableNames do
    if let some value ← IO.getEnv name then found := found ++ [(name, value)]
  return found

/-- The bytes of a file; none where no file can be read. -/
def readFile (path : String) : IO (Option (List UInt8)) := do
  try
    return some (← IO.FS.readBinFile path).toList
  catch _ => return none

/-- The arguments that are paths of files, in their shortest form and with their contents. -/
def readFiles (args : List String) : IO (List (String × List UInt8)) := do
  let mut found := []
  for arg in args do
    let path := Command.plainPath arg
    if let some bytes ← readFile path then found := found ++ [(path, bytes)]
  return found

/-- Prints how a run ended and gives its exit code. -/
def report (outcome : Command.Outcome) (entries : List LogEntry) : IO UInt32 := do
  for entry in entries do
    IO.eprintln (entry.level.name ++ " - " ++ entry.text)
  if ← (← IO.getStdout).isTty then
    for text in outcome.output do IO.println text
  else IO.print outcome.writtenOutput
  if let some complaint := outcome.complaint then IO.eprintln (Command.written complaint)
  if let some failure := outcome.crash then IO.eprintln failure.message
  return UInt32.ofNat outcome.exitCode

end SuiteTrigger

open SuiteTrigger in
def main (args : List String) : IO UInt32 := do
  match Settings.ofEnvironment (← readEnvironment) with
  | .error e =>
    IO.eprintln e.message
    return 1
  | .ok settings =>
    let files ← readFiles args
    let (outcome, scene) := (Command.run settings (files.lookup ·) args).on
      ⟨Command.client settings [], .empty⟩
    match outcome with
    | .ok outcome => report outcome (Command.shownEntries settings scene.journal)
    | .error failure =>
      IO.eprintln failure.message
      return 1
