namespace SuiteTrigger

inductive Level where
  | debug
  | info
  | warning
  | error
  deriving DecidableEq

namespace Level

def severity : Level → Nat
  | .debug => 10
  | .info => 20
  | .warning => 30
  | .error => 40

def name : Level → String
  | .debug => "DEBUG"
  | .info => "INFO"
  | .warning => "WARNING"
  | .error => "ERROR"

end Level

structure LogEntry where
  level : Level
  text : String
  deriving DecidableEq

/-- The least level that is written: a severity, or a name that no level has. -/
inductive LogThreshold where
  | severity (least : Nat)
  | unknown (name : String)
  deriving DecidableEq

namespace LogThreshold

def named : List (String × Nat) :=
  [("CRITICAL", 50), ("FATAL", 50), ("ERROR", 40), ("WARNING", 30), ("WARN", 30), ("INFO", 20),
   ("DEBUG", 10), ("NOTSET", 0)]

def ofName (name : String) : LogThreshold :=
  match named.lookup name with
  | some least => .severity least
  | none => .unknown name

/-- How an unknown threshold is shown. -/
def unknownText (name : String) : String := "Level " ++ name

end LogThreshold

/-- The entries that a threshold lets through. -/
def LogEntry.atLeast (least : Nat) (entries : List LogEntry) : List LogEntry :=
  entries.filter fun entry => least ≤ entry.level.severity

end SuiteTrigger
