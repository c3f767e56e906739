import TextGrammar.Matching.Trace
/-!
# Log records

Messages about a run, each with a level and the part of the program that it comes from.
-/
namespace TextGrammar.Log

inductive Level where
  | error
  | warn
  | info
  | debug
  | trace
deriving DecidableEq, Repr

namespace Level

def detail : Level → Nat
  | .error => 1
  | .warn => 2
  | .info => 3
  | .debug => 4
  | .trace => 5

def name : Level → String
  | .error => "ERROR"
  | .warn => "WARN"
  | .info => "INFO"
  | .debug => "DEBUG"
  | .trace => "TRACE"

end Level

structure Record where
  level : Level
  target : String
  message : String
deriving DecidableEq, Repr

namespace Record

/-- A line for each record; further lines of a message are indented. -/
def render (record : Record) : String :=
  let message := String.ofList (record.message.toList.flatMap fun c =>
    if c = '\n' then "\n    ".toList else [c])
  s!"[{record.level.name} {record.target}] {message}\n"

def ofEvent (event : Event) : Record where
  level := if event.isDebug then .debug else .trace
  target := "regram::matcher"
  message := event.message

end Record

end TextGrammar.Log
