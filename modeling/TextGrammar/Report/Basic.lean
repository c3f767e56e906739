import TextGrammar.Document.Json.Writer
import TextGrammar.Report.Tree
import TextGrammar.RuleSet
/-!
# Reports

What is printed about a parse, a failure and a checked grammar, for people and for programs.
-/
namespace TextGrammar

inductive OutputMode where
  | human
  | json
deriving DecidableEq, Repr

private def count (n : Nat) : Document := .integer n

structure ParseReport where
  rule : String
  complete : Bool
  /-- Bytes consumed. -/
  consumed : Nat
  remaining : String
  value : Document

namespace ParseReport

def ofParsed (parsed : Parsed) : ParseReport where
  rule := parsed.object.kind
  complete := parsed.isComplete
  consumed := parsed.rest.offset
  remaining := String.ofList parsed.rest.rest
  value := parsed.object.toDocument

def toDocument (report : ParseReport) : Document :=
  .object [("rule", .string report.rule), ("complete", .bool report.complete),
    ("consumed", count report.consumed), ("remaining", .string report.remaining),
    ("value", report.value)]

def human (report : ParseReport) : String :=
  Tree.render 1 report.value ++
    if report.complete then "\n\nAll input consumed."
    else
      let remaining := Quoted.encode report.remaining
      s!"\n\nStopped after {report.consumed} byte(s); remaining: {remaining}"

def render (report : ParseReport) : OutputMode → String
  | .human => report.human ++ "\n"
  | .json => Json.pretty 0 report.toDocument ++ "\n"

end ParseReport

structure FailureReport where
  error : String
  recoverable : Bool
  offset : Option Nat
  location : Option Location

namespace FailureReport

def ofFailure (failure : Failure) (text : List Char) : FailureReport where
  error := failure.message
  recoverable := failure.isRecoverable
  offset := failure.position?
  location := failure.position?.map (Location.locate text)

def toDocument (report : FailureReport) : Document :=
  .object ([("error", .string report.error), ("recoverable", .bool report.recoverable)]
    ++ (report.offset.map fun offset => ("offset", count offset)).toList
    ++ (report.location.map fun location =>
      ("location", .object [("line", count location.line),
        ("column", count location.column)])).toList)

def human (report : FailureReport) : String :=
  match report.location with
  | some location => s!"Parse failed at {location.render}: {report.error}"
  | none => s!"Parse failed: {report.error}"

def render (report : FailureReport) : OutputMode → String
  | .human => report.human ++ "\n"
  | .json => Json.pretty 0 report.toDocument ++ "\n"

end FailureReport

structure CheckReport where
  start : Option String
  maxDepth : Nat
  /-- Names and notations. -/
  rules : List (String × String)

namespace CheckReport

def ofRuleSet (set : RuleSet) : CheckReport where
  start := set.start
  maxDepth := set.maxDepth
  rules := set.rules.map fun (name, grammar) => (name, grammar.render)

def toDocument (report : CheckReport) : Document :=
  .object [("start", (report.start.map Document.string).getD .null),
    ("max_depth", count report.maxDepth),
    ("rules", .array (report.rules.map fun (name, grammar) =>
      .object [("name", .string name), ("notation", .string grammar)]))]

def human (report : CheckReport) : String :=
  s!"Grammar OK: {report.rules.length} rule(s)\n\n" ++
    String.join (report.rules.map fun (name, grammar) =>
      let mark := if report.start = some name then " (start)" else ""
      s!"  {name}{mark}\n      {grammar}\n\n")

def render (report : CheckReport) : OutputMode → String
  | .human => report.human
  | .json => Json.pretty 0 report.toDocument ++ "\n"

end CheckReport

/-- The report of a parse that had to succeed, and when `strict` to consume everything. -/
def reportParse (outcome : Except Failure Parsed) (strict : Bool) (text : List Char) :
    Except FailureReport ParseReport :=
  match outcome with
  | .ok parsed =>
    match parsed.demand strict with
    | .ok parsed => .ok (.ofParsed parsed)
    | .error failure => .error (.ofFailure failure text)
  | .error failure => .error (.ofFailure failure text)

end TextGrammar
