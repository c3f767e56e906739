import TextGrammar.Command.Arguments
import TextGrammar.Command.Reading
import TextGrammar.GrammarFile.Basic
import TextGrammar.Log.Filter
import TextGrammar.Terminal
/-!
# Running commands

From arguments and inputs to what is printed and the status that a run ends with.
-/
namespace TextGrammar.Command

variable [Engine] [Targets]

def programVersion : String := "0.1.0"

inductive RunError where
  | unreadableGrammar (path : String) (error : ReadError)
  | notToml
  | notJson
  | unusableGrammar (path : String) (error : UsageError)
  | noRule (path : String)
  | unreadableFile (path : String) (error : ReadError)
  | unreadableStdin (error : ReadError)
  | noMatch (rule : String)
deriving DecidableEq, Repr

namespace RunError

/-- The cause of an error is told after it, also where the error has told it already. -/
private def withCause (message : String) : UsageError → String
  | .noRules => message
  | .invalid failure => s!"{message}: {failure.message}"

def message : RunError → String
  | .unreadableGrammar path error => s!"cannot read {path}: {error.message}: {error.message}"
  | .notToml => "invalid TOML grammar: <reason>"
  | .notJson => "invalid JSON grammar: <reason>"
  | .unusableGrammar path error =>
    withCause s!"grammar {path} is not usable: {error.message}" error
  | .noRule path => s!"no rule given and {path} declares no start rule"
  | .unreadableFile path error => s!"cannot read {path}: {error.message}"
  | .unreadableStdin error => s!"cannot read stdin: {error.message}"
  | .noMatch rule => s!"input does not match rule `{rule}`"

end RunError

structure RunOutcome where
  log : List Log.Record := []
  output : String := ""
  error : Option RunError := none

namespace RunOutcome

def failed (error : RunError) : RunOutcome := { error := some error }

def logAbove (log : List Log.Record) (outcome : RunOutcome) : RunOutcome :=
  { outcome with log := log ++ outcome.log }

end RunOutcome

def logged (target message : String) : Log.Record :=
  ⟨.debug, "regram::" ++ target, message⟩

private def afterLastDot (name : List Char) : List Char :=
  (name.reverse.takeWhile (· != '.')).reverse

/-- The extension is what follows the last dot of a file name, unless nothing stands before it. -/
def fileExtension? (path : String) : Option (List Char) :=
  let names := (path.toList.splitOn '/').filter fun name => name ≠ [] ∧ name ≠ ['.']
  match names.getLast? with
  | none | some ['.', '.'] => none
  | some name =>
    let last := afterLastDot name
    if last.length + 1 < name.length then some last else none

/-- Files named as JSON are read as such, all others as TOML. -/
def isJsonPath (path : String) : Bool :=
  (fileExtension? path).any fun last => last.map Char.toLower = "json".toList

def decodeGrammar (path : String) (content : String) : Except RunError GrammarFile :=
  if isJsonPath path then (GrammarFile.readJson content.toList).elim (.error .notJson) .ok
  else (GrammarFile.readToml content.toList).elim (.error .notToml) .ok

def loadRules (path content : String) : Except RunError RuleSet :=
  match decodeGrammar path content with
  | .ok file =>
    match file.toRuleSet with
    | .ok set => .ok set
    | .error error => .error (.unusableGrammar path error)
  | .error error => .error error

def withRules (path : String) (next : RuleSet → Reading RunOutcome) : Reading RunOutcome :=
  .read (.file path) fun
    | .error error => .done (.failed (.unreadableGrammar path error))
    | .ok content =>
      let outcome := match loadRules path content with
        | .ok set => next set
        | .error error => .done (.failed error)
      outcome.map (.logAbove [logged "config" s!"loaded grammar file {path}"])

def withText (source : Source) (next : String → Reading RunOutcome) : Reading RunOutcome :=
  match source with
  | .text text => next text
  | .file path => .read (.file path) fun
    | .ok text => next text
    | .error error => .done (.failed (.unreadableFile path error))
  | .stdin => .read .stdin fun
    | .ok text => next text
    | .error error => .done (.failed (.unreadableStdin error))

def parseText (set : RuleSet) (rule : String) (strict : Bool) (mode : OutputMode)
    (text : String) : RunOutcome :=
  let log := logged "commands::parse"
      s!"parsing {byteLength text.toList} bytes with rule `{rule}`"
    :: (set.parseEvents rule text.toList).map .ofEvent
  match reportParse (set.parse rule text.toList) strict text.toList with
  | .ok report => { log := log, output := report.render mode }
  | .error report => { log := log, output := report.render mode, error := some (.noMatch rule) }

def parse (grammar : String) (rule : Option String) (strict : Bool) (source : Source)
    (mode : OutputMode) : Reading RunOutcome :=
  withRules grammar fun set =>
    match rule.or set.start with
    | none => .done (.failed (.noRule grammar))
    | some rule => withText source fun text => .done (parseText set rule strict mode text)

def check (grammar : String) (mode : OutputMode) : Reading RunOutcome :=
  withRules grammar fun set =>
    .done
      { log := [logged "commands::check" s!"grammar {grammar} has {set.rules.length} rule(s)"]
        output := (CheckReport.ofRuleSet set).render mode }

private def line (members : List (String × Document)) : String :=
  Json.compact (.object members) ++ "\n"

private def versionText : OutputMode → String
  | .human => s!"regram v{programVersion}\n"
  | .json => line [("version", .string programVersion)]

private def greeting : OutputMode → String
  | .human => versionText .human ++ "
Run 'regram --help' for usage
Run 'regram check --grammar <file>' to validate a grammar
"
  | .json => line [("hint", .string "Use --help for usage"), ("version", .string programVersion)]

def Invocation.perform (invocation : Invocation) : Reading RunOutcome :=
  match invocation.action with
  | .greet => .done { output := greeting invocation.mode }
  | .version => .done { output := versionText invocation.mode }
  | .check grammar => check grammar invocation.mode
  | .parse grammar rule strict source => parse grammar rule strict source invocation.mode

structure Result where
  status : UInt32
  stdout : String := ""
  stderr : String := ""

/-- Complaints about the filter come first, then the records it lets pass, then the error. -/
def RunOutcome.toResult (filter : Log.Filter) (outcome : RunOutcome) : Result where
  status := if outcome.error.isSome then 1 else 0
  stdout := outcome.output
  stderr :=
    String.join (filter.warnings.map fun warning => s!"warning: {warning}, ignoring it\n")
      ++ String.join ((outcome.log.filter filter.shows).map Log.Record.render)
      ++ (outcome.error.map fun error => s!"error: {error.message}\n").getD ""

private def usage : String :=
  "Parse text with declarative grammar files

Usage: regram [OPTIONS] [COMMAND]

Commands:
  parse    Parse input with a grammar file
  check    Validate a grammar file and list its rules
  version  Show version

Options:
  -v, --verbose  Enable verbose output
      --json     Output in JSON format (machine-readable)
  -h, --help     Print help
  -V, --version  Print version
"

/-- The log filter is given by the environment, or else follows from how verbose the run is. -/
def run (arguments : List String) (logSpec : Option String) : Reading Result :=
  match Request.ofArguments arguments with
  | none => .done { status := 2, stderr := "error: the arguments are not understood\n" }
  | some .help => .done { status := 0, stdout := usage }
  | some .version => .done { status := 0, stdout := s!"regram {programVersion}\n" }
  | some (.run invocation) =>
    let filter := Log.Filter.ofSpec (logSpec.getD (if invocation.verbose then "debug" else "info"))
    invocation.perform.map (RunOutcome.toResult filter)

end TextGrammar.Command
