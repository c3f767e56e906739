import TextGrammar.Document.Json.Reader
import TextGrammar.Document.Toml.Reader
import TextGrammar.GrammarFile.Decl
import TextGrammar.RuleSet
/-!
# Grammar files

A grammar file declares rules by name, and may name a start rule and a limit on nesting.
-/
namespace TextGrammar

structure GrammarFile where
  start : Option String := none
  maxDepth : Nat := defaultMaxDepth
  rules : NameMap NodeDecl := []
deriving BEq

inductive UsageError where
  | noRules
  | invalid (failure : Failure)
deriving DecidableEq, Repr

def UsageError.message : UsageError → String
  | .noRules => "grammar defines no rules"
  | .invalid failure => s!"invalid grammar: {failure.message}"

namespace GrammarFile

variable [Engine]

def tolerant (rules : FormatRules) : FormatRules := { rules with skipsUnknownNames := true }

def readStart : Option Document → Option (Option String)
  | none | some .null => some none
  | some (.string name) => some (some name)
  | some _ => none

/-- A date in place of the options names none of them. -/
def readOptions (rules : FormatRules) : Option Document → Option Nat
  | none | some (.moment _) => some defaultMaxDepth
  | some document =>
    match document.fields (tolerant rules) ["max_depth"] with
    | some [none] => some defaultMaxDepth
    | some [some depth] => depth.count?
    | _ => none

def readRule (rules : FormatRules) : String × Document → Option (String × NodeDecl)
  | (name, document) => do return (name, ← NodeDecl.ofDocument? rules document)

/-- Of rules with the same name the last one counts, but all have to be readable. -/
def readRules (rules : FormatRules) : Option Document → Option (NameMap NodeDecl)
  | none => some []
  | some (.object members) => do return NameMap.ofList (← members.mapM (readRule rules))
  | some _ => none

def ofDocument? (rules : FormatRules) (document : Document) : Option GrammarFile :=
  match document.fields (tolerant rules) ["start", "options", "rules"] with
  | some [start, options, decls] => do
    return ⟨← readStart start, ← readOptions rules options, ← readRules rules decls⟩
  | _ => none

def readJson (text : List Char) : Option GrammarFile :=
  (Json.read text).bind (ofDocument? .json)

def readToml (text : List Char) : Option GrammarFile :=
  (Toml.read text).bind (ofDocument? .toml)

def writeRule : String × NodeDecl → String × Document
  | (name, decl) => (name, decl.toDocument)

def toDocument (file : GrammarFile) : Document :=
  .object ((file.start.map fun start => ("start", Document.string start)).toList
    ++ [("options", .object [("max_depth", .integer file.maxDepth)]),
      ("rules", .object (file.rules.map writeRule))])

def toRuleSet (file : GrammarFile) : Except UsageError RuleSet :=
  if file.rules.isEmpty then .error .noRules
  else
    let set : RuleSet :=
      { rules := file.rules.map fun (name, decl) => (name, decl.toNode)
        start := file.start
        maxDepth := file.maxDepth }
    match set.validate with
    | .ok () => .ok set
    | .error failure => .error (.invalid failure)

end GrammarFile

end TextGrammar
