import TextGrammar.Grammar.Validation
import TextGrammar.Matching.Trace
/-!
# Rule sets

Named grammars that refer to each other, with an optional start rule. Each use of a rule builds a
record whose kind is the rule's name.
-/
namespace TextGrammar

variable [Engine] [Targets]

structure RuleSet where
  rules : NameMap Node := []
  start : Option String := none
  maxDepth : Nat := defaultMaxDepth

namespace RuleSet

def define (set : RuleSet) (name : String) (grammar : Node) : RuleSet :=
  { set with rules := set.rules.insert name grammar }

def matcher (set : RuleSet) : Matcher := { rules := set.rules, maxDepth := set.maxDepth }

/-- The start rule is checked first, then the rules in the order of their names. -/
def validate (set : RuleSet) : Except Failure Unit :=
  match set.start with
  | some start =>
    if set.rules.contains start then Node.validateAll set.rules (set.rules.map Prod.snd)
    else .error (.undefinedStart start)
  | none => Node.validateAll set.rules (set.rules.map Prod.snd)

def parse (set : RuleSet) (name : String) (text : List Char) : Except Failure Parsed :=
  match set.rules.find? name with
  | some grammar => set.matcher.parseObject grammar (Object.record name) text
  | none => .error (.undefinedRule name)

def parseStart (set : RuleSet) (text : List Char) : Except Failure Parsed :=
  match set.start with
  | some start => set.parse start text
  | none => .error .noStart

def parseEvents (set : RuleSet) (name : String) (text : List Char) : List Event :=
  match set.rules.find? name with
  | some grammar => set.matcher.parseEvents grammar (Object.record name) text
  | none => []

end RuleSet

end TextGrammar
