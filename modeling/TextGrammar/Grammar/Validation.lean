import TextGrammar.Engine
import TextGrammar.Failure
import TextGrammar.Grammar.Node
/-!
# Validation

Checks that need no input: patterns are well formed and rules exist. The types that a grammar
refers to are not entered.
-/
namespace TextGrammar.Node

variable [Engine]

mutual
/-- The leftmost defect, if there is one. -/
def validate (rules : NameMap Node) : Node → Except Failure Unit
  | .terminal pattern =>
    if (Engine.compile pattern).isSome then .ok () else .error (.invalidPattern pattern)
  | .nested _ => .ok ()
  | .rule name => if rules.contains name then .ok () else .error (.undefinedRule name)
  | .sequence parts | .collect parts | .alternation parts => validateAll rules parts
  | .attribute _ part | .ignore part | .optional part | .repetition part _ => part.validate rules

def validateAll (rules : NameMap Node) : List Node → Except Failure Unit
  | [] => .ok ()
  | part :: parts =>
    match part.validate rules with
    | .ok () => validateAll rules parts
    | .error failure => .error failure
end

end TextGrammar.Node
