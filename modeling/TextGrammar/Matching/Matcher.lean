import TextGrammar.Matching.Basic
/-!
# Matchers

A matcher supplies what references stand for and bounds how deeply they may nest. Only entering a
rule or a type counts as nesting; combinators do not.
-/
namespace TextGrammar

variable [Engine] [Targets]

def defaultMaxDepth : Nat := 256

structure Matcher where
  rules : NameMap Node := []
  types : Catalogue := ObjectType.standard
  maxDepth : Nat := defaultMaxDepth

structure Parsed where
  object : Object
  rest : Cursor

namespace Parsed

def isComplete (parsed : Parsed) : Bool := parsed.rest.isAtEnd

def complete (parsed : Parsed) : Except Failure Object :=
  if parsed.isComplete then .ok parsed.object else .error (.trailingInput parsed.rest.offset)

def demand (strict : Bool) (parsed : Parsed) : Except Failure Parsed :=
  if strict && !parsed.isComplete then .error (.trailingInput parsed.rest.offset) else .ok parsed

end Parsed

namespace Matcher

/-- The grammar behind a reference and the fresh object it is matched into. -/
def resolve (m : Matcher) : Reference → Except Failure (Node × Object)
  | .rule name =>
    match m.rules.find? name with
    | some grammar => .ok (grammar, Object.record name)
    | none => .error (.undefinedRule name)
  | .type name =>
    let type := m.types name
    .ok (type.grammar, type.instantiate name)

/-- Follows a reference with `depth` levels of nesting to spare. -/
def enter (m : Matcher) : (depth : Nat) → Reference → Cursor → Outcome Value
  | 0, reference, cursor =>
    match m.resolve reference with
    | .ok _ => .error (.tooDeep m.maxDepth cursor.offset)
    | .error failure => .error failure
  | depth + 1, reference, cursor =>
    match m.resolve reference with
    | .ok (grammar, fresh) =>
      match grammar.run (m.enter depth) fresh cursor with
      | (.ok (_, next), object) => .ok (object.toValue, next)
      | (.error failure, _) => .error failure
    | .error failure => .error failure

def matchNode (m : Matcher) (node : Node) (object : Object) (cursor : Cursor) :
    Outcome Yield × Object :=
  node.run (m.enter m.maxDepth) object cursor

def parseInto (m : Matcher) (grammar : Node) (object : Object) (text : List Char) :
    Except Failure Cursor × Object :=
  match m.matchNode grammar object (Cursor.start text) with
  | (.ok (_, rest), object) => (.ok rest, object)
  | (.error failure, object) => (.error failure, object)

def parseObject (m : Matcher) (grammar : Node) (fresh : Object) (text : List Char) :
    Except Failure Parsed :=
  match m.parseInto grammar fresh text with
  | (.ok rest, object) => .ok ⟨object, rest⟩
  | (.error failure, _) => .error failure

def parse (m : Matcher) (type : String) (text : List Char) : Except Failure Parsed :=
  m.parseObject (m.types type).grammar ((m.types type).instantiate type) text

def parseComplete (m : Matcher) (type : String) (text : List Char) : Except Failure Object :=
  match m.parse type text with
  | .ok parsed => parsed.complete
  | .error failure => .error failure

end Matcher

end TextGrammar
