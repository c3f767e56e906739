import TextGrammar.Matching.Matcher
/-!
# Traces

The events of a match in the order in which they happen: parses that begin and end, alternatives
that fail, and repetitions that stop. Each event is derived from the matches it reports.
-/
namespace TextGrammar

variable [Engine] [Targets]

inductive Event where
  | parsing (kind : String) (bytes : Nat)
  | parsed (kind : String) (bytesLeft : Nat)
  | alternativeFailed (part : Node) (failure : Failure)
  | repetitionStopped (part : Node) (count : Nat) (failure : Failure)

namespace Event

/-- Parses are of interest to users, the ways of a match only to authors of grammars. -/
def isDebug : Event → Bool
  | .parsing .. | .parsed .. => true
  | .alternativeFailed .. | .repetitionStopped .. => false

def message : Event → String
  | .parsing kind bytes => s!"parsing {kind} ({bytes} bytes of input)"
  | .parsed kind bytesLeft => s!"parsed {kind}: {bytesLeft} bytes left over"
  | .alternativeFailed part failure => s!"alternative {part.render} failed: {failure.message}"
  | .repetitionStopped part count failure =>
    s!"repetition of {part.render} stopped after {count}: {failure.message}"

end Event

def repeatEvents (part : Node) (step : Object → Cursor → Outcome Yield × Object)
    (events : Object → Cursor → List Event) :
    (fuel count : Nat) → Object → Cursor → List Event
  | 0, _, _, _ => []
  | fuel + 1, count, object, cursor =>
    if cursor.isAtEnd then []
    else
      events object cursor ++
        match step object cursor with
        | (.ok (_, next), object) =>
          if next.offset = cursor.offset then []
          else repeatEvents part step events fuel (count + 1) object next
        | (.error failure, _) =>
          if failure.isRecoverable then [.repetitionStopped part count failure] else []

namespace Node

mutual
def events (enter : Reference → Cursor → Outcome Value)
    (entered : Reference → Cursor → List Event) : Node → Object → Cursor → List Event
  | .terminal _, _, _ => []
  | .nested type, _, cursor => entered (.type type) cursor
  | .rule name, _, cursor => entered (.rule name) cursor
  | .sequence parts, object, cursor | .collect parts, object, cursor =>
    eventsAll enter entered parts object cursor
  | .alternation parts, object, cursor => eventsFirst enter entered parts object cursor
  | .attribute _ part, object, cursor | .ignore part, object, cursor
  | .optional part, object, cursor => events enter entered part object cursor
  | .repetition part _, object, cursor =>
    repeatEvents part (run enter part) (events enter entered part) cursor.rest.length 0 object cursor

def eventsAll (enter : Reference → Cursor → Outcome Value)
    (entered : Reference → Cursor → List Event) : List Node → Object → Cursor → List Event
  | [], _, _ => []
  | part :: parts, object, cursor =>
    events enter entered part object cursor ++
      match run enter part object cursor with
      | (.ok (_, next), object) => eventsAll enter entered parts object next
      | (.error _, _) => []

def eventsFirst (enter : Reference → Cursor → Outcome Value)
    (entered : Reference → Cursor → List Event) : List Node → Object → Cursor → List Event
  | [], _, _ => []
  | part :: parts, object, cursor =>
    events enter entered part object cursor ++
      match run enter part object cursor with
      | (.ok _, _) => []
      | (.error failure, object) =>
        if failure.isRecoverable then
          .alternativeFailed part failure :: eventsFirst enter entered parts object cursor
        else []
end

end Node

namespace Matcher

def entered (m : Matcher) : (depth : Nat) → Reference → Cursor → List Event
  | 0, _, _ => []
  | depth + 1, reference, cursor =>
    match m.resolve reference with
    | .ok (grammar, fresh) => grammar.events (m.enter depth) (m.entered depth) fresh cursor
    | .error _ => []

def matchEvents (m : Matcher) (node : Node) (object : Object) (cursor : Cursor) : List Event :=
  node.events (m.enter m.maxDepth) (m.entered m.maxDepth) object cursor

def parseEvents (m : Matcher) (grammar : Node) (object : Object) (text : List Char) : List Event :=
  .parsing object.kind (byteLength text) ::
    m.matchEvents grammar object (Cursor.start text) ++
      match m.parseInto grammar object text with
      | (.ok rest, object) => [.parsed object.kind (byteLength rest.rest)]
      | (.error _, _) => []

end Matcher

end TextGrammar
