import TextGrammar.Engine
import TextGrammar.Failure
import TextGrammar.Grammar.ObjectType
import TextGrammar.Text.Cursor
/-!
# Matching

A grammar is matched at a cursor while an object is being built. Matching yields a value or the
object itself, the cursor after what was consumed, and the object with the bindings made on the
way; bindings of ways that failed stay.
-/
namespace TextGrammar

/-- What a match yields: a value, or the object being built. -/
inductive Yield where
  | value (value : Value)
  | target
deriving Repr

def Yield.flatten : Yield → List Value
  | .value v => v.flatten
  | .target => []

def Yield.isTarget : Yield → Bool
  | .value _ => false
  | .target => true

abbrev Outcome (α : Type) := Except Failure (α × Cursor)

inductive Reference where
  | rule (name : String)
  | type (name : String)
deriving DecidableEq, Repr

variable [Engine] [Targets]

/-- Matches a terminal; everything up to the end of the match is consumed. -/
def matchTerminal (pattern : String) (cursor : Cursor) : Outcome Yield :=
  match Engine.compile pattern with
  | none => .error (.invalidPattern pattern)
  | some program =>
    match Engine.matchLength? program cursor.rest with
    | none => .error (.mismatch pattern cursor.offset)
    | some length =>
      .ok (.value (.text (String.ofList (cursor.rest.take length))), cursor.advance length)

def bindYield (name : String) (yield : Yield) (object : Object) : Except Failure Unit × Object :=
  let bound : Except BindingError Unit × Object :=
    match yield with
    | .value value => Targets.set object name value
    | .target => (.error .selfReference, object)
  match bound with
  | (.ok (), object) => (.ok (), object)
  | (.error reason, object) => (.error (.refusedBinding object.kind name reason), object)

/-- Repeats `step` until it fails recoverably or the input ends, joining what it yields. The flag
tells whether a step yielded the object being built. Steps consume input, so the number of
characters left bounds their number. -/
def repeatStep (step : Object → Cursor → Outcome Yield × Object) :
    (fuel : Nat) → (values : List Value) → (bound : Bool) → Object → Cursor →
      Outcome (List Value × Bool) × Object
  | 0, values, bound, object, cursor => (.ok ((values, bound), cursor), object)
  | fuel + 1, values, bound, object, cursor =>
    if cursor.isAtEnd then (.ok ((values, bound), cursor), object)
    else
      match step object cursor with
      | (.ok (yield, next), object) =>
        if next.offset = cursor.offset then (.error (.noProgress cursor.offset), object)
        else
          repeatStep step fuel (values ++ yield.flatten) (bound || yield.isTarget) object next
      | (.error failure, object) =>
        if failure.isRecoverable then (.ok ((values, bound), cursor), object)
        else (.error failure, object)

/-- Without `allowZero` the steps have to yield something: a value that counts or the object. -/
def matchRepetition (step : Object → Cursor → Outcome Yield × Object) (allowZero : Bool)
    (object : Object) (cursor : Cursor) : Outcome Yield × Object :=
  match repeatStep step cursor.rest.length [] false object cursor with
  | (.ok ((values, bound), next), object) =>
    if values.isEmpty && !bound && !allowZero then (.error (.tooFew cursor.offset), object)
    else (.ok (.value (.sequence values), next), object)
  | (.error failure, object) => (.error failure, object)

def yieldObject (outcome : Outcome Value) : Outcome Yield :=
  match outcome with
  | .ok (object, next) => .ok (.value object, next)
  | .error failure => .error failure

namespace Node

mutual
/-- Matches a grammar whose references are followed by `enter`. -/
def run (enter : Reference → Cursor → Outcome Value) :
    Node → Object → Cursor → Outcome Yield × Object
  | .terminal pattern, object, cursor => (matchTerminal pattern cursor, object)
  | .nested type, object, cursor => (yieldObject (enter (.type type) cursor), object)
  | .rule name, object, cursor => (yieldObject (enter (.rule name) cursor), object)
  | .sequence parts, object, cursor =>
    match runAll enter parts [] object cursor with
    | (.ok (_, next), object) => (.ok (.target, next), object)
    | (.error failure, object) => (.error failure, object)
  | .collect parts, object, cursor =>
    match runAll enter parts [] object cursor with
    | (.ok (values, next), object) => (.ok (.value (.sequence values), next), object)
    | (.error failure, object) => (.error failure, object)
  | .alternation parts, object, cursor =>
    match runFirst enter parts object cursor with
    | (some outcome, object) => (outcome, object)
    | (none, object) => (.error (.noAlternative (parts.map render) cursor.offset), object)
  | .attribute name part, object, cursor =>
    match run enter part object cursor with
    | (.ok (yield, next), object) =>
      match bindYield name yield object with
      | (.ok (), object) => (.ok (.target, next), object)
      | (.error failure, object) => (.error failure, object)
    | (.error failure, object) => (.error failure, object)
  | .ignore part, object, cursor =>
    match run enter part object cursor with
    | (.ok (_, next), object) => (.ok (.value .empty, next), object)
    | (.error failure, object) => (.error failure, object)
  | .optional part, object, cursor =>
    match run enter part object cursor with
    | (.ok result, object) => (.ok result, object)
    | (.error failure, object) =>
      if failure.isRecoverable then (.ok (.value .empty, cursor), object)
      else (.error failure, object)
  | .repetition part allowZero, object, cursor =>
    matchRepetition (run enter part) allowZero object cursor

def runAll (enter : Reference → Cursor → Outcome Value) :
    List Node → (values : List Value) → Object → Cursor → Outcome (List Value) × Object
  | [], values, object, cursor => (.ok (values, cursor), object)
  | part :: parts, values, object, cursor =>
    match run enter part object cursor with
    | (.ok (yield, next), object) => runAll enter parts (values ++ yield.flatten) object next
    | (.error failure, object) => (.error failure, object)

def runFirst (enter : Reference → Cursor → Outcome Value) :
    List Node → Object → Cursor → Option (Outcome Yield) × Object
  | [], object, _ => (none, object)
  | part :: parts, object, cursor =>
    match run enter part object cursor with
    | (.ok result, object) => (some (.ok result), object)
    | (.error failure, object) =>
      if failure.isRecoverable then runFirst enter parts object cursor
      else (some (.error failure), object)
end

end Node

end TextGrammar
