import TextGrammar.Value
/-!
# Failures

Why a match fails. Failures of the input can be recovered from by trying something else; failures
of the grammar cannot.
-/
namespace TextGrammar

inductive Failure where
  | mismatch (pattern : String) (position : Nat)
  /-- No part of an alternation matched; the parts are given in notation. -/
  | noAlternative (attempted : List String) (position : Nat)
  /-- A repetition that has to contribute something did not. -/
  | tooFew (position : Nat)
  | unrecognized (part : String)
  | invalidPattern (pattern : String)
  | refusedBinding (kind name : String) (reason : BindingError)
  /-- A repeated part matched without consuming anything. -/
  | noProgress (position : Nat)
  /-- Rules and types were nested deeper than allowed. -/
  | tooDeep (limit position : Nat)
  | trailingInput (position : Nat)
deriving DecidableEq, Repr

namespace Failure

def undefinedRule (name : String) : Failure := .unrecognized s!"rule `{name}`"

def undefinedStart (name : String) : Failure := .unrecognized s!"start rule `{name}`"

def noStart : Failure := .unrecognized "start rule (none set)"

/-- The failure is about the input, so another way to match may be tried. -/
def isRecoverable : Failure → Bool
  | .mismatch .. | .noAlternative .. | .tooFew _ => true
  | _ => false

def position? : Failure → Option Nat
  | .mismatch _ position | .noAlternative _ position | .tooFew position
  | .noProgress position | .tooDeep _ position | .trailingInput position => some position
  | .unrecognized _ | .invalidPattern _ | .refusedBinding .. => none

/-- Why a pattern is not well formed is not said. -/
def message : Failure → String
  | .mismatch pattern position => s!"expected /{pattern}/ at offset {position}"
  | .noAlternative attempted position =>
    "expected one of " ++ String.intercalate ", " attempted ++ s!" at offset {position}"
  | .tooFew position => s!"expected at least one repetition at offset {position}"
  | .unrecognized part => s!"unrecognized grammar part: {part}"
  | .invalidPattern pattern => s!"invalid pattern /{pattern}/: <reason>"
  | .refusedBinding kind name reason => s!"cannot bind `{name}` on {kind}: {reason.message}"
  | .noProgress position => s!"repetition made no progress at offset {position}"
  | .tooDeep limit position => s!"grammar nesting deeper than {limit} at offset {position}"
  | .trailingInput position => s!"unexpected trailing input at offset {position}"

end Failure

end TextGrammar
