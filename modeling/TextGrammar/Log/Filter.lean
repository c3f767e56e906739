import TextGrammar.Log.Record
import TextGrammar.Pattern.Parser
import TextGrammar.Regex.Search
/-!
# Log filters

A specification such as `info,regram::matcher=trace/word` says which records are shown: for each
target up to which level, and which pattern their messages have to contain.
-/
namespace TextGrammar.Log

/-- The most detailed level shown; `none` shows nothing. -/
abbrev Threshold := Option Level

def Threshold.admits (threshold : Threshold) (level : Level) : Bool :=
  threshold.any fun most => level.detail ≤ most.detail

def Threshold.ofName? (name : List Char) : Option Threshold :=
  let name := name.map Char.toUpper
  if name = "OFF".toList then some none
  else
    ([.error, .warn, .info, .debug, .trace].find? fun level : Level => level.name.toList = name).map
      some

/-- A threshold for the targets whose names start with `target`, or for all of them. -/
structure Directive where
  target : Option (List Char)
  threshold : Threshold
deriving DecidableEq, Repr

namespace Directive

def appliesTo (directive : Directive) (target : String) : Bool :=
  directive.target.all fun start => start.isPrefixOf target.toList

private def length (directive : Directive) : Nat :=
  (directive.target.map byteLength).getD 0

end Directive

structure Filter where
  directives : List Directive := []
  pattern : Option Regex := none
  /-- The parts of the specification that were of no use. -/
  warnings : List String := []

namespace Filter

private def trim (text : List Char) : List Char :=
  let blank := fun c : Char => Unicode.isWhiteSpace c.toNat
  ((text.dropWhile blank).reverse.dropWhile blank).reverse

private def refused (spec : List Char) : String := s!"invalid logging spec '{String.ofList spec}'"

/-- A level alone is for every target, and a target alone is shown completely. -/
private def readDirective (text : List Char) : Except String Directive :=
  match text.splitOn '=' with
  | [word] =>
    match Threshold.ofName? word with
    | some threshold => .ok ⟨none, threshold⟩
    | none => .ok ⟨some word, some .trace⟩
  | [target, level] =>
    let level := trim level
    if level.isEmpty then .ok ⟨some target, some .trace⟩
    else
      match Threshold.ofName? level with
      | some threshold => .ok ⟨some target, threshold⟩
      | none => .error (refused level)
  | _ => .error (refused text)

/-- A later directive takes the place of an earlier one for the same target. -/
private def add (filter : Filter) (directive : Directive) : Filter :=
  let same := fun other : Directive => other.target == directive.target
  if filter.directives.any same then
    { filter with
      directives := filter.directives.map fun other => if same other then directive else other }
  else { filter with directives := filter.directives ++ [directive] }

private def warn (filter : Filter) (warning : String) : Filter :=
  { filter with warnings := filter.warnings ++ [warning] }

private def addText (filter : Filter) (text : List Char) : Filter :=
  if (trim text).isEmpty then filter
  else
    match readDirective (trim text) with
    | .ok directive => filter.add directive
    | .error warning => filter.warn warning

private def addPattern (filter : Filter) (text : List Char) : Filter :=
  match Pattern.parse text with
  | some regex => { filter with pattern := some regex }
  | none => filter.warn "invalid regex filter - <reason>"

private def addTexts (text : List Char) : Filter := (text.splitOn ',').foldl addText {}

def ofSpec (spec : String) : Filter :=
  match spec.toList.splitOn '/' with
  | [directives] => addTexts directives
  | [directives, pattern] => (addTexts directives).addPattern pattern
  | _ => ({} : Filter).warn (refused spec.toList ++ " (too many '/'s)")

/-- Without directives only errors are shown. -/
private def effective (filter : Filter) : List Directive :=
  if filter.directives.isEmpty then [⟨none, some .error⟩] else filter.directives

/-- Of the directives that apply to a target the longest one counts, and of these the last. -/
def thresholdFor (filter : Filter) (target : String) : Threshold :=
  let byLength := filter.effective.mergeSort fun a b => a.length ≤ b.length
  (byLength.reverse.find? (·.appliesTo target)).bind Directive.threshold

def shows (filter : Filter) (record : Record) : Bool :=
  (filter.thresholdFor record.target).admits record.level
    && filter.pattern.all fun regex => (regex.find record.message.toList).isSome

end Filter

end TextGrammar.Log
