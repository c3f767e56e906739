import TextGrammar.Text.Bytes
/-!
# Locations

The line and column that people use for a byte offset.
-/
namespace TextGrammar

/-- Lines and columns are counted from one, columns in characters. -/
structure Location where
  line : Nat
  column : Nat
deriving DecidableEq, Repr

namespace Location

def after (before : List Char) : Location where
  line := before.count '\n' + 1
  column := (before.reverse.takeWhile (· != '\n')).length + 1

/-- The location of a byte offset. Offsets past the end count as the end, and offsets inside a
character as its start. -/
def locate (text : List Char) (offset : Nat) : Location := after (takeBytes offset text)

def render (location : Location) : String := s!"{location.line}:{location.column}"

end Location

end TextGrammar
