import TextGrammar.Engine
import TextGrammar.Pattern.Parser
import TextGrammar.Proofs.Search
/-!
# Terminals

A terminal is a pattern tied to the start of the text it is tried on.
-/
namespace TextGrammar.Terminal

/-- The pattern is wrapped as text, so one that closes the group early can escape the anchor. -/
def compile (pattern : String) : Option Regex :=
  Pattern.parse ("^(?:".toList ++ pattern.toList ++ [')'])

def matchLength? (regex : Regex) (text : List Char) : Option Nat :=
  (regex.find text).map Span.stop

theorem matchLength?_le {regex : Regex} {text : List Char} {length : Nat}
    (h : matchLength? regex text = some length) : length ≤ text.length := by
  obtain ⟨span, hfind, rfl⟩ := Option.map_eq_some_iff.mp h
  exact Regex.find_stop_le hfind

instance engine : Engine where
  Program := Regex
  compile := compile
  matchLength? := matchLength?
  matchLength?_le := matchLength?_le

@[simp] theorem engine_compile (pattern : String) : Engine.compile pattern = compile pattern := rfl

@[simp] theorem engine_matchLength? (regex : Regex) (text : List Char) :
    Engine.matchLength? regex text = matchLength? regex text := rfl

end TextGrammar.Terminal
