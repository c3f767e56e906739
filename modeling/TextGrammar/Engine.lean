/-!
# Engines

What terminals ask of regular expressions. Matching and validation are defined for every engine;
the engine that runs is that of `Terminal`.
-/
namespace TextGrammar

/-- Reads patterns and tells how far into a text their match reaches. -/
class Engine where
  /-- Patterns made ready for a search. -/
  Program : Type
  /-- Only patterns that are well formed have a program. -/
  compile : String → Option Program
  /-- The number of characters from the start of the text to the end of the match. -/
  matchLength? : Program → List Char → Option Nat
  matchLength?_le : ∀ {program : Program} {text : List Char} {length : Nat},
    matchLength? program text = some length → length ≤ text.length

end TextGrammar
