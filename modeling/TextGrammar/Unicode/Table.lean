/-!
# Tables of code points

Properties of characters are written as text and decoded once: runs of code points with a tag
each (`41Lu 5bPs …`), or plain ranges (`9-d 20 85`), numbers in hexadecimal.
-/
namespace TextGrammar.Unicode

def hexValue (digits : String) : Nat :=
  digits.foldl (fun value c =>
    16 * value + if c.isDigit then c.toNat - 48 else c.toNat - 87) 0

def tokens (text : String) : List String :=
  ((text.splitOn "\n").flatMap (·.splitOn " ")).filter fun token => !token.isEmpty

/-- Halves `[low, high)` until it holds one index, keeping `before low` true. -/
private def bisect (before : Nat → Bool) : (steps low high : Nat) → Nat
  | 0, low, _ => low
  | steps + 1, low, high =>
    if high ≤ low + 1 then low
    else
      let middle := (low + high) / 2
      if before middle then bisect before steps middle high else bisect before steps low middle

/-- Consecutive runs of code points in increasing order, each reaching to the next. -/
structure RunTable (α : Type) where
  runs : Array (Nat × α)

namespace RunTable

def find? {α : Type} (table : RunTable α) (n : Nat) : Option α :=
  let starts (i : Nat) : Bool := (table.runs[i]?).any fun run => decide (run.1 ≤ n)
  if starts 0 then
    (table.runs[bisect starts 32 0 table.runs.size]?).map Prod.snd
  else none

def decode {α : Type} (tag? : String → Option α) (text : String) : RunTable α :=
  ⟨((tokens text).filterMap fun token =>
    let digits := token.toList.takeWhile fun c => !c.isUpper
    (tag? (String.ofList (token.toList.drop digits.length))).map fun tag =>
      (hexValue (String.ofList digits), tag)).toArray⟩

end RunTable

/-- Disjoint ranges of code points in increasing order, with both ends. -/
structure RangeSet where
  ranges : Array (Nat × Nat)
deriving DecidableEq, Repr

namespace RangeSet

def contains (set : RangeSet) (n : Nat) : Bool :=
  let starts (i : Nat) : Bool := (set.ranges[i]?).any fun range => decide (range.1 ≤ n)
  match set.ranges[bisect starts 32 0 set.ranges.size]? with
  | some (first, last) => first ≤ n && n ≤ last
  | none => false

def decode (text : String) : RangeSet :=
  ⟨((tokens text).filterMap fun token =>
    match token.splitOn "-" with
    | [one] => some (hexValue one, hexValue one)
    | [first, last] => some (hexValue first, hexValue last)
    | _ => none).toArray⟩

end RangeSet

end TextGrammar.Unicode
