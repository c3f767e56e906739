/-!
# Readers

A reader takes characters from the front of a text or refuses the text.
-/
namespace TextGrammar

abbrev Reader := StateT (List Char) Option

namespace Reader

def peek : Reader (Option Char) := do return (← get).head?

def next : Reader Char := do
  match ← get with
  | [] => failure
  | c :: rest =>
    set rest
    return c

def expect (c : Char) : Reader Unit := do
  guard ((← next) == c)

def accept (c : Char) : Reader Bool := do
  match ← get with
  | d :: rest =>
    if c == d then
      set rest
      return true
    else return false
  | [] => return false

def acceptAll (word : String) : Reader Bool := do
  let rest ← get
  if word.toList.isPrefixOf rest then
    set (rest.drop word.length)
    return true
  else return false

def takeWhile (fits : Char → Bool) : Reader (List Char) := do
  let rest ← get
  set (rest.dropWhile fits)
  return rest.takeWhile fits

def skipWhile (fits : Char → Bool) : Reader Unit := modify (·.dropWhile fits)

def remaining : Reader Nat := do return (← get).length

def readAll {α : Type} (reader : Reader α) (text : List Char) : Option α :=
  match reader.run text with
  | some (a, []) => some a
  | _ => none

end Reader

def isHexDigit (c : Char) : Bool :=
  c.isDigit || ('a' ≤ c && c ≤ 'f') || ('A' ≤ c && c ≤ 'F')

def hexDigitValue (c : Char) : Nat :=
  if c.isDigit then c.toNat - 48 else if c.toNat < 97 then c.toNat - 55 else c.toNat - 87

def digitsValue (base : Nat) (digits : List Char) : Nat :=
  digits.foldl (fun value c => base * value + hexDigitValue c) 0

/-- The character of a code point; surrogates and numbers beyond the last one have none. -/
def scalar? (n : Nat) : Option Char :=
  if n < 0xd800 ∨ (0xdfff < n ∧ n ≤ 0x10ffff) then some (Char.ofNat n) else none

end TextGrammar
