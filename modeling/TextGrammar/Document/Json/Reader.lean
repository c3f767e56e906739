import TextGrammar.Document.Basic
import TextGrammar.Text.Reader
/-!
# Reading JSON

Strict JSON, read into a document. What is well formed but cannot be held, such as half a
surrogate pair or nesting beyond the limit, is read as unreadable and only matters where it is used.
-/
namespace TextGrammar.Json

open Reader

def maxNesting : Nat := 127

def isBlank (c : Char) : Bool := c == ' ' || c == '\n' || c == '\t' || c == '\r'

def skipBlank : Reader Unit := skipWhile isBlank

def hexUnit : Reader Nat := do
  let digits := [← next, ← next, ← next, ← next]
  guard (digits.all isHexDigit)
  return digitsValue 16 digits

def lowUnit : Reader (Option Nat) := do
  let rest ← get
  match rest with
  | '\\' :: 'u' :: a :: b :: c :: d :: after =>
    let digits := [a, b, c, d]
    let unit := digitsValue 16 digits
    if digits.all isHexDigit && 0xdc00 ≤ unit && unit ≤ 0xdfff then
      set after
      return some unit
    else return none
  | _ => return none

/-- The character of an escape; half a surrogate pair has none. -/
def escaped : Reader (Option Char) := do
  match ← next with
  | '"' => return some '"'
  | '\\' => return some '\\'
  | '/' => return some '/'
  | 'b' => return some '\x08'
  | 'f' => return some '\x0c'
  | 'n' => return some '\n'
  | 'r' => return some '\r'
  | 't' => return some '\t'
  | 'u' =>
    let unit ← hexUnit
    if 0xd800 ≤ unit && unit ≤ 0xdbff then
      match ← lowUnit with
      | some low => return scalar? (0x10000 + (unit - 0xd800) * 0x400 + (low - 0xdc00))
      | none => return none
    else return scalar? unit
  | _ => failure

/-- Reads up to the closing quote. `chars` holds the characters so far, last one first, unless one
of them is not a character. -/
def stringBody : (fuel : Nat) → (chars : Option (List Char)) → Reader (Option String)
  | 0, _ => failure
  | fuel + 1, chars => do
    let c ← next
    if c == '"' then return chars.map fun chars => String.ofList chars.reverse
    else if c == '\\' then
      let char? ← escaped
      stringBody fuel (chars.bind fun chars => char?.map fun c => c :: chars)
    else
      guard (32 ≤ c.toNat)
      stringBody fuel (chars.map fun chars => c :: chars)

def string : Reader (Option String) := do
  expect '"'
  stringBody (← remaining) (some [])

def fraction : Reader (List Char) := do
  if ← accept '.' then
    let digits ← takeWhile Char.isDigit
    guard !digits.isEmpty
    return '.' :: digits
  else return []

def exponentSign : Reader (List Char) := do
  match ← peek with
  | some '+' | some '-' => return [← next]
  | _ => return []

def exponent : Reader (List Char) := do
  match ← peek with
  | some 'e' | some 'E' =>
    let mark ← next
    let sign ← exponentSign
    let digits ← takeWhile Char.isDigit
    guard !digits.isEmpty
    return mark :: sign ++ digits
  | _ => return []

/-- Whole numbers that fit 64 bits are integers, but not a negative zero. -/
def numeral (negative : Bool) (whole fraction exponent : List Char) : Document :=
  let sign := if negative then ['-'] else []
  let value : Int :=
    if negative then -(digitsValue 10 whole : Int) else (digitsValue 10 whole : Int)
  if fraction.isEmpty && exponent.isEmpty && !(negative && value == 0)
      && Int64.minValue.toInt ≤ value && value < (UInt64.size : Int) then
    .integer value
  else .decimal (String.ofList (sign ++ whole ++ fraction ++ exponent))

def number : Reader Document := do
  let negative ← accept '-'
  let whole ← takeWhile Char.isDigit
  guard (whole == ['0'] || whole.head?.any (· != '0'))
  return numeral negative whole (← fraction) (← exponent)

def literal (word : String) (document : Document) : Reader Document := do
  guard (← acceptAll word)
  return document

def nested (depth : Nat) (document : Document) : Document :=
  if depth ≤ maxNesting then document else .unreadable

def bracketed {α : Type} (close : Char) (inner : Reader (List α)) : Reader (List α) := do
  let _ ← next
  skipBlank
  if ← accept close then return [] else inner

def continued {α : Type} (close : Char) (first : α) (more : Reader (List α)) :
    Reader (List α) := do
  skipBlank
  if ← accept ',' then return first :: (← more)
  else
    expect close
    return [first]

mutual
def value : (fuel : Nat) → (depth : Nat) → Reader Document
  | 0, _ => failure
  | fuel + 1, depth => do
    skipBlank
    match ← peek with
    | some 'n' => literal "null" .null
    | some 't' => literal "true" (.bool true)
    | some 'f' => literal "false" (.bool false)
    | some '"' =>
      match ← string with
      | some content => return .string content
      | none => return .unreadable
    | some '[' => return nested (depth + 1) (.array (← bracketed ']' (items fuel (depth + 1))))
    | some '{' => return nested (depth + 1) (.object (← bracketed '}' (members fuel (depth + 1))))
    | some _ => number
    | none => failure

def items : (fuel : Nat) → (depth : Nat) → Reader (List Document)
  | 0, _ => failure
  | fuel + 1, depth => do
    let item ← value fuel depth
    continued ']' item (items fuel depth)

def members : (fuel : Nat) → (depth : Nat) → Reader (List (String × Document))
  | 0, _ => failure
  | fuel + 1, depth => do
    skipBlank
    let name ← ← string
    skipBlank
    expect ':'
    let member ← value fuel depth
    continued '}' (name, member) (members fuel depth)
end

def read (text : List Char) : Option Document :=
  readAll (do
    let document ← value (2 * text.length + 2) 0
    skipBlank
    return document) text

end TextGrammar.Json
