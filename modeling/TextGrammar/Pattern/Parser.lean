import TextGrammar.Pattern.Property
import TextGrammar.Regex.Basic
import TextGrammar.Text.Reader
/-!
# Reading patterns

A pattern is read from left to right into a regular expression, under flags that groups restore
when they close. A pattern that is not well formed, or that could match part of a character, has
no expression.
-/
namespace TextGrammar.Pattern

inductive Flag where
  | caseless | multiLine | dotAll | swapGreed | unicode | crlf | verbose
deriving DecidableEq, Repr

def Flag.ofChar? : Char → Option Flag
  | 'i' => some .caseless
  | 'm' => some .multiLine
  | 's' => some .dotAll
  | 'U' => some .swapGreed
  | 'u' => some .unicode
  | 'R' => some .crlf
  | 'x' => some .verbose
  | _ => none

structure Flags where
  active : List Flag := [.unicode]

namespace Flags

def has (flags : Flags) (flag : Flag) : Bool := flags.active.contains flag

def change (flags : Flags) (on off : List Flag) : Flags :=
  ⟨(on ++ flags.active).filter fun flag => !off.contains flag⟩

end Flags

structure State where
  rest : List Char
  flags : Flags := {}
  /-- Capturing groups opened so far. -/
  groups : Nat := 0
  names : List (List Char) := []

abbrev Parser := StateT State Option

/-- An expression with the nesting depth of the text it was read from. -/
structure Piece where
  regex : Regex
  depth : Nat := 0

def maxNesting : Nat := 250

def peek : Parser (Option Char) := do return (← get).rest.head?

def bump : Parser Unit := modify fun s => { s with rest := s.rest.tail }

def hasFlag (flag : Flag) : Parser Bool := do return (← get).flags.has flag

def dropBlank (inComment : Bool) : List Char → List Char
  | [] => []
  | c :: rest =>
    if inComment then dropBlank (c != '\n') rest
    else if Unicode.isWhiteSpace c.toNat then dropBlank false rest
    else if c == '#' then dropBlank true rest
    else c :: rest

def skipBlank : Parser Unit := do
  if ← hasFlag .verbose then modify fun s => { s with rest := dropBlank false s.rest }

def bumpBlank : Parser Unit := do
  bump
  skipBlank

def peekSecond : Parser (Option Char) := do
  let s ← get
  let rest := s.rest.tail
  return (if s.flags.has .verbose then dropBlank false rest else rest).head?

def accept (text : String) : Parser Bool := do
  let s ← get
  if text.toList.isPrefixOf s.rest then
    set { s with rest := s.rest.drop text.length }
    return true
  else return false

def expect (c : Char) : Parser Unit := do
  guard ((← peek) == some c)
  bump

def takeChars (fits : Char → Bool) : (fuel : Nat) → Parser (List Char)
  | 0 => return []
  | fuel + 1 => do
    match ← peek with
    | some c =>
      if fits c then
        bumpBlank
        return c :: (← takeChars fits fuel)
      else return []
    | none => return []

def remaining : Parser Nat := do return (← get).rest.length

def decimal? (digits : List Char) : Option Nat :=
  if digits.isEmpty then none
  else
    let value := digitsValue 10 digits
    if value < UInt32.size then some value else none

inductive Atom where
  /-- `byte` marks a two-digit escape, which names a byte where Unicode is off. -/
  | literal (c : Char) (byte : Bool)
  | set (set : CharSet)
  | look (kind : Look)

def isMeta (c : Char) : Bool := "\\.+*?()|[]\x7b\x7d^$#&-~".toList.contains c

def hexEscape (width : Nat) : Parser Atom := do
  bumpBlank
  if (← peek) == some '{' then
    bumpBlank
    let digits ← takeChars isHexDigit (← remaining)
    guard ((← peek) == some '}')
    bumpBlank
    guard !digits.isEmpty
    return .literal (← scalar? (digitsValue 16 digits)) false
  else
    let digits ← takeChars isHexDigit width
    guard (digits.length == width)
    return .literal (← scalar? (digitsValue 16 digits)) (width == 2)

def propertyEscape (negated : Bool) : Parser Atom := do
  bumpBlank
  let c ← ← peek
  let (set, flipped) ←
    if c == '{' then do
      bumpBlank
      let query ← takeChars (· != '}') (← remaining)
      expect '}'
      querySet? query
    else do
      guard (c != '\\')
      bumpBlank
      (propertySet? [c]).map (·, false)
  guard (← hasFlag .unicode)
  let set := if ← hasFlag .caseless then .folded set else set
  return .set (if negated != flipped then .compl set else set)

/-- The ASCII characters among `set`, or their complement, where Unicode is on. -/
def perlEscape (unicodeSet asciiSet : CharSet) (negated : Bool) : Parser Atom := do
  bump
  if ← hasFlag .unicode then return .set (if negated then .compl unicodeSet else unicodeSet)
  else
    guard !negated
    return .set (.bytes asciiSet)

def digitSet : CharSet := .range 48 57

def spaceSet : CharSet := .union (.range 9 13) (.range 32 32)

def wordSet : CharSet :=
  .ofList [.range 48 57, .range 65 90, .range 95 95, .range 97 122]

def wordLook (edge : WordEdge) : Parser Atom := do
  return .look (.word edge (← hasFlag .unicode))

/-- The assertions written `\b` and a name in braces. Braces that cannot hold a name are left. -/
def namedEdge : Parser WordEdge := do
  let s ← get
  if (← peek) != some '{' then return .boundary
  bumpBlank
  let isNameChar (c : Char) : Bool := c.isAlpha || c == '-'
  let c ← ← peek
  if !isNameChar c then
    set s
    return .boundary
  let name ← takeChars isNameChar (← remaining)
  expect '}'
  match String.ofList name with
  | "start" => return .start
  | "end" => return .stop
  | "start-half" => return .startHalf
  | "end-half" => return .stopHalf
  | _ => failure

def escape : Parser Atom := do
  bump
  let c ← ← peek
  match c with
  | 'x' => hexEscape 2
  | 'u' => hexEscape 4
  | 'U' => hexEscape 8
  | 'p' => propertyEscape false
  | 'P' => propertyEscape true
  | 'd' => perlEscape (.named (.anyOf [.nd])) digitSet false
  | 'D' => perlEscape (.named (.anyOf [.nd])) digitSet true
  | 's' => perlEscape (.named .whiteSpace) spaceSet false
  | 'S' => perlEscape (.named .whiteSpace) spaceSet true
  | 'w' => perlEscape (.named .word) wordSet false
  | 'W' => perlEscape (.named .word) wordSet true
  | _ =>
    bump
    match c with
    | 'a' => return .literal '\x07' false
    | 'f' => return .literal '\x0c' false
    | 't' => return .literal '\t' false
    | 'n' => return .literal '\n' false
    | 'r' => return .literal '\r' false
    | 'v' => return .literal '\x0b' false
    | 'A' => return .look .textStart
    | 'z' => return .look .textEnd
    | 'b' => wordLook (← namedEdge)
    | 'B' => wordLook .interior
    | '<' => wordLook .start
    | '>' => wordLook .stop
    | _ =>
      guard (isMeta c || (c.toNat < 128 && !c.isAlphanum))
      return .literal c false

structure SetPiece where
  set : CharSet
  depth : Nat := 0

inductive SetOperator where
  | inter | diff | symmDiff

def fold (set : CharSet) : Parser CharSet := do
  if ← hasFlag .caseless then
    return if ← hasFlag .unicode then .folded set else .asciiFolded set
  else return set

def unite (items : List SetPiece) : SetPiece :=
  match items with
  | [item] => item
  | items => ⟨.ofList (items.map (·.set)),
      if items.isEmpty then 0 else (items.map (·.depth)).foldl Nat.max 0 + 1⟩

def combine (left : Option (SetOperator × SetPiece)) (right : SetPiece) :
    Parser SetPiece := do
  match left with
  | none => return right
  | some (operator, left) =>
    let depth := Nat.max left.depth right.depth + 1
    let leftSet ← fold left.set
    let rightSet ← fold right.set
    match operator with
    | .inter => return ⟨.inter leftSet rightSet, depth⟩
    | .diff => return ⟨.diff leftSet rightSet, depth⟩
    | .symmDiff => return ⟨.symmDiff leftSet rightSet, depth⟩

/-- Where Unicode is off a complement would hold parts of characters. -/
def complement (negated : Bool) (set : CharSet) : Parser CharSet := do
  let set ← fold set
  if ← hasFlag .unicode then return if negated then .compl set else set
  else
    guard !negated
    return .bytes set

def posixSet? : String → Option CharSet
  | "alnum" => some (.ofList [.range 48 57, .range 65 90, .range 97 122])
  | "alpha" => some (.ofList [.range 65 90, .range 97 122])
  | "ascii" => some (.range 0 127)
  | "blank" => some (.ofList [.range 9 9, .range 32 32])
  | "cntrl" => some (.ofList [.range 0 31, .range 127 127])
  | "digit" => some digitSet
  | "graph" => some (.range 33 126)
  | "lower" => some (.range 97 122)
  | "print" => some (.range 32 126)
  | "punct" => some (.ofList [.range 33 47, .range 58 64, .range 91 96, .range 123 126])
  | "space" => some spaceSet
  | "upper" => some (.range 65 90)
  | "word" => some wordSet
  | "xdigit" => some (.ofList [.range 48 57, .range 65 70, .range 97 102])
  | _ => none

def takeNegation : List Char → Bool × List Char
  | '^' :: rest => (true, rest)
  | rest => (false, rest)

def posixClass : Parser (Option SetPiece) := do
  let s ← get
  match s.rest with
  | '[' :: ':' :: rest =>
    let (negated, rest) := takeNegation rest
    let name := rest.takeWhile (· != ':')
    match rest.drop name.length, posixSet? (String.ofList name) with
    | ':' :: ']' :: rest, some set =>
      modify fun s => { s with rest := rest }
      return some { set := ← complement negated set }
    | _, _ => return none
  | _ => return none

/-- A character between brackets; where Unicode is off it has to be an ASCII one. -/
def memberChar (c : Char) : Parser Char := do
  guard ((← hasFlag .unicode) || c.toNat < 128)
  return c

def classAtom : Parser Atom := do
  match ← peek with
  | none => failure
  | some '\\' => escape
  | some c =>
    bump
    return .literal c false

def classItem : Parser SetPiece := do
  let first ← classAtom
  skipBlank
  let next ← ← peek
  let second ← peekSecond
  if next != '-' || second == some ']' || second == some '-' then
    match first with
    | .literal c _ => return { set := .single (← memberChar c) }
    | .set set => return { set := set }
    | .look _ => failure
  else
    bumpBlank
    match first, ← classAtom with
    | .literal first _, .literal last _ =>
      guard (first.toNat ≤ last.toNat)
      return { set := .range (← memberChar first).toNat (← memberChar last).toNat }
    | _, _ => failure

def takeDashes : (fuel : Nat) → Parser (List SetPiece)
  | 0 => return []
  | fuel + 1 => do
    if (← peek) == some '-' then
      bumpBlank
      return { set := .single '-' } :: (← takeDashes fuel)
    else return []

/-- The start of a class: its bracket, whether it is negated, and members that only count as
characters because they come first. -/
def classOpen : Parser (Bool × List SetPiece) := do
  bumpBlank
  let negated := (← peek) == some '^'
  if negated then bumpBlank
  let dashes ← takeDashes (← remaining)
  if dashes.isEmpty && (← peek) == some ']' then
    bumpBlank
    return (negated, [{ set := .single ']' }])
  else return (negated, dashes)

def setOperator : Parser (Option SetOperator) := do
  if ← accept "&&" then return some .inter
  else if ← accept "--" then return some .diff
  else if ← accept "~~" then return some .symmDiff
  else return none

/-- Reads the members of a class up to its closing bracket. `left` is the operand of a pending
operator; operators group to the left and bind less tightly than standing side by side. -/
def classBody : (fuel : Nat) → (left : Option (SetOperator × SetPiece)) →
    (items : List SetPiece) → Parser SetPiece
  | 0, _, _ => failure
  | fuel + 1, left, items => do
    skipBlank
    match ← peek with
    | none => failure
    | some ']' =>
      bump
      combine left (unite items)
    | some '[' =>
      match ← posixClass with
      | some item => classBody fuel left (items ++ [item])
      | none =>
        let (negated, first) ← classOpen
        let body ← classBody fuel none first
        let item : SetPiece := ⟨← complement negated body.set, body.depth + 1⟩
        classBody fuel left (items ++ [item])
    | some _ =>
      match ← setOperator with
      | some operator =>
        let operand ← combine left (unite items)
        classBody fuel (some (operator, operand)) []
      | none =>
        let item ← classItem
        classBody fuel left (items ++ [item])

def bracketClass : Parser Piece := do
  let fuel ← remaining
  let (negated, first) ← classOpen
  let body ← classBody fuel none first
  return ⟨.chars (← complement negated body.set), body.depth + 1⟩

def literal (c : Char) : Parser Regex := do
  if ← hasFlag .caseless then
    if ← hasFlag .unicode then
      return if (Unicode.caseVariants c.toNat).isEmpty then .char c
        else .chars (.folded (.single c))
    else
      return if (Unicode.asciiCaseVariants c.toNat).isEmpty then .char c
        else .chars (.bytes (.asciiFolded (.single c)))
  else return .char c

/-- Any character but the ends of lines; parts of characters are never matched. -/
def dot : Parser Regex := do
  guard (← hasFlag .unicode)
  if ← hasFlag .dotAll then return .chars .all
  else if ← hasFlag .crlf then return .chars (.compl (.union (.range 10 10) (.range 13 13)))
  else return .chars (.compl (.range 10 10))

def lineLook (plain line crlf : Look) : Parser Regex := do
  if ← hasFlag .multiLine then return .look (if ← hasFlag .crlf then crlf else line)
  else return .look plain

def primitive : Parser Regex := do
  match ← peek with
  | none => failure
  | some '.' =>
    bump
    dot
  | some '^' =>
    bump
    lineLook .textStart .lineStart .lineStartCrlf
  | some '$' =>
    bump
    lineLook .textEnd .lineEnd .lineEndCrlf
  | some '\\' =>
    match ← escape with
    | .literal c byte =>
      guard (!byte || c.toNat < 128 || (← hasFlag .unicode))
      literal c
    | .set set => return .chars set
    | .look kind => return .look kind
  | some c =>
    bump
    literal c

/-- A member of a sequence; switched flags cannot be repeated. -/
inductive Item where
  | flags
  | piece (piece : Piece)

def Item.depth : Item → Nat
  | .flags => 0
  | .piece p => p.depth

def Item.regex : Item → Regex
  | .flags => .empty
  | .piece p => p.regex

def deeper (depths : List Nat) : Nat :=
  if depths.length < 2 then depths.foldl Nat.max 0 else depths.foldl Nat.max 0 + 1

def concatenation (items : List Item) : Piece :=
  ⟨.sequence (items.map Item.regex), deeper (items.map Item.depth)⟩

def alternation (pieces : List Piece) : Piece :=
  ⟨.choice (pieces.map (·.regex)), deeper (pieces.map (·.depth))⟩

def flagChange : (fuel : Nat) → (off : Bool) → (seen : List Flag) →
    (dangling : Bool) → Parser (List Flag × List Flag)
  | 0, _, _, _ => failure
  | fuel + 1, off, seen, dangling => do
    match ← peek with
    | none => failure
    | some ':' | some ')' =>
      guard !dangling
      return ([], [])
    | some '-' =>
      guard !off
      bump
      flagChange fuel true seen true
    | some c =>
      let flag ← Flag.ofChar? c
      guard !(seen.contains flag)
      bump
      let (ons, offs) ← flagChange fuel off (flag :: seen) false
      return if off then (ons, flag :: offs) else (flag :: ons, offs)

def groupName : Parser Unit := do
  let s ← get
  let name := s.rest.takeWhile (· != '>')
  let isFirst (c : Char) : Bool := c == '_' || Unicode.isAlphabetic c.toNat
  let isLater (c : Char) : Bool :=
    isFirst c || c == '.' || c == '[' || c == ']' || Unicode.isNumeric c.toNat
  guard (name.head?.any isFirst && name.tail.all isLater && !s.names.contains name)
  set { s with rest := s.rest.drop name.length, names := name :: s.names }
  expect '>'

inductive Opening where
  /-- Flags for the rest of the enclosing group. -/
  | flags (on off : List Flag)
  | plain (on off : List Flag)
  | capture (index : Nat)

def newCapture : Parser Opening := do
  let s ← get
  set { s with groups := s.groups + 1 }
  return .capture (s.groups + 1)

def acceptNaming : Parser Bool := do
  if ← accept "?P<" then return true
  else accept "?<"

def opening : Parser Opening := do
  bumpBlank
  match (← get).rest with
  | '?' :: '=' :: _ | '?' :: '!' :: _ | '?' :: '<' :: '=' :: _ | '?' :: '<' :: '!' :: _ => failure
  | _ =>
    if ← acceptNaming then
      let capture ← newCapture
      groupName
      return capture
    else if ← accept "?" then
      let (on, off) ← flagChange (← remaining) false [] false
      if (← peek) == some ')' then
        bump
        guard !(on.isEmpty && off.isEmpty)
        return .flags on off
      else
        bump
        return .plain on off
    else newCapture

def bounds : Parser (Nat × Option Nat) := do
  let spaces : Parser Unit :=
    modify fun s => { s with rest := s.rest.dropWhile fun c => Unicode.isWhiteSpace c.toNat }
  let number : Parser Nat := do
    spaces
    let digits ← takeChars Char.isDigit (← remaining)
    spaces
    skipBlank
    decimal? digits
  bumpBlank
  let min ← number
  if (← peek) == some ',' then
    bumpBlank
    if (← peek) == some '}' then return (min, none)
    else
      let max ← number
      guard (min ≤ max)
      return (min, some max)
  else return (min, some min)

/-- The bounds of the repetition that comes next; only after braces may blanks precede the mark
of a reluctant one. -/
def repetitionBounds : Parser (Nat × Option Nat) := do
  match ← peek with
  | some '?' =>
    bump
    return (0, some 1)
  | some '*' =>
    bump
    return (0, none)
  | some '+' =>
    bump
    return (1, none)
  | some '{' =>
    let found ← bounds
    guard ((← peek) == some '}')
    bumpBlank
    return found
  | _ => failure

def repeated (item : Option Item) : Parser Item := do
  match item with
  | none | some .flags => failure
  | some (.piece piece) =>
    let (min, max) ← repetitionBounds
    let reluctant ← accept "?"
    let greedy := reluctant == (← hasFlag .swapGreed)
    return .piece ⟨.repetition min max greedy piece.regex, piece.depth + 1⟩

/-- Reads up to `)` or the end of the pattern. `branches` and `items` hold, in order, the finished
alternatives and the members of the current one. -/
def alternatives : (fuel : Nat) → (branches : List Piece) → (items : List Item) →
    Parser Piece
  | 0, _, _ => failure
  | fuel + 1, branches, items => do
    skipBlank
    match ← peek with
    | none | some ')' => return alternation (branches ++ [concatenation items])
    | some '|' =>
      bump
      alternatives fuel (branches ++ [concatenation items]) []
    | some '?' | some '*' | some '+' | some '{' =>
      let item ← repeated items.getLast?
      alternatives fuel branches (items.dropLast ++ [item])
    | some '[' =>
      let piece ← bracketClass
      alternatives fuel branches (items ++ [.piece piece])
    | some '(' =>
      let flags := (← get).flags
      match ← opening with
      | .flags on off =>
        modify fun s => { s with flags := flags.change on off }
        alternatives fuel branches (items ++ [.flags])
      | .plain on off =>
        modify fun s => { s with flags := flags.change on off }
        let body ← alternatives fuel [] []
        expect ')'
        modify fun s => { s with flags := flags }
        alternatives fuel branches (items ++ [.piece ⟨body.regex, body.depth + 1⟩])
      | .capture index =>
        let body ← alternatives fuel [] []
        expect ')'
        modify fun s => { s with flags := flags }
        alternatives fuel branches (items ++ [.piece ⟨.capture index body.regex, body.depth + 1⟩])
    | some _ =>
      let regex ← primitive
      alternatives fuel branches (items ++ [.piece { regex := regex }])

def parse (pattern : List Char) : Option Regex :=
  match (alternatives (pattern.length + 1) [] []).run { rest := pattern } with
  | some (piece, s) =>
    if s.rest.isEmpty && piece.depth ≤ maxNesting then some piece.regex else none
  | none => none

end TextGrammar.Pattern
