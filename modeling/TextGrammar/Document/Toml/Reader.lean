import TextGrammar.Document.Toml.Scalar
import TextGrammar.Document.Toml.Table
/-!
# Reading TOML

A text is read statement by statement: headers choose a table, and keys with values fill it.
Inline tables may span lines and end in a comma.
-/
namespace TextGrammar.Toml

open Reader

def maxNesting : Nat := 80

private def isBlank (c : Char) : Bool := c == ' ' || c == '\t'

private def skipBlank : Reader Unit := skipWhile isBlank

/-- Tabs are the only controls that texts and comments may hold. -/
private def isPlain (c : Char) : Bool := c == '\t' || (32 ≤ c.toNat && c.toNat != 127)

private def acceptNewline : Reader Bool := do
  return (← acceptAll "\n") || (← acceptAll "\r\n")

private def skipComment : Reader Unit := do
  if ← accept '#' then skipWhile isPlain

private def endOfLine : Reader Unit := do
  skipBlank
  skipComment
  if (← peek).isSome then guard (← acceptNewline)

private def skipLines : (fuel : Nat) → Reader Unit
  | 0 => return ()
  | fuel + 1 => do
    skipBlank
    skipComment
    if ← acceptNewline then skipLines fuel

private def skipGap : Reader Unit := do skipLines (← remaining)

private def numbered (width : Nat) : Reader Char := do
  let digits := (← get).take width
  guard (digits.length == width && digits.all isHexDigit)
  modify (·.drop width)
  TextGrammar.scalar? (digitsValue 16 digits)

private def escaped : Reader Char := do
  match ← next with
  | 'b' => return '\x08'
  | 't' => return '\t'
  | 'n' => return '\n'
  | 'f' => return '\x0c'
  | 'r' => return '\r'
  | 'e' => return '\x1b'
  | '"' => return '"'
  | '\\' => return '\\'
  | 'x' => numbered 2
  | 'u' => numbered 4
  | 'U' => numbered 8
  | _ => failure

private def basicBody : (fuel : Nat) → Reader (List Char)
  | 0 => failure
  | fuel + 1 => do
    let c ← next
    if c == '"' then return []
    else if c == '\\' then
      let c ← escaped
      return c :: (← basicBody fuel)
    else
      guard (isPlain c)
      return c :: (← basicBody fuel)

private def basicString : Reader String := do
  return String.ofList (← basicBody (← remaining))

private def literalString : Reader String := do
  let chars ← takeWhile fun c => c != '\'' && isPlain c
  expect '\''
  return String.ofList chars

/-- Skips the rest of a line that ends in a backslash, and all blanks and line ends after it. -/
private def skipEscapedNewline : Reader Bool := do
  let rest ← get
  skipBlank
  if ← acceptNewline then
    skipWhile fun c => isBlank c || c == '\n' || c == '\r'
    return true
  else
    set rest
    return false

/-- Reads up to three quotes of its kind; up to two more of them belong to the text. -/
private def longBody (quote : Char) (escapes : Bool) : (fuel : Nat) → Reader (List Char)
  | 0 => failure
  | fuel + 1 => do
    let quotes := (← get).takeWhile (· == quote)
    if 3 ≤ quotes.length then
      let count := min quotes.length 5
      modify (·.drop count)
      return quotes.take (count - 3)
    else if ← acceptAll "\r\n" then return '\r' :: '\n' :: (← longBody quote escapes fuel)
    else
      let c ← next
      if c == '\\' && escapes then
        if ← skipEscapedNewline then longBody quote escapes fuel
        else
          let c ← escaped
          return c :: (← longBody quote escapes fuel)
      else
        guard (isPlain c || c == '\n')
        return c :: (← longBody quote escapes fuel)

/-- A text over several lines; a line end right after the quotes does not count. -/
private def longString (quote : Char) (escapes : Bool) : Reader String := do
  let _ ← acceptNewline
  return String.ofList (← longBody quote escapes (← remaining))

private def isBareKeyChar (c : Char) : Bool := c.isAlphanum || c == '_' || c == '-'

private def simpleKey : Reader String := do
  match ← peek with
  | some '"' =>
    let _ ← next
    basicString
  | some '\'' =>
    let _ ← next
    literalString
  | _ =>
    let chars ← takeWhile isBareKeyChar
    guard !chars.isEmpty
    return String.ofList chars

private def keyParts : (fuel : Nat) → Reader (List String)
  | 0 => failure
  | fuel + 1 => do
    let part ← simpleKey
    skipBlank
    if ← accept '.' then
      skipBlank
      return part :: (← keyParts fuel)
    else return [part]

private def key : Reader (List String) := do keyParts (← remaining)

private def isScalarChar (c : Char) : Bool :=
  c.isAlphanum || c == '_' || c == '-' || c == '+' || c == '.' || c == ':'

/-- A scalar without quotes; one blank may divide a date from a time. -/
private def bareScalar : Reader Document := do
  let first ← takeWhile isScalarChar
  let rest ← get
  match rest with
  | ' ' :: c :: _ =>
    if first.length == 10 && first.all (fun c => c.isDigit || c == '-') && c.isDigit then
      let _ ← next
      let second ← takeWhile isScalarChar
      Toml.scalar? (first ++ ' ' :: second)
    else Toml.scalar? first
  | _ => Toml.scalar? first

mutual
private def value : (fuel : Nat) → (depth : Nat) → Reader Document
  | 0, _ => failure
  | fuel + 1, depth => do
    if ← acceptAll "\"\"\"" then return .string (← longString '"' true)
    else if ← acceptAll "'''" then return .string (← longString '\'' false)
    else if ← accept '"' then return .string (← basicString)
    else if ← accept '\'' then return .string (← literalString)
    else if ← accept '[' then
      guard (depth < maxNesting)
      return .array (← items fuel (depth + 1))
    else if ← accept '{' then
      guard (depth < maxNesting)
      return .object (tableMembers (← members fuel (depth + 1) []))
    else bareScalar

private def items : (fuel : Nat) → (depth : Nat) → Reader (List Document)
  | 0, _ => failure
  | fuel + 1, depth => do
    skipGap
    if ← accept ']' then return []
    else
      let item ← value fuel depth
      skipGap
      if ← accept ',' then return item :: (← items fuel depth)
      else
        expect ']'
        return [item]

private def members : (fuel : Nat) → (depth : Nat) → Table → Reader Table
  | 0, _, _ => failure
  | fuel + 1, depth, table => do
    skipGap
    if ← accept '}' then return table
    else
      let name ← key
      expect '='
      skipBlank
      let member ← value fuel depth
      let table ← table.insert member name
      skipGap
      if ← accept ',' then members fuel depth table
      else
        expect '}'
        return table
end

/-- Reads statements to the end of the text. `path` leads to the table that keys belong to. -/
private def statements : (fuel : Nat) → (path : List String) → Table → Reader Table
  | 0, _, _ => failure
  | fuel + 1, path, root => do
    skipBlank
    match ← get with
    | [] => return root
    | '#' :: _ | '\n' :: _ | '\r' :: _ =>
      endOfLine
      statements fuel path root
    | '[' :: '[' :: _ =>
      guard (← acceptAll "[[")
      skipBlank
      let path ← key
      guard (← acceptAll "]]")
      endOfLine
      let name ← path.getLast?
      let root ← root.update (Table.openItem name) path.dropLast
      statements fuel path root
    | '[' :: _ =>
      expect '['
      skipBlank
      let path ← key
      expect ']'
      endOfLine
      let name ← path.getLast?
      let root ← root.update (Table.openTable name) path.dropLast
      statements fuel path root
    | _ =>
      let name ← key
      expect '='
      skipBlank
      let document ← value (2 * (← remaining) + 2) 0
      endOfLine
      let root ← root.update (Table.insert document name) path
      statements fuel path root

/-- The document that a whole text stands for. A byte order mark at its start is skipped. -/
def read (text : List Char) : Option Document :=
  let text := match text with
    | '\ufeff' :: text => text
    | text => text
  (readAll (statements (text.length + 1) [] []) text).map fun root => .object (tableMembers root)

end TextGrammar.Toml
