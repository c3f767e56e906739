import TextGrammar.Document.Basic
/-!
# Writing JSON

The compact form on one line, and the form with two spaces of indentation for each level.
-/
namespace TextGrammar.Json

def hex2 (n : Nat) : List Char := [Nat.digitChar (n / 16), Nat.digitChar (n % 16)]

def encodeChar (c : Char) : List Char :=
  if c = '"' then ['\\', '"']
  else if c = '\\' then ['\\', '\\']
  else if c = '\n' then ['\\', 'n']
  else if c = '\r' then ['\\', 'r']
  else if c = '\t' then ['\\', 't']
  else if c = '\x08' then ['\\', 'b']
  else if c = '\x0c' then ['\\', 'f']
  else if c.toNat < 32 then ['\\', 'u', '0', '0'] ++ hex2 c.toNat
  else [c]

def encodeString (text : String) : String :=
  String.ofList ('"' :: text.toList.flatMap encodeChar ++ ['"'])

def scalar : Document → String
  | .null => "null"
  | .bool value => if value then "true" else "false"
  | .integer value => toString value
  | .decimal digits => digits
  | .string value => encodeString value
  | .moment written => encodeString written
  | .array _ | .object _ | .unreadable => ""

mutual
def compact : Document → String
  | .array items => "[" ++ compactItems items ++ "]"
  | .object members => "\x7b" ++ compactMembers members ++ "\x7d"
  | document => scalar document

def compactItems : List Document → String
  | [] => ""
  | [item] => compact item
  | item :: items => compact item ++ "," ++ compactItems items

def compactMembers : List (String × Document) → String
  | [] => ""
  | [(name, value)] => encodeString name ++ ":" ++ compact value
  | (name, value) :: members =>
    encodeString name ++ ":" ++ compact value ++ "," ++ compactMembers members
end

private def margin (level : Nat) : String := "".pushn ' ' (2 * level)

mutual
/-- The inner lines are indented by `level + 1` steps; empty arrays and objects have none. -/
def pretty (level : Nat) : Document → String
  | .array [] => "[]"
  | .array items => "[\n" ++ prettyItems (level + 1) items ++ "\n" ++ margin level ++ "]"
  | .object [] => "\x7b\x7d"
  | .object members =>
    "\x7b\n" ++ prettyMembers (level + 1) members ++ "\n" ++ margin level ++ "\x7d"
  | document => scalar document

def prettyItems (level : Nat) : List Document → String
  | [] => ""
  | [item] => margin level ++ pretty level item
  | item :: items => margin level ++ pretty level item ++ ",\n" ++ prettyItems level items

def prettyMembers (level : Nat) : List (String × Document) → String
  | [] => ""
  | [(name, value)] => margin level ++ encodeString name ++ ": " ++ pretty level value
  | (name, value) :: members =>
    margin level ++ encodeString name ++ ": " ++ pretty level value ++ ",\n"
      ++ prettyMembers level members
end

end TextGrammar.Json
