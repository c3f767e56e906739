/-!
# Grammar nodes

A grammar is a tree of combinators over terminals and references. Its notation is one line.
-/
namespace TextGrammar

inductive Node where
  /-- A regular expression matched at the cursor. -/
  | terminal (pattern : String)
  /-- An object type, matched into a fresh object of it. -/
  | nested (type : String)
  /-- A named rule, matched into a fresh record. -/
  | rule (name : String)
  /-- All parts in order, for their bindings only. -/
  | sequence (parts : List Node)
  /-- All parts in order, their values joined into one sequence. -/
  | collect (parts : List Node)
  /-- The first part that matches. -/
  | alternation (parts : List Node)
  /-- Binds the value of the part on the object being built. -/
  | attribute (name : String) (part : Node)
  /-- Matches the part and contributes nothing. -/
  | ignore (part : Node)
  | optional (part : Node)
  | repetition (part : Node) (allowZero : Bool)
deriving Repr, Inhabited

namespace Node

def commaSeparator : String := "\\s*,\\s*"

def separatedList (item separator : Node) : Node :=
  .collect [item, .repetition (.collect [.ignore separator, item]) true]

def commaSeparatedList (item : Node) : Node := separatedList item (.terminal commaSeparator)

def untilPath : List Char → List Char
  | ':' :: ':' :: _ => []
  | c :: rest => c :: untilPath rest
  | [] => []

/-- The name of a type without its parameters and the path to it. -/
def typeLabel (type : String) : String :=
  String.ofList (untilPath (type.toList.takeWhile (· != '<')).reverse).reverse

mutual
def render : Node → String
  | .terminal pattern => "/" ++ pattern ++ "/"
  | .nested type => typeLabel type
  | .rule name => name
  | .sequence parts => "(" ++ renderParts " " parts ++ ")"
  | .collect parts => "[" ++ renderParts " " parts ++ "]"
  | .alternation parts => "(" ++ renderParts " | " parts ++ ")"
  | .attribute name part => name ++ "=" ++ part.render
  | .ignore part => "~" ++ part.render
  | .optional part => part.render ++ "?"
  | .repetition part allowZero => part.render ++ if allowZero then "*" else "+"

def renderParts (separator : String) : List Node → String
  | [] => ""
  | [part] => part.render
  | part :: parts => part.render ++ separator ++ renderParts separator parts
end

end Node

end TextGrammar
