import TextGrammar.Document.Basic
import TextGrammar.Grammar.Node
import TextGrammar.NameMap
/-!
# Declared grammars

The form that grammar nodes have in files. It is richer than the grammar itself: repetitions and
lists have short forms. Reading a declaration accepts several spellings, writing uses one.
-/
namespace TextGrammar

inductive NodeDecl where
  | terminal (pattern : String)
  | rule (name : String)
  | sequence (parts : List NodeDecl)
  | collect (parts : List NodeDecl)
  | alternation (parts : List NodeDecl)
  | attribute (name : String) (part : NodeDecl)
  | ignore (part : NodeDecl)
  | optional (part : NodeDecl)
  | repetition (part : NodeDecl) (allowZero : Bool)
  | atLeastOnce (part : NodeDecl)
  | anyNumber (part : NodeDecl)
  /-- Items with separators between them; without one they are commas. -/
  | list (item : NodeDecl) (separator : Option NodeDecl)
deriving BEq, Repr, Inhabited

/-- In what the formats differ when a declaration is read. -/
structure FormatRules where
  /-- Names that mean nothing are skipped in the content of a node. -/
  skipsUnknownNames : Bool
  /-- Items after the last field are skipped in content written as an array. -/
  skipsExtraItems : Bool
deriving DecidableEq, Repr

namespace FormatRules

def json : FormatRules := ⟨true, false⟩

def toml : FormatRules := ⟨false, true⟩

end FormatRules

namespace Document

def member? (members : List (String × Document)) (name : String) : Option (Option Document) :=
  match members.filter fun member => member.1 == name with
  | [] => some none
  | [member] => some (some member.2)
  | _ => none

/-- The values of named fields. An object gives them by name, each at most once; an array gives
them in order, where the last ones may be missing. -/
def fields (rules : FormatRules) (names : List String) : Document → Option (List (Option Document))
  | .object members =>
    if members.any (fun member => !names.contains member.1) && !rules.skipsUnknownNames then none
    else names.mapM (member? members)
  | .array items =>
    if items.length > names.length && !rules.skipsExtraItems then none
    else some ((List.range names.length).map fun i => items[i]?)
  | _ => none

def string? : Document → Option String
  | .string value => some value
  | _ => none

def bool? : Document → Option Bool
  | .bool value => some value
  | _ => none

def array? : Document → Option (List Document)
  | .array items => some items
  | _ => none

def count? : Document → Option Nat
  | .integer value => if 0 ≤ value ∧ value < UInt64.size then some value.toNat else none
  | _ => none

end Document

namespace NodeDecl

mutual
def toNode : NodeDecl → Node
  | .terminal pattern => .terminal pattern
  | .rule name => .rule name
  | .sequence parts => .sequence (toNodes parts)
  | .collect parts => .collect (toNodes parts)
  | .alternation parts => .alternation (toNodes parts)
  | .attribute name part => .attribute name part.toNode
  | .ignore part => .ignore part.toNode
  | .optional part => .optional part.toNode
  | .repetition part allowZero => .repetition part.toNode allowZero
  | .atLeastOnce part => .repetition part.toNode false
  | .anyNumber part => .repetition part.toNode true
  | .list item none => .commaSeparatedList item.toNode
  | .list item (some separator) => .separatedList item.toNode separator.toNode

def toNodes : List NodeDecl → List Node
  | [] => []
  | part :: parts => part.toNode :: toNodes parts
end

mutual
/-- A declaration is an object with one member, named for its kind; defaults are written out. -/
def toDocument : NodeDecl → Document
  | .terminal pattern => .object [("terminal", .string pattern)]
  | .rule name => .object [("rule", .string name)]
  | .sequence parts => .object [("sequence", .array (toDocuments parts))]
  | .collect parts => .object [("collect", .array (toDocuments parts))]
  | .alternation parts => .object [("alternation", .array (toDocuments parts))]
  | .attribute name part =>
    .object [("attribute", .object [("name", .string name), ("part", part.toDocument)])]
  | .ignore part => .object [("ignore", part.toDocument)]
  | .optional part => .object [("optional", part.toDocument)]
  | .repetition part allowZero =>
    .object [("repeat", .object [("part", part.toDocument), ("allow_zero", .bool allowZero)])]
  | .atLeastOnce part => .object [("some", part.toDocument)]
  | .anyNumber part => .object [("many", part.toDocument)]
  | .list item none =>
    .object [("list", .object [("item", item.toDocument), ("separator", .null)])]
  | .list item (some separator) =>
    .object [("list", .object [("item", item.toDocument), ("separator", separator.toDocument)])]

def toDocuments : List NodeDecl → List Document
  | [] => []
  | part :: parts => part.toDocument :: toDocuments parts
end

def readNode (rules : FormatRules) (readPart : Document → Option NodeDecl) :
    Document → Option NodeDecl
  | .object [(kind, content)] =>
    let parts := content.array?.bind fun items => items.mapM readPart
    match kind with
    | "terminal" => content.string?.map .terminal
    | "rule" => content.string?.map .rule
    | "sequence" => parts.map .sequence
    | "collect" => parts.map .collect
    | "alternation" => parts.map .alternation
    | "ignore" => (readPart content).map .ignore
    | "optional" => (readPart content).map .optional
    | "some" => (readPart content).map .atLeastOnce
    | "many" => (readPart content).map .anyNumber
    | "attribute" =>
      match content.fields rules ["name", "part"] with
      | some [some name, some part] => do return .attribute (← name.string?) (← readPart part)
      | _ => none
    | "repeat" =>
      match content.fields rules ["part", "allow_zero"] with
      | some [some part, none] => do return .repetition (← readPart part) false
      | some [some part, some allowZero] => do
        return .repetition (← readPart part) (← allowZero.bool?)
      | _ => none
    | "list" =>
      match content.fields rules ["item", "separator"] with
      | some [some item, none] | some [some item, some .null] => do
        return .list (← readPart item) none
      | some [some item, some separator] => do
        return .list (← readPart item) (some (← readPart separator))
      | _ => none
    | _ => none
  | _ => none

def read (rules : FormatRules) : (depth : Nat) → Document → Option NodeDecl
  | 0, _ => none
  | depth + 1, document => readNode rules (read rules depth) document

def ofDocument? (rules : FormatRules) (document : Document) : Option NodeDecl :=
  read rules document.depth document

end NodeDecl

end TextGrammar
