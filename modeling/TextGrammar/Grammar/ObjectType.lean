import TextGrammar.Grammar.Node
import TextGrammar.Value
/-!
# Object types

A type joins a grammar with the objects on which the grammar binds attributes. Types refer to each
other by name through a catalogue, so a type's grammar may mention the type itself.
-/
namespace TextGrammar

/-- How objects take attributes. A record takes every one; other objects may answer as they like. -/
class Targets where
  /-- The answer to a binding, and the object after it. -/
  set : Object → String → Value → Except BindingError Unit × Object
  set_record : ∀ (kind name : String) (attributes : NameMap Value) (value : Value),
    set ⟨kind, .record, attributes⟩ name value =
      (.ok (), ⟨kind, .record, attributes.insert name value⟩)

instance Schema.targets : Targets where
  set object name value :=
    match object.bind name value with
    | .ok bound => (.ok (), bound)
    | .error reason => (.error reason, object)
  set_record _ _ _ _ := rfl

structure ObjectType where
  /-- A fresh object, given the name by which the type is known. -/
  instantiate : String → Object
  grammar : Node

abbrev Catalogue := String → ObjectType

namespace ObjectType

def ofSchema (schema : Schema) (grammar : Node) : ObjectType where
  instantiate name := ⟨Node.typeLabel name, schema, []⟩
  grammar := grammar

def wordSchema : Schema := .fields "Word" [⟨"content", .text, some (.string "")⟩]

def word : ObjectType := .ofSchema wordSchema (.attribute "content" (.terminal "\\w+"))

def sentenceSchema : Schema :=
  .fields "Sentence" [⟨"content", .sequenceOf "Word", some (.array [])⟩]

def sentence : ObjectType :=
  .ofSchema sentenceSchema <| .attribute "content"
    (.repetition (.alternation [.ignore (.terminal " +"), .nested "Word"]) false)

def nestSchema : Schema :=
  .fields "Nest" [⟨"inner", .instanceOf "Nest", some .null⟩, ⟨"leaf", .text, some .null⟩]

def nest : ObjectType :=
  .ofSchema nestSchema <| .alternation
    [.sequence [.ignore (.terminal "\\("), .attribute "inner" (.nested "Nest"),
        .ignore (.terminal "\\)")],
      .attribute "leaf" (.terminal "\\w+")]

def pairSchema : Schema :=
  .fields "Pair" [⟨"key", .text, some (.string "")⟩, ⟨"value", .text, some (.string "")⟩]

def pair : ObjectType :=
  .ofSchema pairSchema <| .sequence
    [.attribute "key" (.terminal "\\w+"), .ignore (.terminal "\\s*=\\s*"),
      .attribute "value" (.terminal "[^;]*")]

def ruleUser : ObjectType :=
  .ofSchema (.free "RuleUser") <| .sequence
    [.ignore (.terminal "@"), .attribute "item" (.rule "item")]

/-- A type that starts with itself and so never matches. -/
def loop : ObjectType :=
  .ofSchema (.free "Loop") (.collect [.nested "Loop", .terminal "x"])

def broken : ObjectType := .ofSchema (.free "Broken") (.attribute "bad" (.terminal "("))

def wrapper (inner : String) : ObjectType :=
  .ofSchema (.fields ("Wrapper<" ++ inner ++ ">") [⟨"inner", .object, none⟩]) <| .sequence
    [.ignore (.terminal "<"), .attribute "inner" (.nested inner), .ignore (.terminal ">")]

/-- The types known by name. Any other name stands for a type that matches the empty text. -/
def standard : Catalogue
  | "Word" => word
  | "Sentence" => sentence
  | "Nest" => nest
  | "Pair" => pair
  | "RuleUser" => ruleUser
  | "Loop" => loop
  | "Broken" => broken
  | "Wrapper<Word>" => wrapper "Word"
  | "Wrapper<Wrapper<Word>>" => wrapper "Wrapper<Word>"
  | name => .ofSchema (.free name) (.sequence [])

end ObjectType

end TextGrammar
