import TextGrammar.Document.Basic
import TextGrammar.NameMap
/-!
# Values and objects

Matching produces texts, sequences and objects. An object has a kind and named attributes; a
record takes any attribute, while the objects of a type take the fields that the type declares.
-/
namespace TextGrammar

inductive FieldShape where
  | text
  | object
  | instanceOf (type : String)
  | sequenceOf (type : String)
deriving DecidableEq, Repr

structure Field where
  name : String
  shape : FieldShape
  /-- What the field shows before it is bound; nothing if it is then left out. -/
  unbound : Option Document
deriving Repr

inductive Schema where
  /-- A record of no type. -/
  | record
  /-- An object of a type that takes every attribute. -/
  | free (type : String)
  | fields (type : String) (fields : List Field)
deriving Repr

def Schema.type? : Schema → Option String
  | .record => none
  | .free type | .fields type _ => some type

inductive Value where
  | text (content : String)
  | sequence (items : List Value)
  | object (kind : String) (schema : Schema) (attributes : List (String × Value))
deriving Repr

structure Object where
  kind : String
  schema : Schema
  attributes : NameMap Value
deriving Repr

inductive BindingError where
  | unknown
  | mismatch (expected found : String)
  | selfReference
deriving DecidableEq, Repr

def BindingError.message : BindingError → String
  | .unknown => "unknown attribute"
  | .mismatch expected found => s!"expected {expected}, found {found}"
  | .selfReference => "the object cannot be bound to itself"

namespace Value

def empty : Value := .sequence []

def shape : Value → String
  | .text _ => "text"
  | .sequence _ => "sequence"
  | .object .. => "object"

def isEmpty : Value → Bool
  | .text content => content.isEmpty
  | .sequence items => items.isEmpty
  | .object .. => false

def text? : Value → Option String
  | .text content => some content
  | _ => none

def sequence? : Value → Option (List Value)
  | .sequence items => some items
  | _ => none

def object? : Value → Option Object
  | .object kind schema attributes => some ⟨kind, schema, attributes⟩
  | _ => none

/-- What a value contributes to a sequence: a sequence its items, an empty text nothing. -/
def flatten : Value → List Value
  | .sequence items => items
  | .text content => if content.isEmpty then [] else [.text content]
  | value => [value]

def isInstance (type : String) (value : Value) : Bool :=
  match value with
  | .object _ schema _ => schema.type? == some type
  | _ => false

end Value

/-- Checks a value against what a field accepts; the first item that does not fit is reported. -/
def FieldShape.check (shape : FieldShape) (value : Value) : Except BindingError Unit :=
  match shape with
  | .text => if value.text?.isSome then .ok () else .error (.mismatch "text" value.shape)
  | .object => if value.object?.isSome then .ok () else .error (.mismatch "object" value.shape)
  | .instanceOf type =>
    if value.isInstance type then .ok () else .error (.mismatch type value.shape)
  | .sequenceOf type =>
    match value with
    | .sequence items =>
      match items.find? fun item => !item.isInstance type with
      | some item => .error (.mismatch type item.shape)
      | none => .ok ()
    | _ => .error (.mismatch "sequence" value.shape)

namespace Object

def record (kind : String) : Object := ⟨kind, .record, []⟩

def toValue (object : Object) : Value := .object object.kind object.schema object.attributes

def check (object : Object) (name : String) (value : Value) : Except BindingError Unit :=
  match object.schema with
  | .record | .free _ => .ok ()
  | .fields _ fields =>
    match fields.find? fun field => field.name == name with
    | none => .error .unknown
    | some field => field.shape.check value

/-- Binds an attribute; a later binding replaces an earlier one. -/
def bind (object : Object) (name : String) (value : Value) : Except BindingError Object :=
  match object.check name value with
  | .ok () => .ok { object with attributes := object.attributes.insert name value }
  | .error reason => .error reason

def take (object : Object) (name : String) : Option Value × Object :=
  (object.attributes.find? name,
    { object with attributes := object.attributes.erase name })

@[simp] theorem bind_record (kind name : String) (attributes : NameMap Value) (value : Value) :
    bind ⟨kind, .record, attributes⟩ name value =
      .ok ⟨kind, .record, attributes.insert name value⟩ := rfl

end Object

/-- The members of an object's document: its kind, which an attribute of the same name hides, the
bound attributes, and what unbound fields show. -/
def objectMembers (kind : String) (schema : Schema) (bound : NameMap Document) :
    NameMap Document :=
  let unbound : NameMap Document :=
    match schema with
    | .fields _ fields =>
      NameMap.ofList (fields.filterMap fun field => field.unbound.map (field.name, ·))
    | _ => []
  bound.foldl (fun members entry => members.insert entry.1 entry.2)
    (unbound.insert "$kind" (.string kind))

mutual
def Value.toDocument : Value → Document
  | .text content => .string content
  | .sequence items => .array (itemDocuments items)
  | .object kind schema attributes =>
    .object (objectMembers kind schema (attributeDocuments attributes))

def itemDocuments : List Value → List Document
  | [] => []
  | value :: items => value.toDocument :: itemDocuments items

def attributeDocuments : List (String × Value) → List (String × Document)
  | [] => []
  | (name, value) :: attributes => (name, value.toDocument) :: attributeDocuments attributes
end

def Object.toDocument (object : Object) : Document := object.toValue.toDocument

end TextGrammar
