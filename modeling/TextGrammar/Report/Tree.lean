import TextGrammar.Document.Basic
import TextGrammar.Text.Quoted
/-!
# Trees for people

A document as indented lines. Objects start with their kind, sequences with a line of their own
for each item.
-/
namespace TextGrammar.Tree

def margin (indent : Nat) : String := "".pushn ' ' (2 * indent)

/-- The kind of an object; objects without one are just called so. -/
def heading (members : List (String × Document)) : String :=
  match members.lookup "$kind" with
  | some (.string kind) => kind
  | _ => "object"

def gap (rendered : String) : String :=
  if rendered.toList.head? = some '\n' then "" else " "

mutual
def render (indent : Nat) : Document → String
  | .null => "null"
  | .bool value => if value then "true" else "false"
  | .integer value => toString value
  | .decimal digits => digits
  | .moment written => written
  | .unreadable => ""
  | .string value => Quoted.encode value
  | .array [] => "[]"
  | .array items => renderItems indent items
  | .object members => heading members ++ renderMembers indent members

def renderItems (indent : Nat) : List Document → String
  | [] => ""
  | item :: items =>
    "\n" ++ margin indent ++ "- " ++ render (indent + 1) item ++ renderItems indent items

def renderMembers (indent : Nat) : List (String × Document) → String
  | [] => ""
  | (name, value) :: members =>
    if name = "$kind" then renderMembers indent members
    else
      let rendered := render (indent + 1) value
      "\n" ++ margin indent ++ name ++ ":" ++ gap rendered ++ rendered
        ++ renderMembers indent members
end

end TextGrammar.Tree
