/-!
# Documents

The tree that both grammar file formats are read into and that every result is written from.
-/
namespace TextGrammar

inductive Document where
  | null
  | bool (value : Bool)
  | integer (value : Int)
  /-- A number written with a fraction or an exponent, as written. -/
  | decimal (digits : String)
  | string (value : String)
  /-- A date or a time, as written. -/
  | moment (written : String)
  | array (items : List Document)
  /-- Members in the order in which they are written; a name may occur twice. -/
  | object (members : List (String × Document))
  /-- Something well formed that has no value: half a character, or nesting beyond the limit. -/
  | unreadable
deriving Repr, Inhabited

namespace Document

mutual
def depth : Document → Nat
  | .array items => itemsDepth items + 1
  | .object members => membersDepth members + 1
  | _ => 0

def itemsDepth : List Document → Nat
  | [] => 0
  | item :: items => max item.depth (itemsDepth items)

def membersDepth : List (String × Document) → Nat
  | [] => 0
  | (_, value) :: members => max value.depth (membersDepth members)
end

end Document

end TextGrammar
