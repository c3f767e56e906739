import TextGrammar.Document.Basic
/-!
# Tables under construction

While a TOML text is read, its tables remember how they came about, because that decides what may
still be added to them.
-/
namespace TextGrammar.Toml

inductive Entry where
  /-- A finished value; nothing can be added to it. -/
  | value (document : Document)
  /-- `implicit` tables have had no header of their own yet, and `dotted` ones come from a key with
  dots. -/
  | table (implicit dotted : Bool) (entries : List (String × Entry))
  /-- Tables with headers in double brackets; what follows belongs to the last one. -/
  | tables (items : List (List (String × Entry)))

abbrev Table := List (String × Entry)

namespace Table

def replace (name : String) (entry : Entry) : Table → Table
  | [] => [(name, entry)]
  | (other, old) :: table =>
    if other = name then (name, entry) :: table else (other, old) :: replace name entry table

/-- Changes the table that a header's path leads to; tables on the way come into being. -/
def update (change : Table → Option Table) : (path : List String) → Table → Option Table
  | [], table => change table
  | name :: path, table =>
    match table.lookup name with
    | none => do return table.replace name (.table true false (← update change path []))
    | some (.table implicit dotted entries) => do
      return table.replace name (.table implicit dotted (← update change path entries))
    | some (.tables items) => do
      return table.replace name
        (.tables (items.dropLast ++ [← update change path (items.getLast?.getD [])]))
    | some (.value _) => none

/-- A header in single brackets. A table has one header at most. -/
def openTable (name : String) (table : Table) : Option Table :=
  match table.lookup name with
  | none => some (table.replace name (.table false false []))
  | some (.table true false entries) => some (table.replace name (.table false false entries))
  | _ => none

def openItem (name : String) (table : Table) : Option Table :=
  match table.lookup name with
  | none => some (table.replace name (.tables [[]]))
  | some (.tables items) => some (table.replace name (.tables (items ++ [[]])))
  | _ => none

/-- Adds a value under a key. The parts before the last one name tables made by keys with dots;
a table that has a header, or that a header's path made, takes no value this way. -/
def insert (document : Document) : (key : List String) → Table → Option Table
  | [], _ => none
  | [name], table =>
    match table.lookup name with
    | none => some (table.replace name (.value document))
    | some _ => none
  | name :: key, table =>
    match table.lookup name with
    | none => do return table.replace name (.table true true (← insert document key []))
    | some (.table implicit dotted entries) =>
      if !implicit || (key.length == 1 && !dotted) then none
      else do return table.replace name (.table implicit dotted (← insert document key entries))
    | some (.tables items) =>
      if key.length == 1 then none
      else do
        return table.replace name
          (.tables (items.dropLast ++ [← insert document key (items.getLast?.getD [])]))
    | some (.value _) => none

end Table

mutual
def Entry.toDocument : Entry → Document
  | .value document => document
  | .table _ _ entries => .object (tableMembers entries)
  | .tables items => .array (tableItems items)

def tableMembers : List (String × Entry) → List (String × Document)
  | [] => []
  | (name, entry) :: table => (name, entry.toDocument) :: tableMembers table

def tableItems : List (List (String × Entry)) → List Document
  | [] => []
  | table :: tables => .object (tableMembers table) :: tableItems tables
end

end TextGrammar.Toml
