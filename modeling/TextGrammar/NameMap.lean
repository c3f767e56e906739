/-!
# Maps from names

Entries are kept in increasing order of their names, so equal maps are equal lists. Names are
compared by code points, which is also the order of their UTF-8 bytes.
-/
namespace TextGrammar

abbrev NameMap (α : Type) := List (String × α)

namespace NameMap

variable {α : Type}

def find? (map : NameMap α) (name : String) : Option α := map.lookup name

def contains (map : NameMap α) (name : String) : Bool := (map.find? name).isSome

/-- The last value given to a name is the one that counts. -/
def insert (name : String) (value : α) : NameMap α → NameMap α
  | [] => [(name, value)]
  | entry :: map =>
    if name < entry.1 then (name, value) :: entry :: map
    else if name = entry.1 then (name, value) :: map
    else entry :: insert name value map

def erase (name : String) : NameMap α → NameMap α
  | [] => []
  | entry :: map => if name = entry.1 then map else entry :: erase name map

def ofList (entries : List (String × α)) : NameMap α :=
  entries.foldl (fun map entry => map.insert entry.1 entry.2) []

@[simp] theorem find?_nil (name : String) : find? ([] : NameMap α) name = none := rfl

theorem find?_cons (entry : String × α) (map : NameMap α) (name : String) :
    find? (entry :: map) name = if name = entry.1 then some entry.2 else map.find? name := by
  obtain ⟨key, value⟩ := entry
  simp only [find?, List.lookup_cons]
  split <;> simp_all

theorem find?_insert (map : NameMap α) (name other : String) (value : α) :
    find? (map.insert name value) other = if other = name then some value else map.find? other := by
  induction map with
  | nil => simp [insert, find?_cons]
  | cons entry map ih =>
    simp only [insert]
    split
    · simp only [find?_cons]
    · split
      · simp only [find?_cons]
        split <;> simp_all
      · next hne =>
        simp only [find?_cons, ih]
        by_cases h : other = entry.1
        · simp [h, Ne.symm hne]
        · simp [h]

@[simp] theorem find?_insert_self (map : NameMap α) (name : String) (value : α) :
    find? (map.insert name value) name = some value := by
  simp [find?_insert]

end NameMap

end TextGrammar
