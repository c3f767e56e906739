import TextGrammar.Proofs.Flatness
import TextGrammar.Proofs.RecordWrites
/-!
# The order of names

Maps keep their entries in increasing order of the names. An ordered map is determined by what its
names stand for, and inserting the entries of an ordered map again gives the map.
-/
namespace TextGrammar.NameMap

variable {α : Type} {map map' : NameMap α}

def IsSorted (map : NameMap α) : Prop := map.Pairwise fun entry later => entry.1 < later.1

theorem IsSorted.insert (h : map.IsSorted) (name : String) (value : α) :
    (map.insert name value).IsSorted := by
  induction map with
  | nil => exact List.pairwise_singleton _ _
  | cons entry map ih =>
    obtain ⟨hentry, hmap⟩ := List.pairwise_cons.mp h
    rw [NameMap.insert]
    split
    · next hlt =>
      refine List.pairwise_cons.mpr ⟨?_, h⟩
      intro later hlater
      rcases List.mem_cons.mp hlater with rfl | hlater
      · exact hlt
      · exact String.lt_trans hlt (hentry later hlater)
    · next hnot =>
      split
      · next heq =>
        refine List.pairwise_cons.mpr ⟨?_, hmap⟩
        rw [heq]
        exact hentry
      · next hne =>
        refine List.pairwise_cons.mpr ⟨?_, ih hmap⟩
        intro later hlater
        rcases mem_insert hlater with rfl | hlater
        · exact Std.lt_of_le_of_ne (String.not_lt.mp hnot) (Ne.symm hne)
        · exact hentry later hlater

theorem IsSorted.insertAll (h : map.IsSorted) (entries : List (String × α)) :
    (map.insertAll entries).IsSorted := by
  induction entries generalizing map with
  | nil => exact h
  | cons entry entries ih => exact ih (h.insert entry.1 entry.2)

theorem isSorted_ofList (entries : List (String × α)) : (ofList entries).IsSorted :=
  IsSorted.insertAll .nil entries

theorem mem_insertAll {entries : List (String × α)} {entry : String × α}
    (h : entry ∈ map.insertAll entries) : entry ∈ entries ∨ entry ∈ map := by
  induction entries generalizing map with
  | nil => exact .inr h
  | cons first entries ih =>
    rcases ih h with hentry | hentry
    · exact .inl (List.mem_cons_of_mem _ hentry)
    · rcases mem_insert hentry with rfl | hentry
      · exact .inl List.mem_cons_self
      · exact .inr hentry

theorem mem_of_mem_ofList {entries : List (String × α)} {entry : String × α}
    (h : entry ∈ ofList entries) : entry ∈ entries :=
  (mem_insertAll h).resolve_right List.not_mem_nil

theorem insert_of_forall_lt {name : String} (h : ∀ entry ∈ map, entry.1 < name) (value : α) :
    map.insert name value = map ++ [(name, value)] := by
  induction map with
  | nil => rfl
  | cons entry map ih =>
    obtain ⟨hentry, hmap⟩ := List.forall_mem_cons.mp h
    have hne : name ≠ entry.1 := by
      rintro rfl
      exact String.lt_irrefl _ hentry
    rw [insert, if_neg (String.lt_asymm hentry), if_neg hne, ih hmap, List.cons_append]

theorem insertAll_eq_append {entries : List (String × α)} (h : IsSorted (map ++ entries)) :
    map.insertAll entries = map ++ entries := by
  induction entries generalizing map with
  | nil => exact (List.append_nil map).symm
  | cons entry entries ih =>
    have hlast : ∀ earlier ∈ map, earlier.1 < entry.1 := fun earlier hearlier =>
      (List.pairwise_append.mp h).2.2 earlier hearlier entry List.mem_cons_self
    have hstep : map ++ entry :: entries = (map ++ [entry]) ++ entries := by simp
    rw [NameMap.insertAll, List.foldl_cons, insert_of_forall_lt hlast, ← NameMap.insertAll]
    rw [hstep] at h ⊢
    exact ih h

theorem IsSorted.ofList_eq (h : map.IsSorted) : ofList map = map :=
  show NameMap.insertAll [] map = [] ++ map from insertAll_eq_append h

theorem IsSorted.find?_insertAll {entries : NameMap α} (h : entries.IsSorted) (map : NameMap α)
    (name : String) :
    (map.insertAll entries).find? name = (entries.find? name).or (map.find? name) := by
  have hempty := NameMap.find?_insertAll [] entries name
  rw [show NameMap.insertAll [] entries = entries from h.ofList_eq, find?_nil, Option.or_none]
    at hempty
  rw [NameMap.find?_insertAll, hempty]

theorem find?_of_forall_lt {name : String} (h : ∀ entry ∈ map, name < entry.1) :
    map.find? name = none := by
  induction map with
  | nil => rfl
  | cons entry map ih =>
    obtain ⟨hentry, hmap⟩ := List.forall_mem_cons.mp h
    have hne : name ≠ entry.1 := by
      intro heq
      exact String.lt_irrefl _ (heq ▸ hentry)
    rw [find?_cons, if_neg hne, ih hmap]

private theorem not_lt_first {first : String × α} {name : String} {value : α}
    (h : IsSorted (first :: map)) (hfind : find? (first :: map) name = some value) :
    ¬ name < first.1 := by
  intro hlt
  have hall : ∀ entry ∈ first :: map, name < entry.1 :=
    List.forall_mem_cons.mpr
      ⟨hlt, fun entry hentry => String.lt_trans hlt ((List.pairwise_cons.mp h).1 entry hentry)⟩
  rw [find?_of_forall_lt hall] at hfind
  cases hfind

theorem IsSorted.ext (h : map.IsSorted) (h' : map'.IsSorted)
    (hfind : ∀ name, map.find? name = map'.find? name) : map = map' := by
  induction map generalizing map' with
  | nil =>
    cases map' with
    | nil => rfl
    | cons entry' map' => simpa [find?_cons] using hfind entry'.1
  | cons entry map ih =>
    cases map' with
    | nil => simpa [find?_cons] using hfind entry.1
    | cons entry' map' =>
      obtain ⟨hentry, hmap⟩ := List.pairwise_cons.mp h
      obtain ⟨hentry', hmap'⟩ := List.pairwise_cons.mp h'
      have hself : find? (entry' :: map') entry.1 = some entry.2 := by
        rw [← hfind, find?_cons, if_pos rfl]
      have hself' : find? (entry :: map) entry'.1 = some entry'.2 := by
        rw [hfind, find?_cons, if_pos rfl]
      have hname : entry.1 = entry'.1 :=
        String.le_antisymm (String.not_lt.mp (not_lt_first h hself'))
          (String.not_lt.mp (not_lt_first h' hself))
      rw [find?_cons, if_pos hname, Option.some_inj] at hself
      obtain rfl : entry = entry' := Prod.ext hname hself.symm
      congr 1
      refine ih hmap hmap' fun name => ?_
      by_cases heq : name = entry.1
      · rw [heq, find?_of_forall_lt hentry, find?_of_forall_lt hentry']
      · simpa only [find?_cons, if_neg heq] using hfind name

end TextGrammar.NameMap
