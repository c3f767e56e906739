import TextGrammar.GrammarFile.Basic
import TextGrammar.Proofs.NameOrder
/-!
# Documents of values

The document of a record shares one object between the kind and the attributes. As long as no
attribute takes the place of the kind, the document tells all of a value.
-/
namespace TextGrammar

/-- Texts, sequences and records, where the attributes of records stand in the order of their names
and have allowed names. -/
inductive Value.IsBuilt (allowed : String → Prop) : Value → Prop
  | text {content} : IsBuilt allowed (.text content)
  | sequence {items} : (∀ item ∈ items, IsBuilt allowed item) → IsBuilt allowed (.sequence items)
  | record {kind attributes} : NameMap.IsSorted attributes →
    (∀ entry ∈ attributes, allowed entry.1) → (∀ entry ∈ attributes, IsBuilt allowed entry.2) →
    IsBuilt allowed (.object kind .record attributes)

theorem itemDocuments_eq_map (items : List Value) :
    itemDocuments items = items.map Value.toDocument := by
  induction items with
  | nil => rfl
  | cons item items ih => rw [itemDocuments, ih, List.map_cons]

theorem attributeDocuments_eq_map (attributes : List (String × Value)) :
    attributeDocuments attributes = attributes.map fun entry => (entry.1, entry.2.toDocument) := by
  induction attributes with
  | nil => rfl
  | cons entry attributes ih => rw [attributeDocuments, ih, List.map_cons]

theorem isSorted_attributeDocuments {attributes : NameMap Value} (h : attributes.IsSorted) :
    NameMap.IsSorted (attributeDocuments attributes) := by
  rw [attributeDocuments_eq_map]
  exact List.pairwise_map.mpr h

theorem find?_attributeDocuments (attributes : NameMap Value) (name : String) :
    NameMap.find? (attributeDocuments attributes) name =
      (attributes.find? name).map Value.toDocument := by
  induction attributes with
  | nil => rfl
  | cons entry attributes ih =>
    rw [attributeDocuments, NameMap.find?_cons, NameMap.find?_cons, ih]
    split <;> rfl

theorem find?_objectMembers (kind : String) {bound : NameMap Document} (h : bound.IsSorted)
    (name : String) :
    (objectMembers kind .record bound).find? name =
      (bound.find? name).or (if name = "$kind" then some (.string kind) else none) := by
  have hmembers := h.find?_insertAll [("$kind", .string kind)] name
  rwa [NameMap.find?_cons, NameMap.find?_nil] at hmembers

theorem objectMembers_injective {kind kind' : String} {bound bound' : NameMap Document}
    (hsorted : bound.IsSorted) (hsorted' : bound'.IsSorted)
    (hshown : bound.find? "$kind" = none) (hshown' : bound'.find? "$kind" = none)
    (h : objectMembers kind .record bound = objectMembers kind' .record bound') :
    kind = kind' ∧ bound = bound' := by
  have hfind (name : String) := (find?_objectMembers kind hsorted name).symm.trans
    (h ▸ find?_objectMembers kind' hsorted' name)
  refine ⟨?_, hsorted.ext hsorted' fun name => ?_⟩
  · simpa [hshown, hshown'] using hfind "$kind"
  · by_cases hname : name = "$kind"
    · rw [hname, hshown, hshown']
    · simpa [hname] using hfind name

theorem eq_of_map_eq {α β : Type} {f : α → β} {items items' : List α}
    (hinj : ∀ item ∈ items, ∀ item' ∈ items', f item = f item' → item = item')
    (h : items.map f = items'.map f) : items = items' := by
  induction items generalizing items' with
  | nil => exact (List.map_eq_nil_iff.mp h.symm).symm
  | cons item items ih =>
    cases items' with
    | nil => cases h
    | cons item' items' =>
      obtain ⟨hfirst, hrest⟩ := List.cons_eq_cons.mp h
      rw [hinj item List.mem_cons_self item' List.mem_cons_self hfirst]
      congr 1
      refine ih (fun other hother other' hother' => ?_) hrest
      exact hinj other (List.mem_cons_of_mem _ hother) other' (List.mem_cons_of_mem _ hother')

namespace Value.IsBuilt

theorem find?_kind {attributes : NameMap Value} (h : ∀ entry ∈ attributes, entry.1 ≠ "$kind") :
    NameMap.find? (attributeDocuments attributes) "$kind" = none := by
  induction attributes with
  | nil => rfl
  | cons entry attributes ih =>
    obtain ⟨hentry, hattributes⟩ := List.forall_mem_cons.mp h
    rw [attributeDocuments, NameMap.find?_cons, if_neg hentry.symm, ih hattributes]

theorem eq_of_toDocument {value value' : Value} (h : value.IsBuilt (· ≠ "$kind"))
    (h' : value'.IsBuilt (· ≠ "$kind")) (heq : value.toDocument = value'.toDocument) :
    value = value' := by
  induction h generalizing value' with
  | text =>
    cases h' with
    | text => simpa [toDocument] using heq
    | sequence | record => simp [toDocument] at heq
  | sequence _ ih =>
    cases h' with
    | sequence hitems' =>
      rw [toDocument, toDocument, Document.array.injEq, itemDocuments_eq_map,
        itemDocuments_eq_map] at heq
      rw [eq_of_map_eq (fun item hitem item' hitem' => ih item hitem (hitems' item' hitem')) heq]
    | text | record => simp [toDocument] at heq
  | record hsorted hnames _ ih =>
    cases h' with
    | record hsorted' hnames' hvalues' =>
      rw [toDocument, toDocument, Document.object.injEq] at heq
      obtain ⟨rfl, hbound⟩ := objectMembers_injective (isSorted_attributeDocuments hsorted)
        (isSorted_attributeDocuments hsorted') (find?_kind hnames) (find?_kind hnames') heq
      rw [attributeDocuments_eq_map, attributeDocuments_eq_map] at hbound
      congr 1
      refine eq_of_map_eq (fun entry hentry entry' hentry' hsame => ?_) hbound
      obtain ⟨hname, hdocument⟩ := Prod.mk.inj hsame
      exact Prod.ext hname (ih entry hentry (hvalues' entry' hentry') hdocument)
    | text | sequence => simp [toDocument] at heq

end Value.IsBuilt

/-- What the document of a value tells, whatever its attributes are named. The document of a record
has each bound attribute under its name, and the kind under `$kind` unless an attribute of that name
hides it. So of values in which no attribute hides a kind, different ones have different
documents. -/
theorem Value.toDocument_tells_value (value : Value) (h : value.IsBuilt fun _ => True) :
    (∀ kind attributes, value = .object kind .record attributes →
      ∃ members : NameMap Document, value.toDocument = .object members ∧
        (∀ name bound, NameMap.find? attributes name = some bound →
          members.find? name = some bound.toDocument) ∧
        (NameMap.find? attributes "$kind" = none →
          members.find? "$kind" = some (.string kind))) ∧
    ∀ value' : Value, value.IsBuilt (· ≠ "$kind") → value'.IsBuilt (· ≠ "$kind") →
      value.toDocument = value'.toDocument → value = value' := by
  refine ⟨?_, fun value' hvalue hvalue' => hvalue.eq_of_toDocument hvalue'⟩
  rintro kind attributes rfl
  cases h with
  | record hsorted =>
    have hfind := find?_objectMembers kind (isSorted_attributeDocuments hsorted)
    simp only [find?_attributeDocuments] at hfind
    refine ⟨objectMembers kind .record (attributeDocuments attributes), by rw [toDocument], ?_, ?_⟩
    · intro name bound hbound
      rw [hfind, hbound, Option.map_some, Option.some_or]
    · intro hshown
      rw [hfind, hshown, Option.map_none, Option.none_or, if_pos rfl]

theorem Value.toDocument_tells_value_sequence :
    let single : Value := .object "item" .record [("kind", .text "b"), ("letters", .text "a")]
    let several : Value :=
      .object "item" .record [("kind", .text "b"), ("letters", .sequence [.text "a"])]
    single.IsBuilt (fun _ => True) ∧ single.IsBuilt (· ≠ "$kind") ∧
      several.IsBuilt (· ≠ "$kind") ∧ single.toDocument ≠ several.toDocument ∧
      ∃ members : NameMap Document, single.toDocument = .object members ∧
        members.find? "$kind" = some (.string "item") := by
  intro single several
  have hbuilt (allowed : String → Prop) (hnames : allowed "kind" ∧ allowed "letters")
      (letters : Value) (hletters : letters.IsBuilt allowed) :
      (Value.object "item" .record [("kind", .text "b"), ("letters", letters)]).IsBuilt allowed := by
    refine .record ?_ ?_ ?_
    · exact List.pairwise_pair.mpr (show "kind" < "letters" by decide)
    · exact List.forall_mem_cons.mpr ⟨hnames.1, List.forall_mem_singleton.mpr hnames.2⟩
    · exact List.forall_mem_cons.mpr ⟨.text, List.forall_mem_singleton.mpr hletters⟩
  have hany := hbuilt (fun _ => True) ⟨trivial, trivial⟩ (.text "a") .text
  have hsingle := hbuilt (· ≠ "$kind") (by decide) (.text "a") .text
  have hseveral := hbuilt (· ≠ "$kind") (by decide) (.sequence [.text "a"])
    (.sequence (List.forall_mem_singleton.mpr .text))
  obtain ⟨hmembers, hinjective⟩ := toDocument_tells_value single hany
  refine ⟨hany, hsingle, hseveral, ?_, ?_⟩
  · intro h
    have hsame := hinjective several hsingle hseveral h
    simp [single, several] at hsame
  · obtain ⟨members, hdocument, _, hkind⟩ := hmembers "item" _ rfl
    exact ⟨members, hdocument, hkind (by rfl)⟩

/-- A grammar file can name an attribute `$kind`. The record that its rule builds has the same
document as a record of another kind without attributes. -/
theorem Value.toDocument_hides_kind :
    let file : GrammarFile := { rules := [("word", .attribute "$kind" (.terminal "hi"))] }
    let set : RuleSet := { rules := [("word", .attribute "$kind" (.terminal "hi"))] }
    let hidden : Object := ⟨"word", .record, [("$kind", .text "hi")]⟩
    let other : Object := ⟨"hi", .record, []⟩
    file.toRuleSet = .ok set ∧ set.parse "word" ['h', 'i'] = .ok ⟨hidden, ⟨2, []⟩⟩ ∧
      hidden.toValue.IsBuilt (fun _ => True) ∧ other.toValue.IsBuilt (fun _ => True) ∧
      hidden.toDocument = other.toDocument ∧ hidden.toValue ≠ other.toValue := by
  intro file set hidden other
  refine ⟨by rfl, by rfl, ?_, ?_, ?_, ?_⟩
  · exact .record (List.pairwise_singleton _ _) (fun _ _ => trivial)
      (List.forall_mem_singleton.mpr .text)
  · exact .record .nil nofun nofun
  · simp only [hidden, other, Object.toDocument, Object.toValue, Value.toDocument,
      attributeDocuments]
    rfl
  · simp [hidden, other, Object.toValue]

end TextGrammar
