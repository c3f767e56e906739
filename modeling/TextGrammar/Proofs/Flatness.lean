import TextGrammar.Proofs.Reachability
import TextGrammar.Terminal
/-!
# Flat sequences

Joining a sequence to another one takes its items over as they are. So a sequence is flat only if
all values that it is made of are: those that parts yield, those bound on records, and those that
failed ways have left behind.
-/
namespace TextGrammar

namespace Value

def isItem : Value → Bool
  | .text content => !content.isEmpty
  | .sequence _ => false
  | .object .. => true

mutual
/-- A text, a sequence of clean items, or a record with clean attributes. -/
def isClean : Value → Bool
  | .text _ => true
  | .sequence items => allCleanItems items
  | .object _ .record attributes => allCleanAttributes attributes
  | .object .. => false

def allCleanItems : List Value → Bool
  | [] => true
  | item :: items => item.isItem && item.isClean && allCleanItems items

def allCleanAttributes : List (String × Value) → Bool
  | [] => true
  | (_, value) :: attributes => value.isClean && allCleanAttributes attributes
end

theorem isClean_sequence {items : List Value} :
    (sequence items).isClean = true ↔ ∀ item ∈ items, item.isItem = true ∧ item.isClean = true := by
  rw [isClean]
  induction items with
  | nil => simp [allCleanItems]
  | cons item items ih => simp [allCleanItems, ih, and_assoc]

theorem isClean_object {kind : String} {schema : Schema} {attributes : List (String × Value)} :
    (object kind schema attributes).isClean = true ↔
      schema = .record ∧ ∀ entry ∈ attributes, entry.2.isClean = true := by
  cases schema with
  | record =>
    rw [isClean]
    induction attributes with
    | nil => simp [allCleanAttributes]
    | cons entry attributes ih => simp_all [allCleanAttributes]
  | free | fields => simp [isClean]

theorem isClean_flatten {value : Value} (h : value.isClean = true) :
    (sequence value.flatten).isClean = true := by
  cases value with
  | text content =>
    rw [isClean_sequence, flatten]
    split
    · simp
    · next hcontent => simp [isItem, isClean, hcontent]
  | sequence items => exact h
  | object kind schema attributes => exact isClean_sequence.mpr (by simp [flatten, isItem, h])

theorem isClean_append {items further : List Value} (h : (sequence items).isClean = true)
    (h' : (sequence further).isClean = true) : (sequence (items ++ further)).isClean = true := by
  rw [isClean_sequence] at h h' ⊢
  intro item hitem
  rcases List.mem_append.mp hitem with hitem | hitem
  · exact h item hitem
  · exact h' item hitem

end Value

theorem NameMap.mem_insert {α : Type} {map : NameMap α} {name : String} {value : α}
    {entry : String × α} (h : entry ∈ map.insert name value) :
    entry = (name, value) ∨ entry ∈ map := by
  induction map with
  | nil => exact .inl (List.mem_singleton.mp h)
  | cons first map ih =>
    rw [insert] at h
    split at h
    · exact List.mem_cons.mp h
    · split at h
      · exact (List.mem_cons.mp h).imp_right (List.mem_cons_of_mem _)
      · rcases List.mem_cons.mp h with rfl | h
        · exact .inr List.mem_cons_self
        · exact (ih h).imp_right (List.mem_cons_of_mem _)

theorem isClean_bound [Targets] {name : String} {yield : Yield} {object bound : Object}
    (hbind : bindYield name yield object = (.ok (), bound))
    (hyield : ∀ value, yield = .value value → value.isClean = true)
    (hobject : object.toValue.isClean = true) : bound.toValue.isClean = true := by
  obtain ⟨kind, schema, attributes⟩ := object
  obtain ⟨rfl, hattributes⟩ := Value.isClean_object.mp hobject
  obtain ⟨value, rfl, rfl⟩ := bindYield_record_eq_ok hbind
  refine Value.isClean_object.mpr ⟨rfl, ?_⟩
  intro entry hentry
  rcases NameMap.mem_insert hentry with rfl | hentry
  · exact hyield value rfl
  · exact hattributes entry hentry

theorem isClean_refused [Targets] {name : String} {yield : Yield} {object refused : Object}
    {failure : Failure} (hbind : bindYield name yield object = (.error failure, refused))
    (hobject : object.toValue.isClean = true) : refused.toValue.isClean = true := by
  obtain ⟨kind, schema, attributes⟩ := object
  obtain ⟨rfl, _⟩ := Value.isClean_object.mp hobject
  obtain ⟨_, _, rfl⟩ := bindYield_record_eq_error hbind
  exact hobject

/-- The value that a match yields is clean, and so is the object that it leaves behind. -/
def EndsClean (outcome : Outcome Yield) (after : Object) : Prop :=
  (∀ value next, outcome = .ok (.value value, next) → value.isClean = true) ∧
    after.toValue.isClean = true

namespace EndsClean

variable {after : Object} (hafter : after.toValue.isClean = true)

include hafter

theorem ok {value : Value} (hvalue : value.isClean = true) (next : Cursor) :
    EndsClean (.ok (.value value, next)) after := by
  refine ⟨?_, hafter⟩
  rintro _ _ ⟨⟩
  exact hvalue

theorem target (next : Cursor) : EndsClean (.ok (.target, next)) after := ⟨nofun, hafter⟩

theorem error (failure : Failure) : EndsClean (.error failure) after := ⟨nofun, hafter⟩

theorem matchTerminal [Engine] (pattern : String) (cursor : Cursor) :
    EndsClean (matchTerminal pattern cursor) after := by
  obtain ⟨_, h⟩ | ⟨_, _, ⟨_, h⟩ | ⟨length, _, h⟩⟩ := matchTerminal_cases pattern cursor <;> rw [h]
  · exact .error hafter _
  · exact .error hafter _
  · exact .ok hafter (by rw [Value.isClean]) _

theorem finishLoop {values : List Value} (hvalues : (Value.sequence values).isClean = true)
    (allowZero : Bool) (start : Nat) (bound : Bool) (cursor : Cursor) :
    EndsClean (finishLoop allowZero start values bound cursor) after := by
  rcases finishLoop_cases allowZero start values bound cursor with h | h <;> rw [h]
  · exact .error hafter _
  · exact .ok hafter hvalues _

end EndsClean

theorem EndsClean.append_flatten {yield : Yield} {next : Cursor} {after : Object}
    (h : EndsClean (.ok (yield, next)) after) {values : List Value}
    (hvalues : (Value.sequence values).isClean = true) :
    (Value.sequence (values ++ yield.flatten)).isClean = true := by
  cases yield with
  | value value => exact Value.isClean_append hvalues (Value.isClean_flatten (h.1 value next rfl))
  | target => exact Value.isClean_append hvalues (by rfl)

theorem Evaluates.endsClean [Engine] [Targets] {m : Matcher} {depth : Nat} {task : Task}
    {object after : Object} {cursor : Cursor} {outcome : Outcome Yield} {allowed : Reference → Prop}
    (hclosed : m.Closed allowed)
    (hrules : ∀ reference, allowed reference → ∃ name, reference = .rule name)
    (h : Evaluates m depth task object cursor outcome after) :
    (∀ node ∈ task.nodes, node.RefersTo allowed) →
      (Value.sequence task.values).isClean = true → object.toValue.isClean = true →
        EndsClean outcome after := by
  induction h with
  | terminal pattern =>
    intro _ _ hobject
    exact .matchTerminal hobject pattern _
  | nested _ ih | rule _ ih =>
    intro hnodes hvalues hobject
    exact ih hnodes hvalues hobject
  | sequence _ ih =>
    intro hnodes hvalues hobject
    have hparts := ih (hnodes _ (List.mem_singleton_self _)).children hvalues hobject
    exact .target hparts.2 _
  | ignore _ ih | optionalSkip _ _ ih =>
    intro hnodes hvalues hobject
    have hpart := ih (hnodes _ (List.mem_singleton_self _)).children hvalues hobject
    exact .ok hpart.2 (by rfl) _
  | sequenceFail _ ih | collect _ ih | alternation _ ih | attributeFail _ ih | ignoreFail _ ih
  | optional _ ih | optionalFail _ _ ih | repetition _ ih =>
    intro hnodes hvalues hobject
    exact ih (hnodes _ (List.mem_singleton_self _)).children hvalues hobject
  | attributeBound _ hbind ih =>
    intro hnodes hvalues hobject
    have hpart := ih (hnodes _ (List.mem_singleton_self _)).children hvalues hobject
    refine .target (isClean_bound hbind ?_ hpart.2) _
    rintro value rfl
    exact hpart.1 value _ rfl
  | attributeRefused _ hbind ih =>
    intro hnodes hvalues hobject
    have hpart := ih (hnodes _ (List.mem_singleton_self _)).children hvalues hobject
    exact .error (isClean_refused hbind hpart.2) _
  | allNil =>
    intro _ hvalues hobject
    exact .ok hobject hvalues _
  | firstNil =>
    intro _ _ hobject
    exact .error hobject _
  | allCons _ _ ih ih' =>
    intro hnodes hvalues hobject
    obtain ⟨hpart, hparts⟩ := List.forall_mem_cons.mp hnodes
    have hfirst := ih (List.forall_mem_singleton.mpr hpart) (by rfl) hobject
    exact ih' hparts (hfirst.append_flatten hvalues) hfirst.2
  | firstNext _ _ _ ih ih' =>
    intro hnodes hvalues hobject
    obtain ⟨hpart, hparts⟩ := List.forall_mem_cons.mp hnodes
    have hfirst := ih (List.forall_mem_singleton.mpr hpart) hvalues hobject
    exact ih' hparts hvalues hfirst.2
  | allFail _ ih | firstOk _ ih | firstFail _ _ ih =>
    intro hnodes _ hobject
    exact ih (List.forall_mem_singleton.mpr (List.forall_mem_cons.mp hnodes).1) (by rfl) hobject
  | loopEnd =>
    intro _ hvalues hobject
    exact .finishLoop hobject hvalues _ _ _ _
  | loopStop _ _ _ ih =>
    intro hnodes hvalues hobject
    exact .finishLoop (ih hnodes (by rfl) hobject).2 hvalues _ _ _ _
  | loopStep _ _ _ _ ih ih' =>
    intro hnodes hvalues hobject
    have hround := ih hnodes (by rfl) hobject
    exact ih' hnodes (hround.append_flatten hvalues) hround.2
  | loopStuck _ _ _ ih =>
    intro hnodes _ hobject
    exact .error (ih hnodes (by rfl) hobject).2 _
  | loopFail _ _ _ ih =>
    intro hnodes _ hobject
    exact ih hnodes (by rfl) hobject
  | enterUnresolved | enterTooDeep | enterFail =>
    intro _ _ hobject
    exact .error hobject _
  | enter hresolve _ ih =>
    intro hnodes _ hobject
    have hallowed := Node.RefersTo.of_enter hnodes
    have hgrammar := hclosed _ _ _ hallowed hresolve
    obtain ⟨name, rfl⟩ := hrules _ hallowed
    obtain ⟨_, rfl⟩ := Matcher.resolve_rule_eq_ok hresolve
    have hbody := ih (List.forall_mem_singleton.mpr hgrammar) (by rfl) (by rfl)
    exact .ok hobject hbody.2 _

inductive Value.Contains : Value → Value → Prop
  | self {value} : Contains value value
  | item {items item inner} : item ∈ items → Contains item inner → Contains (.sequence items) inner
  | bound {kind schema attributes name value inner} :
    (name, value) ∈ attributes → Contains value inner →
    Contains (.object kind schema attributes) inner

theorem Value.Contains.isClean {outer inner : Value} (h : outer.Contains inner)
    (houter : outer.isClean = true) : inner.isClean = true := by
  induction h with
  | self => exact houter
  | item hitem _ ih => exact ih (isClean_sequence.mp houter _ hitem).2
  | bound hentry _ ih => exact ih ((isClean_object.mp houter).2 _ hentry)

theorem Value.isItem_iff {value : Value} :
    value.isItem = true ↔ value ≠ .text "" ∧ ∀ items, value ≠ .sequence items := by
  cases value <;> simp [isItem]

/-- Sequences are flat everywhere. Where only rules can be entered, a match on a clean record
yields a clean value and leaves a clean record behind, whether it succeeds or fails. So at no
nesting of records does a sequence hold an empty text or a sequence. -/
theorem Matcher.matchNode_isClean [Engine] [Targets] (m : Matcher) (node : Node)
    (hrules : ∀ reference, m.Reachable node reference → ∃ name, reference = .rule name)
    (object : Object) (hobject : object.toValue.isClean = true) (cursor : Cursor) :
    (∀ value next, (m.matchNode node object cursor).1 = .ok (.value value, next) →
      value.isClean = true) ∧
    (m.matchNode node object cursor).2.toValue.isClean = true ∧
    ∀ value items,
      ((∃ next, (m.matchNode node object cursor).1 = .ok (.value value, next)) ∨
        value = (m.matchNode node object cursor).2.toValue) →
      value.Contains (.sequence items) →
        ∀ item ∈ items, item ≠ .text "" ∧ ∀ inner, item ≠ .sequence inner := by
  obtain ⟨hvalue, hafter⟩ := (evaluates_matchNode m node object cursor).endsClean
    (m.closed_reachable node) hrules (List.forall_mem_singleton.mpr (m.refersTo_reachable node))
    (by rfl) hobject
  refine ⟨hvalue, hafter, ?_⟩
  intro value items hsource hcontains item hitem
  have hclean : value.isClean = true := by
    rcases hsource with ⟨next, houtcome⟩ | rfl
    · exact hvalue value next houtcome
    · exact hafter
  have hsequence := Value.isClean_sequence.mp (hcontains.isClean hclean)
  exact Value.isItem_iff.mp (hsequence item hitem).1

/-- A way that fails leaves a record behind, and the next way yields a record and a text. -/
theorem Matcher.matchNode_isClean_item :
    let body : Node := .attribute "letters"
      (.collect [.terminal "a", .optional (.terminal "b"), .terminal "x*"])
    let m : Matcher := { rules := [("item", body)] }
    let node : Node := .alternation
      [.sequence [.attribute "first" (.rule "item"), .terminal "x"],
        .collect [.rule "item", .repetition (.terminal "c") true]]
    let item : Value := .object "item" .record [("letters", .sequence [.text "a", .text "b"])]
    let object := Object.record "test"
    let cursor := Cursor.start ['a', 'b', 'c']
    (∀ reference, m.Reachable node reference → ∃ name, reference = .rule name) ∧
      object.toValue.isClean = true ∧
      (m.matchNode node object cursor).1 = .ok (.value (.sequence [item, .text "c"]), ⟨3, []⟩) ∧
      (m.matchNode node object cursor).2 = ⟨"test", .record, [("first", item)]⟩ ∧
      (Value.sequence [item, .text "c"]).isClean = true ∧
      (Object.toValue ⟨"test", .record, [("first", item)]⟩).isClean = true := by
  intro body m node item object cursor
  have hrules : ∀ reference, m.Reachable node reference → ∃ name, reference = .rule name := by
    intro reference hreachable
    induction hreachable with
    | occurs hreference =>
      have hrule : ∀ reference ∈ node.references, ∃ name, reference = .rule name := by
        simp [node, Node.references, Node.subtrees, Node.allSubtrees, Node.reference?]
      exact hrule _ hreference
    | follows _ hresolve hfurther ih =>
      obtain ⟨name, rfl⟩ := ih
      obtain ⟨hfind, _⟩ := resolve_rule_eq_ok hresolve
      rw [show m.rules = [("item", body)] from rfl, NameMap.find?_cons] at hfind
      split at hfind
      · cases hfind
        simp [body, Node.references, Node.subtrees, Node.allSubtrees, Node.reference?] at hfurther
      · cases hfind
  have hmatch : m.matchNode node object cursor =
      (.ok (.value (.sequence [item, .text "c"]), ⟨3, []⟩),
        ⟨"test", .record, [("first", item)]⟩) := by rfl
  obtain ⟨hvalue, hafter, _⟩ := m.matchNode_isClean node hrules object (by rfl) cursor
  rw [hmatch] at hvalue hafter
  refine ⟨hrules, by rfl, ?_, ?_, ?_, hafter⟩
  · rw [hmatch]
  · rw [hmatch]
  · exact hvalue _ _ rfl

end TextGrammar
