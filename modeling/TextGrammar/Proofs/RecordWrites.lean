import TextGrammar.Proofs.Evaluation
import TextGrammar.Terminal
/-!
# Writes on a record

What a match does to the record it builds is a list of writes. The list, like the outcome, does
not depend on what the record holds, and only attributes of the grammar itself write: the rules
and types that it refers to build objects of their own.
-/
namespace TextGrammar

namespace NameMap

variable {α : Type}

def insertAll (map : NameMap α) (entries : List (String × α)) : NameMap α :=
  entries.foldl (fun map entry => map.insert entry.1 entry.2) map

theorem insertAll_append (map : NameMap α) (first second : List (String × α)) :
    map.insertAll (first ++ second) = (map.insertAll first).insertAll second :=
  List.foldl_append

theorem find?_insertAll (map : NameMap α) (entries : List (String × α)) (name : String) :
    (map.insertAll entries).find? name = (entries.reverse.lookup name).or (map.find? name) := by
  induction entries generalizing map with
  | nil => rfl
  | cons entry entries ih =>
    obtain ⟨key, value⟩ := entry
    rw [insertAll, List.foldl_cons, ← insertAll, ih, find?_insert, List.reverse_cons,
      List.lookup_append, Option.or_assoc, List.lookup_cons, List.lookup_nil]
    by_cases hname : name = key
    · subst hname
      simp only [BEq.rfl, ↓reduceIte, Option.some_or]
    · have hbeq : (name == key) = false := beq_eq_false_iff_ne.mpr hname
      simp only [hname, hbeq, ↓reduceIte, Option.none_or]

theorem contains_insertAll {map : NameMap α} {name : String} (h : map.contains name = true)
    (entries : List (String × α)) : (map.insertAll entries).contains name = true := by
  rw [contains] at h ⊢
  rw [find?_insertAll, Option.isSome_or, h, Bool.or_true]

end NameMap

namespace Node

mutual
/-- The names of the attributes in a grammar; references are not followed. -/
def boundNames : Node → List String
  | .terminal _ | .nested _ | .rule _ => []
  | .sequence parts | .collect parts | .alternation parts => allBoundNames parts
  | .attribute name part => name :: part.boundNames
  | .ignore part | .optional part | .repetition part _ => part.boundNames

def allBoundNames : List Node → List String
  | [] => []
  | part :: parts => part.boundNames ++ allBoundNames parts
end

theorem allBoundNames_singleton (node : Node) : allBoundNames [node] = node.boundNames := by
  rw [allBoundNames, allBoundNames, List.append_nil]

theorem allBoundNames_children (node : Node) :
    allBoundNames node.children ⊆ allBoundNames [node] := by
  intro name h
  rw [allBoundNames_singleton]
  cases node with
  | terminal | nested | rule => exact h
  | sequence | collect | alternation =>
    rw [boundNames]
    exact h
  | «attribute» =>
    rw [children, allBoundNames_singleton] at h
    rw [boundNames]
    exact List.mem_cons_of_mem _ h
  | ignore | optional | repetition =>
    rw [children, allBoundNames_singleton] at h
    rw [boundNames]
    exact h

theorem allBoundNames_head (part : Node) (parts : List Node) :
    allBoundNames [part] ⊆ allBoundNames (part :: parts) := by
  rw [allBoundNames_singleton, allBoundNames]
  exact List.subset_append_left _ _

theorem allBoundNames_tail (part : Node) (parts : List Node) :
    allBoundNames parts ⊆ allBoundNames (part :: parts) := by
  rw [allBoundNames]
  exact List.subset_append_right _ _

end Node

section Writes

variable [Engine] [Targets]

/-- On every record of the kind the task comes to the outcome and makes the writes. -/
structure Writes (m : Matcher) (depth : Nat) (kind : String) (task : Task) (cursor : Cursor)
    (outcome : Outcome Yield) (writes : List (String × Value)) : Prop where
  names : ∀ write ∈ writes, write.1 ∈ Node.allBoundNames task.nodes
  evaluates : ∀ attributes, Evaluates m depth task ⟨kind, .record, attributes⟩ cursor outcome
    ⟨kind, .record, attributes.insertAll writes⟩

/-- If the task was at work on a record, it left its writes on it. -/
def Factors (m : Matcher) (depth : Nat) (task : Task) (object : Object) (cursor : Cursor)
    (outcome : Outcome Yield) (after : Object) : Prop :=
  ∀ kind attributes, object = ⟨kind, .record, attributes⟩ →
    ∃ writes, Writes m depth kind task cursor outcome writes ∧
      after = ⟨kind, .record, attributes.insertAll writes⟩

section Factors

variable {m : Matcher} {depth : Nat} {task task' whole : Task} {object between after : Object}
  {cursor next : Cursor} {outcome outcome' : Outcome Yield}

private theorem Factors.of_frame
    (h : ∀ other, Evaluates m depth task other cursor outcome other) :
    Factors m depth task object cursor outcome object := by
  rintro kind attributes rfl
  exact ⟨[], ⟨fun _ hwrite => (List.not_mem_nil hwrite).elim, fun _ => h _⟩, rfl⟩

private theorem Factors.lift (h : Factors m depth task object cursor outcome after)
    (hnames : Node.allBoundNames task.nodes ⊆ Node.allBoundNames whole.nodes)
    (hwhole : ∀ {object after}, Evaluates m depth task object cursor outcome after →
      Evaluates m depth whole object cursor outcome' after) :
    Factors m depth whole object cursor outcome' after := by
  intro kind attributes hobject
  obtain ⟨writes, hwrites, hafter⟩ := h kind attributes hobject
  refine ⟨writes, ⟨?_, fun attributes => hwhole (hwrites.evaluates attributes)⟩, hafter⟩
  intro write hwrite
  exact hnames (hwrites.names write hwrite)

private theorem Factors.append (h : Factors m depth task object cursor outcome between)
    (h' : Factors m depth task' between next outcome' after)
    (hnames : Node.allBoundNames task.nodes ⊆ Node.allBoundNames whole.nodes)
    (hnames' : Node.allBoundNames task'.nodes ⊆ Node.allBoundNames whole.nodes)
    (hwhole : ∀ {object between after}, Evaluates m depth task object cursor outcome between →
      Evaluates m depth task' between next outcome' after →
      Evaluates m depth whole object cursor outcome' after) :
    Factors m depth whole object cursor outcome' after := by
  intro kind attributes hobject
  obtain ⟨writes, hwrites, hbetween⟩ := h kind attributes hobject
  obtain ⟨writes', hwrites', hafter⟩ := h' kind _ hbetween
  refine ⟨writes ++ writes', ⟨?_, ?_⟩, ?_⟩
  · intro write hwrite
    rcases List.mem_append.mp hwrite with hwrite | hwrite
    · exact hnames (hwrites.names write hwrite)
    · exact hnames' (hwrites'.names write hwrite)
  · intro attributes
    rw [NameMap.insertAll_append]
    exact hwhole (hwrites.evaluates attributes) (hwrites'.evaluates _)
  · rw [hafter, NameMap.insertAll_append]

end Factors

theorem Evaluates.enter_frame {m : Matcher} {depth : Nat} {reference : Reference}
    {object after : Object} {cursor : Cursor} {outcome : Outcome Yield}
    (h : Evaluates m depth (.enter reference) object cursor outcome after) (other : Object) :
    Evaluates m depth (.enter reference) other cursor outcome other := by
  cases h with
  | enterUnresolved hresolve => exact .enterUnresolved hresolve
  | enterTooDeep hresolve => exact .enterTooDeep hresolve
  | enter hresolve hbody => exact .enter hresolve hbody
  | enterFail hresolve hbody => exact .enterFail hresolve hbody

private theorem Factors.bound {m : Matcher} {depth : Nat} {name : String} {part : Node}
    {object after bound : Object} {cursor next : Cursor} {yield : Yield}
    (h : Factors m depth (.node part) object cursor (.ok (yield, next)) after)
    (hbind : bindYield name yield after = (.ok (), bound)) :
    Factors m depth (.node (.attribute name part)) object cursor (.ok (.target, next)) bound := by
  intro kind attributes hobject
  obtain ⟨writes, hwrites, rfl⟩ := h kind attributes hobject
  obtain ⟨value, rfl, rfl⟩ := bindYield_record_eq_ok hbind
  refine ⟨writes ++ [(name, value)], ⟨?_, ?_⟩, ?_⟩
  · intro write hwrite
    rcases List.mem_append.mp hwrite with hwrite | hwrite
    · exact Node.allBoundNames_children (.attribute name part) (hwrites.names write hwrite)
    · rw [List.mem_singleton.mp hwrite, Task.nodes, Node.allBoundNames_singleton, Node.boundNames]
      exact List.mem_cons_self
  · intro attributes
    rw [NameMap.insertAll_append]
    refine .attributeBound (hwrites.evaluates attributes) ?_
    rw [bindYield, Targets.set_record]
    rfl
  · rw [NameMap.insertAll_append]
    rfl

private theorem Factors.refused {m : Matcher} {depth : Nat} {name : String} {part : Node}
    {object after refused : Object} {cursor next : Cursor} {yield : Yield} {failure : Failure}
    (h : Factors m depth (.node part) object cursor (.ok (yield, next)) after)
    (hbind : bindYield name yield after = (.error failure, refused)) :
    Factors m depth (.node (.attribute name part)) object cursor (.error failure) refused := by
  intro kind attributes hobject
  obtain ⟨writes, hwrites, rfl⟩ := h kind attributes hobject
  obtain ⟨rfl, rfl, rfl⟩ := bindYield_record_eq_error hbind
  refine ⟨writes, ⟨?_, ?_⟩, rfl⟩
  · intro write hwrite
    exact Node.allBoundNames_children (.attribute name part) (hwrites.names write hwrite)
  · intro attributes
    exact .attributeRefused (hwrites.evaluates attributes) rfl

theorem Evaluates.factors {m : Matcher} {depth : Nat} {task : Task} {object after : Object}
    {cursor : Cursor} {outcome : Outcome Yield}
    (h : Evaluates m depth task object cursor outcome after) :
    Factors m depth task object cursor outcome after := by
  induction h with
  | terminal pattern => exact .of_frame fun _ => .terminal pattern
  | nested h _ => exact .of_frame fun other => .nested (h.enter_frame other)
  | rule h _ => exact .of_frame fun other => .rule (h.enter_frame other)
  | sequence _ ih => exact ih.lift (Node.allBoundNames_children (.sequence _)) .sequence
  | sequenceFail _ ih => exact ih.lift (Node.allBoundNames_children (.sequence _)) .sequenceFail
  | collect _ ih => exact ih.lift (Node.allBoundNames_children (.collect _)) .collect
  | alternation _ ih => exact ih.lift (Node.allBoundNames_children (.alternation _)) .alternation
  | attributeBound _ hbind ih => exact ih.bound hbind
  | attributeRefused _ hbind ih => exact ih.refused hbind
  | attributeFail _ ih =>
    exact ih.lift (Node.allBoundNames_children (.attribute _ _)) .attributeFail
  | ignore _ ih => exact ih.lift (Node.allBoundNames_children (.ignore _)) .ignore
  | ignoreFail _ ih => exact ih.lift (Node.allBoundNames_children (.ignore _)) .ignoreFail
  | optional _ ih => exact ih.lift (Node.allBoundNames_children (.optional _)) .optional
  | optionalSkip _ hrecover ih =>
    exact ih.lift (Node.allBoundNames_children (.optional _)) fun h => .optionalSkip h hrecover
  | optionalFail _ hrecover ih =>
    exact ih.lift (Node.allBoundNames_children (.optional _)) fun h => .optionalFail h hrecover
  | repetition _ ih => exact ih.lift (Node.allBoundNames_children (.repetition _ _)) .repetition
  | allNil => exact .of_frame fun _ => .allNil
  | allCons _ _ ih ih' =>
    exact ih.append ih' (Node.allBoundNames_head _ _) (Node.allBoundNames_tail _ _) .allCons
  | allFail _ ih => exact ih.lift (Node.allBoundNames_head _ _) .allFail
  | firstNil => exact .of_frame fun _ => .firstNil
  | firstOk _ ih => exact ih.lift (Node.allBoundNames_head _ _) .firstOk
  | firstNext _ hrecover _ ih ih' =>
    exact ih.append ih' (Node.allBoundNames_head _ _) (Node.allBoundNames_tail _ _)
      fun h h' => .firstNext h hrecover h'
  | firstFail _ hrecover ih =>
    exact ih.lift (Node.allBoundNames_head _ _) fun h => .firstFail h hrecover
  | loopEnd hend => exact .of_frame fun _ => .loopEnd hend
  | loopStop hend _ hrecover ih =>
    exact ih.lift (List.Subset.refl _) fun h => .loopStop hend h hrecover
  | loopStep hend _ hnext _ ih ih' =>
    exact ih.append ih' (List.Subset.refl _) (List.Subset.refl _)
      fun h h' => .loopStep hend h hnext h'
  | loopStuck hend _ hnext ih =>
    exact ih.lift (List.Subset.refl _) fun h => .loopStuck hend h hnext
  | loopFail hend _ hrecover ih =>
    exact ih.lift (List.Subset.refl _) fun h => .loopFail hend h hrecover
  | enterUnresolved hresolve => exact .of_frame fun _ => .enterUnresolved hresolve
  | enterTooDeep hresolve => exact .of_frame fun _ => .enterTooDeep hresolve
  | enter hresolve h _ => exact .of_frame fun _ => .enter hresolve h
  | enterFail hresolve h _ => exact .of_frame fun _ => .enterFail hresolve h

/-- A match on a record is an outcome and a list of writes that do not depend on what the record
holds. Success and failure alike leave all the writes on the record, the last one to a name counts,
and the names are those of the attributes in the grammar itself: references leave the object at
hand as it is, and nothing is ever unbound. -/
theorem Node.exists_run_record_eq (m : Matcher) (depth : Nat) (node : Node) (kind : String)
    (cursor : Cursor) :
    ∃ (outcome : Outcome Yield) (writes : List (String × Value)),
      (∀ attributes, node.run (m.enter depth) ⟨kind, .record, attributes⟩ cursor =
        (outcome, ⟨kind, .record, attributes.insertAll writes⟩)) ∧
      (∀ attributes name, (attributes.insertAll writes).find? name =
        (writes.reverse.lookup name).or (NameMap.find? attributes name)) ∧
      (∀ write ∈ writes, write.1 ∈ node.boundNames) ∧
      (∀ attributes name, NameMap.contains attributes name = true →
        (attributes.insertAll writes).contains name = true) ∧
      (∀ name object, ((Node.rule name).run (m.enter depth) object cursor).2 = object ∧
        ((Node.nested name).run (m.enter depth) object cursor).2 = object) := by
  rcases hrun : node.run (m.enter depth) ⟨kind, .record, []⟩ cursor with ⟨outcome, after⟩
  obtain ⟨writes, hwrites, _⟩ := (evaluates_iff_run.mpr hrun).factors kind [] rfl
  refine ⟨outcome, writes, ?_, ?_, ?_, ?_, ?_⟩
  · intro attributes
    exact evaluates_iff_run.mp (hwrites.evaluates attributes)
  · intro attributes name
    exact NameMap.find?_insertAll attributes writes name
  · intro write hwrite
    rw [← Node.allBoundNames_singleton]
    exact hwrites.names write hwrite
  · intro attributes name hname
    exact NameMap.contains_insertAll hname writes
  · intro name object
    exact ⟨rfl, rfl⟩

end Writes

-- An alternative that fails after it has bound an attribute leaves the binding behind.
example : Matcher.matchNode { }
    (.alternation [.sequence [.attribute "mark" (.terminal "a"), .terminal "b"], .terminal "a"])
    (Object.record "item") (Cursor.start ['a', 'c']) =
      (.ok (.value (.text "a"), ⟨1, ['c']⟩), ⟨"item", .record, [("mark", .text "a")]⟩) := rfl

end TextGrammar
