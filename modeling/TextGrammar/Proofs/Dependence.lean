import TextGrammar.Proofs.Reachability
import TextGrammar.Proofs.RecordWrites
import TextGrammar.RuleSet
import TextGrammar.Terminal
/-!
# What a parse depends on

A match resolves names only on the way that the input takes, and every name on any way is reachable
from its grammar. So the definitions of reachable rules decide a match, and all others may differ.
-/
namespace TextGrammar

/-- A match stays within references that are closed under what they stand for, so a matcher that
resolves these alike takes the same way. -/
theorem Evaluates.of_resolve [Engine] [Targets] {m m' : Matcher} {allowed : Reference → Prop}
    (hclosed : m.Closed allowed)
    (hresolve : ∀ reference, allowed reference → m'.resolve reference = m.resolve reference)
    (hdepth : m'.maxDepth = m.maxDepth) {depth : Nat} {task : Task} {object after : Object}
    {cursor : Cursor} {outcome : Outcome Yield}
    (h : Evaluates m depth task object cursor outcome after) :
    (∀ node ∈ task.nodes, node.RefersTo allowed) →
      Evaluates m' depth task object cursor outcome after := by
  induction h with
  | terminal pattern =>
    intro _
    exact .terminal pattern
  | nested _ ih =>
    intro hnodes
    exact .nested (ih hnodes)
  | rule _ ih =>
    intro hnodes
    exact .rule (ih hnodes)
  | sequence _ ih =>
    intro hnodes
    exact .sequence (ih (Node.RefersTo.of_node hnodes))
  | sequenceFail _ ih =>
    intro hnodes
    exact .sequenceFail (ih (Node.RefersTo.of_node hnodes))
  | collect _ ih =>
    intro hnodes
    exact .collect (ih (Node.RefersTo.of_node hnodes))
  | alternation _ ih =>
    intro hnodes
    exact .alternation (ih (Node.RefersTo.of_node hnodes))
  | attributeBound _ hbind ih =>
    intro hnodes
    exact .attributeBound (ih (Node.RefersTo.of_node hnodes)) hbind
  | attributeRefused _ hbind ih =>
    intro hnodes
    exact .attributeRefused (ih (Node.RefersTo.of_node hnodes)) hbind
  | attributeFail _ ih =>
    intro hnodes
    exact .attributeFail (ih (Node.RefersTo.of_node hnodes))
  | ignore _ ih =>
    intro hnodes
    exact .ignore (ih (Node.RefersTo.of_node hnodes))
  | ignoreFail _ ih =>
    intro hnodes
    exact .ignoreFail (ih (Node.RefersTo.of_node hnodes))
  | optional _ ih =>
    intro hnodes
    exact .optional (ih (Node.RefersTo.of_node hnodes))
  | optionalSkip _ hrecover ih =>
    intro hnodes
    exact .optionalSkip (ih (Node.RefersTo.of_node hnodes)) hrecover
  | optionalFail _ hrecover ih =>
    intro hnodes
    exact .optionalFail (ih (Node.RefersTo.of_node hnodes)) hrecover
  | repetition _ ih =>
    intro hnodes
    exact .repetition (ih (Node.RefersTo.of_node hnodes))
  | allNil =>
    intro _
    exact .allNil
  | allCons _ _ ih ih' =>
    intro hnodes
    obtain ⟨hpart, hparts⟩ := List.forall_mem_cons.mp hnodes
    exact .allCons (ih (List.forall_mem_singleton.mpr hpart)) (ih' hparts)
  | allFail _ ih =>
    intro hnodes
    exact .allFail (ih (List.forall_mem_singleton.mpr (List.forall_mem_cons.mp hnodes).1))
  | firstNil =>
    intro _
    exact .firstNil
  | firstOk _ ih =>
    intro hnodes
    exact .firstOk (ih (List.forall_mem_singleton.mpr (List.forall_mem_cons.mp hnodes).1))
  | firstNext _ hrecover _ ih ih' =>
    intro hnodes
    obtain ⟨hpart, hparts⟩ := List.forall_mem_cons.mp hnodes
    exact .firstNext (ih (List.forall_mem_singleton.mpr hpart)) hrecover (ih' hparts)
  | firstFail _ hrecover ih =>
    intro hnodes
    have hnode := List.forall_mem_singleton.mpr (List.forall_mem_cons.mp hnodes).1
    exact .firstFail (ih hnode) hrecover
  | loopEnd hend =>
    intro _
    exact .loopEnd hend
  | loopStop hend _ hrecover ih =>
    intro hnodes
    exact .loopStop hend (ih hnodes) hrecover
  | loopStep hend _ hmoved _ ih ih' =>
    intro hnodes
    exact .loopStep hend (ih hnodes) hmoved (ih' hnodes)
  | loopStuck hend _ hmoved ih =>
    intro hnodes
    exact .loopStuck hend (ih hnodes) hmoved
  | loopFail hend _ hrecover ih =>
    intro hnodes
    exact .loopFail hend (ih hnodes) hrecover
  | enterUnresolved hfailed =>
    intro hnodes
    rw [← hresolve _ (Node.RefersTo.of_enter hnodes)] at hfailed
    exact .enterUnresolved hfailed
  | enterTooDeep hfound =>
    intro hnodes
    rw [← hresolve _ (Node.RefersTo.of_enter hnodes)] at hfound
    rw [← hdepth]
    exact .enterTooDeep hfound
  | enter hfound _ ih =>
    intro hnodes
    have hallowed := Node.RefersTo.of_enter hnodes
    have hbody := ih (List.forall_mem_singleton.mpr (hclosed _ _ _ hallowed hfound))
    rw [← hresolve _ hallowed] at hfound
    exact .enter hfound hbody
  | enterFail hfound _ ih =>
    intro hnodes
    have hallowed := Node.RefersTo.of_enter hnodes
    have hbody := ih (List.forall_mem_singleton.mpr (hclosed _ _ _ hallowed hfound))
    rw [← hresolve _ hallowed] at hfound
    exact .enterFail hfound hbody

theorem Matcher.matchNode_congr [Engine] [Targets] {m m' : Matcher} {node : Node}
    (htypes : m'.types = m.types) (hdepth : m'.maxDepth = m.maxDepth)
    (hrules : ∀ name, m.Reachable node (.rule name) → m'.rules.find? name = m.rules.find? name)
    (object : Object) (cursor : Cursor) :
    m'.matchNode node object cursor = m.matchNode node object cursor := by
  have hresolve : ∀ reference, m.Reachable node reference →
      m'.resolve reference = m.resolve reference := by
    intro reference hreachable
    cases reference with
    | rule name => rw [resolve, resolve, hrules name hreachable]
    | type name => rw [resolve, resolve, htypes]
  have hsame := (evaluates_matchNode m node object cursor).of_resolve (m.closed_reachable node)
    hresolve hdepth (List.forall_mem_singleton.mpr (m.refersTo_reachable node))
  rw [← hdepth] at hsame
  exact evaluates_iff_run.mp hsame

theorem Matcher.Reachable.trans {m : Matcher} {node grammar : Node} {reference further : Reference}
    {fresh : Object} (h : m.Reachable node reference)
    (hresolve : m.resolve reference = .ok (grammar, fresh))
    (hfurther : m.Reachable grammar further) :
    m.Reachable node further := by
  induction hfurther with
  | occurs hoccurs => exact .follows h hresolve hoccurs
  | follows _ hresolve' hoccurs ih => exact .follows ih hresolve' hoccurs

namespace RuleSet

theorem parse_congr [Engine] [Targets] {set set' : RuleSet} {name : String}
    (hdepth : set'.maxDepth = set.maxDepth)
    (hrules : ∀ other, set.matcher.Reachable (.rule name) (.rule other) →
      set'.rules.find? other = set.rules.find? other)
    (text : List Char) : set'.parse name text = set.parse name text := by
  have hname : set.matcher.Reachable (.rule name) (.rule name) :=
    .occurs (List.mem_singleton_self _)
  rw [parse, parse, hrules name hname]
  cases hfind : set.rules.find? name with
  | none => rfl
  | some grammar =>
    have hresolve : set.matcher.resolve (.rule name) = .ok (grammar, Object.record name) := by
      simp only [Matcher.resolve, matcher, hfind]
    have htypes : set'.matcher.types = set.matcher.types := rfl
    have hbody (other : String) (hother : set.matcher.Reachable grammar (.rule other)) :
        set'.matcher.rules.find? other = set.matcher.rules.find? other :=
      hrules other (hname.trans hresolve hother)
    simp only [Matcher.parseObject, Matcher.parseInto,
      Matcher.matchNode_congr htypes hdepth hbody]

def defineAll (set : RuleSet) (definitions : List (String × Node)) : RuleSet :=
  definitions.foldl (fun set definition => set.define definition.1 definition.2) set

theorem defineAll_eq (set : RuleSet) (definitions : List (String × Node)) :
    set.defineAll definitions = { set with rules := set.rules.insertAll definitions } := by
  induction definitions generalizing set with
  | nil => rfl
  | cons definition definitions ih =>
    rw [defineAll, List.foldl_cons, ← defineAll, ih]
    rfl

end RuleSet

theorem NameMap.find?_insertAll_perm {α : Type} {entries entries' : List (String × α)}
    (hperm : entries.Perm entries') (hnodup : (entries.map Prod.fst).Nodup) (map : NameMap α)
    (name : String) : (map.insertAll entries').find? name = (map.insertAll entries).find? name := by
  induction hperm generalizing map with
  | nil => rfl
  | cons entry _ ih => exact ih (List.nodup_cons.mp hnodup).2 (map.insert entry.1 entry.2)
  | swap first second entries =>
    have hne : second.1 ≠ first.1 := by
      intro heq
      exact (List.nodup_cons.mp hnodup).1 (by simp [heq])
    rw [insertAll, insertAll, List.foldl_cons, List.foldl_cons, List.foldl_cons, List.foldl_cons,
      ← insertAll, ← insertAll, find?_insertAll, find?_insertAll]
    congr 1
    simp only [find?_insert]
    by_cases hname : name = first.1
    · simp [hname, hne.symm]
    · simp [hname]
  | trans hperm _ ih ih' =>
    rw [ih' ((hperm.map Prod.fst).nodup_iff.mp hnodup), ih hnodup]

/-- A match depends on nothing but the rules that can be reached from its grammar: under rules that
agree on these it comes to the same outcome and the same object. So a parse stays the same when
rules out of its reach are defined or defined anew, when the start rule changes, and when rules are
defined in another order. -/
theorem parse_depends_only_on_reachable [Engine] [Targets] :
    (∀ (m m' : Matcher) (node : Node), m'.types = m.types → m'.maxDepth = m.maxDepth →
      (∀ name, m.Reachable node (.rule name) → m'.rules.find? name = m.rules.find? name) →
      ∀ (object : Object) (cursor : Cursor),
        m'.matchNode node object cursor = m.matchNode node object cursor) ∧
    ∀ (set : RuleSet) (name : String) (text : List Char),
      (∀ set' : RuleSet, set'.maxDepth = set.maxDepth →
        (∀ other, set.matcher.Reachable (.rule name) (.rule other) →
          set'.rules.find? other = set.rules.find? other) →
        set'.parse name text = set.parse name text) ∧
      (∀ other grammar, ¬ set.matcher.Reachable (.rule name) (.rule other) →
        (set.define other grammar).parse name text = set.parse name text) ∧
      (∀ start, { set with start := start }.parse name text = set.parse name text) ∧
      ∀ definitions definitions' : List (String × Node), definitions.Perm definitions' →
        (definitions.map Prod.fst).Nodup →
        (set.defineAll definitions').parse name text =
          (set.defineAll definitions).parse name text := by
  refine ⟨fun m m' node => Matcher.matchNode_congr, ?_⟩
  intro set name text
  refine ⟨?_, ?_, ?_, ?_⟩
  · intro set' hdepth hrules
    exact RuleSet.parse_congr hdepth hrules text
  · intro other grammar hother
    apply RuleSet.parse_congr
    · rfl
    · intro reached hreached
      have hne : reached ≠ other := by
        rintro rfl
        exact hother hreached
      rw [RuleSet.define, NameMap.find?_insert, if_neg hne]
  · intro start
    exact RuleSet.parse_congr rfl (fun _ _ => rfl) text
  · intro definitions definitions' hperm hnodup
    rw [RuleSet.defineAll_eq, RuleSet.defineAll_eq]
    apply RuleSet.parse_congr
    · rfl
    · intro other _
      exact NameMap.find?_insertAll_perm hperm hnodup set.rules other

/-- The rule `other` is out of reach of the two rules that refer to each other and to a type. -/
theorem parse_depends_only_on_reachable_pair :
    let first : Node := .collect [.terminal "a", .optional (.rule "second")]
    let second : Node := .collect [.nested "Word", .optional (.rule "first")]
    let set : RuleSet := { rules := [("first", first), ("second", second)] }
    let set' := set.define "other" (.terminal "(")
    let object := Object.record "test"
    ¬ set.matcher.Reachable (.rule "first") (.rule "other") ∧
      set'.parse "first" ['a', 'b'] = set.parse "first" ['a', 'b'] ∧
      set'.matcher.matchNode (.rule "first") object (Cursor.start ['a', 'b']) =
        set.matcher.matchNode (.rule "first") object (Cursor.start ['a', 'b']) ∧
      (RuleSet.defineAll { } [("second", second), ("first", first)]).parse "first" ['a', 'b'] =
        (RuleSet.defineAll { } [("first", first), ("second", second)]).parse "first" ['a', 'b'] := by
  intro first second set set' object
  have hclosed : set.matcher.Closed (· ∈ [.rule "first", .rule "second", .type "Word"]) := by
    intro reference grammar fresh hallowed hresolve
    simp only [List.mem_cons, List.not_mem_nil, or_false] at hallowed
    rcases hallowed with rfl | rfl | rfl <;> cases hresolve <;> decide
  have hother : ¬ set.matcher.Reachable (.rule "first") (.rule "other") := by
    intro hreachable
    have hmem := hreachable.of_closed (by decide) hclosed
    simp at hmem
  have hagree : ∀ name, set.matcher.Reachable (.rule "first") (.rule name) →
      set'.rules.find? name = set.rules.find? name := by
    intro name hname
    have hne : name ≠ "other" := by
      rintro rfl
      exact hother hname
    rw [show set'.rules = set.rules.insert "other" (.terminal "(") from rfl,
      NameMap.find?_insert, if_neg hne]
  obtain ⟨hmatch, hparse⟩ := parse_depends_only_on_reachable
  refine ⟨hother, ?_, ?_, ?_⟩
  · exact (hparse set "first" ['a', 'b']).2.1 "other" (.terminal "(") hother
  · exact hmatch set.matcher set'.matcher (.rule "first") rfl rfl hagree object _
  · exact (hparse { } "first" ['a', 'b']).2.2.2 _ _ (.swap _ _ _) (by decide)

end TextGrammar
