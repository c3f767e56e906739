import TextGrammar.Proofs.DepthLimit
import TextGrammar.Proofs.Reachability
import TextGrammar.Terminal
/-!
# What failures say

A failure that a match ends in may come from far below, after many others that were recovered from.
Whatever it names stands in a grammar that the match can come to, and what it says about a position
of the text holds there.
-/
namespace TextGrammar

namespace Node

mutual
theorem subtrees_trans : (root : Node) → {middle : Node} → middle ∈ root.subtrees →
    middle.subtrees ⊆ root.subtrees
  | .terminal _, middle, h | .nested _, middle, h | .rule _, middle, h => by
    rw [subtrees, List.mem_singleton] at h
    rw [h]
    exact List.Subset.refl _
  | .sequence parts, middle, h | .collect parts, middle, h | .alternation parts, middle, h => by
    rw [subtrees] at h
    rcases List.mem_cons.mp h with rfl | h
    · exact List.Subset.refl _
    · rw [subtrees]
      exact List.subset_cons_of_subset _ (allSubtrees_trans parts h)
  | .attribute _ part, middle, h | .ignore part, middle, h | .optional part, middle, h
  | .repetition part _, middle, h => by
    rw [subtrees] at h
    rcases List.mem_cons.mp h with rfl | h
    · exact List.Subset.refl _
    · rw [subtrees]
      exact List.subset_cons_of_subset _ (subtrees_trans part h)

theorem allSubtrees_trans : (parts : List Node) → {middle : Node} → middle ∈ allSubtrees parts →
    middle.subtrees ⊆ allSubtrees parts
  | part :: parts, middle, h => by
    rw [allSubtrees] at h ⊢
    rcases List.mem_append.mp h with h | h
    · exact List.subset_append_of_subset_left _ (subtrees_trans part h)
    · exact List.subset_append_of_subset_right _ (allSubtrees_trans parts h)
end

end Node

namespace Matcher

section Occurrence

variable {m : Matcher} {root node part : Node}

/-- A grammar within `root`, or within what a reference stands for that is reachable from it. -/
def Occurs (m : Matcher) (root node : Node) : Prop :=
  node ∈ root.subtrees ∨
    ∃ reference grammar fresh, m.Reachable root reference ∧
      m.resolve reference = .ok (grammar, fresh) ∧ node ∈ grammar.subtrees

theorem Occurs.self (m : Matcher) (root : Node) : m.Occurs root root :=
  .inl root.mem_subtrees_self

theorem Occurs.subtree {grammar : Node} (h : m.Occurs root grammar)
    (hnode : node ∈ grammar.subtrees) : m.Occurs root node := by
  rcases h with h | ⟨reference, body, fresh, hreachable, hresolve, h⟩
  · exact .inl (root.subtrees_trans h hnode)
  · exact .inr ⟨reference, body, fresh, hreachable, hresolve, body.subtrees_trans h hnode⟩

theorem Occurs.child (h : m.Occurs root node) (hpart : part ∈ node.children) :
    m.Occurs root part :=
  h.subtree (Node.subtrees_children hpart part.mem_subtrees_self)

theorem Occurs.reachable {reference : Reference} (h : m.Occurs root node)
    (hnode : node.reference? = some reference) : m.Reachable root reference := by
  rcases h with h | ⟨outer, grammar, fresh, hreachable, hresolve, h⟩
  · exact .occurs (List.mem_filterMap.mpr ⟨node, h, hnode⟩)
  · exact .follows hreachable hresolve (List.mem_filterMap.mpr ⟨node, h, hnode⟩)

theorem Occurs.follow {reference : Reference} {grammar : Node} {fresh : Object}
    (h : m.Occurs root node) (hnode : node.reference? = some reference)
    (hresolve : m.resolve reference = .ok (grammar, fresh)) : m.Occurs root grammar :=
  .inr ⟨reference, grammar, fresh, h.reachable hnode, hresolve, grammar.mem_subtrees_self⟩

theorem Occurs.mem_of_rule {grammar : Node} {name : String}
    (hfind : m.rules.find? name = some grammar) (hroot : root.RefersTo (· = .rule name))
    (hgrammar : grammar.RefersTo (· = .rule name)) (h : m.Occurs root node) :
    node ∈ root.subtrees ∨ node ∈ grammar.subtrees := by
  rcases h with h | ⟨reference, found, fresh, hreachable, hresolve, h⟩
  · exact .inl h
  · cases reachable_eq_rule hfind hroot hgrammar hreachable
    obtain ⟨hfound, _⟩ := resolve_rule_eq_ok hresolve
    rw [hfind] at hfound
    cases hfound
    exact .inr h

end Occurrence

/-- What a failure says, of a match of `root` somewhere in `text`. -/
def Justifies [Engine] [Targets] (m : Matcher) (root : Node) (text : List Char) : Failure → Prop
  | .mismatch pattern position =>
    m.Occurs root (.terminal pattern) ∧
      ∃ program rest, Engine.compile pattern = some program ∧
        dropBytes? position text = some rest ∧ Engine.matchLength? program rest = none
  | .noAlternative attempted _ =>
    ∃ parts, m.Occurs root (.alternation parts) ∧ attempted = parts.map Node.render
  | .tooFew _ => ∃ part, m.Occurs root (.repetition part false)
  | .unrecognized part =>
    ∃ name, m.Occurs root (.rule name) ∧ m.rules.find? name = none ∧
      Failure.unrecognized part = .undefinedRule name
  | .invalidPattern pattern =>
    m.Occurs root (.terminal pattern) ∧ Engine.compile pattern = none
  | .refusedBinding _ name _ => ∃ part, m.Occurs root (.attribute name part)
  | .noProgress position =>
    position < byteLength text ∧
      ∃ part allowZero, m.Occurs root (.repetition part allowZero) ∧
        ∃ rest object yield after, dropBytes? position text = some rest ∧
          m.matchNode part object ⟨position, rest⟩ = (.ok (yield, ⟨position, rest⟩), after)
  | .tooDeep limit _ => limit = m.maxDepth
  | .trailingInput _ => False

end Matcher

def Task.OccursIn (m : Matcher) (root : Node) : Task → Prop
  | .node grammar => m.Occurs root grammar
  | .all _ parts => ∀ part ∈ parts, m.Occurs root part
  | .first parts untried =>
    m.Occurs root (.alternation parts) ∧ ∀ part ∈ untried, m.Occurs root part
  | .loop part allowZero .. => m.Occurs root (.repetition part allowZero)
  | .enter (.rule name) => m.Occurs root (.rule name)
  | .enter (.type name) => m.Occurs root (.nested name)

section Justification

variable [Engine] [Targets]

def EndsJustified (m : Matcher) (root : Node) (text : List Char) : Outcome Yield → Prop
  | .ok _ => True
  | .error failure => m.Justifies root text failure

section

variable {m : Matcher} {root : Node} {text : List Char} {cursor : Cursor}

theorem matchTerminal_endsJustified (hin : cursor.IsIn text) {pattern : String}
    (hoccurs : m.Occurs root (.terminal pattern)) :
    EndsJustified m root text (matchTerminal pattern cursor) := by
  obtain ⟨hnone, h⟩ | ⟨program, hprogram, ⟨hmatch, h⟩ | ⟨length, _, h⟩⟩ :=
    matchTerminal_cases pattern cursor
  · rw [h]
    exact ⟨hoccurs, hnone⟩
  · rw [h]
    exact ⟨hoccurs, program, cursor.rest, hprogram, hin.dropBytes?, hmatch⟩
  · rw [h]
    trivial

theorem finishLoop_endsJustified {part : Node} {allowZero : Bool}
    (hoccurs : m.Occurs root (.repetition part allowZero)) (start : Nat) (values : List Value)
    (bound : Bool) :
    EndsJustified m root text (finishLoop allowZero start values bound cursor) := by
  unfold finishLoop
  split
  · next hfew =>
    simp only [Bool.and_eq_true, Bool.not_eq_true'] at hfew
    rw [hfew.2] at hoccurs
    exact ⟨part, hoccurs⟩
  · trivial

/-- A repeated part that did not move has matched nothing where it stands, and does so with all
levels of nesting to spare too. -/
theorem loopStuck_endsJustified {depth : Nat} {part : Node} {allowZero : Bool}
    {object after : Object} {yield : Yield} {next : Cursor} (hdepth : depth ≤ m.maxDepth)
    (hin : cursor.IsIn text) (hoccurs : m.Occurs root (.repetition part allowZero))
    (hend : cursor.isAtEnd = false)
    (h : Evaluates m depth (.node part) object cursor (.ok (yield, next)) after)
    (hsame : next.offset = cursor.offset) :
    EndsJustified m root text (.error (.noProgress cursor.offset)) := by
  have hbefore : cursor.offset < byteLength text := by
    have hnot := mt hin.isAtEnd_iff.mpr (by simp [hend])
    omega
  have hnext := h.reaches.eq_of_offset_eq hsame
  have hfull := h.withMaxDepth m.maxDepth (m.maxDepth - depth) (.inr (.ok _))
  rw [Nat.add_sub_cancel' hdepth, hnext] at hfull
  exact ⟨hbefore, part, allowZero, hoccurs, cursor.rest, object, yield, after, hin.dropBytes?,
    evaluates_iff_run.mp hfull⟩

end

theorem Evaluates.endsJustified {m : Matcher} {root : Node} {text : List Char} {depth : Nat}
    {task : Task} {object after : Object} {cursor : Cursor} {outcome : Outcome Yield}
    (h : Evaluates m depth task object cursor outcome after) :
    depth ≤ m.maxDepth → cursor.IsIn text → task.OccursIn m root →
      EndsJustified m root text outcome := by
  induction h with
  | terminal pattern =>
    intro _ hin hoccurs
    exact matchTerminal_endsJustified hin hoccurs
  | nested _ ih | rule _ ih =>
    intro hdepth hin hoccurs
    exact ih hdepth hin hoccurs
  | sequence | attributeBound | ignore | optionalSkip | allNil | enter =>
    intro _ _ _
    trivial
  | sequenceFail _ ih | collect _ ih =>
    intro hdepth hin hoccurs
    exact ih hdepth hin fun part hpart => hoccurs.child hpart
  | alternation _ ih =>
    intro hdepth hin hoccurs
    exact ih hdepth hin ⟨hoccurs, fun part hpart => hoccurs.child hpart⟩
  | attributeRefused _ hbind =>
    intro _ _ hoccurs
    obtain ⟨_, rfl, _⟩ := bindYield_eq_error hbind
    exact ⟨_, hoccurs⟩
  | attributeFail _ ih | ignoreFail _ ih | optional _ ih | optionalFail _ _ ih =>
    intro hdepth hin hoccurs
    exact ih hdepth hin (hoccurs.child (List.mem_singleton_self _))
  | repetition _ ih =>
    intro hdepth hin hoccurs
    exact ih hdepth hin hoccurs
  | allCons hpart _ _ ih =>
    intro hdepth hin hoccurs
    exact ih hdepth (hin.of_reaches hpart.reaches) (List.forall_mem_cons.mp hoccurs).2
  | allFail _ ih =>
    intro hdepth hin hoccurs
    exact ih hdepth hin (List.forall_mem_cons.mp hoccurs).1
  | firstNil =>
    intro _ _ hoccurs
    exact ⟨_, hoccurs.1, rfl⟩
  | firstNext _ _ _ _ ih =>
    intro hdepth hin hoccurs
    exact ih hdepth hin ⟨hoccurs.1, (List.forall_mem_cons.mp hoccurs.2).2⟩
  | firstOk _ ih | firstFail _ _ ih =>
    intro hdepth hin hoccurs
    exact ih hdepth hin (List.forall_mem_cons.mp hoccurs.2).1
  | loopEnd | loopStop =>
    intro _ _ hoccurs
    exact finishLoop_endsJustified hoccurs _ _ _
  | loopStep _ hpart _ _ _ ih =>
    intro hdepth hin hoccurs
    exact ih hdepth (hin.of_reaches hpart.reaches) hoccurs
  | loopStuck hend hpart hsame =>
    intro hdepth hin hoccurs
    exact loopStuck_endsJustified hdepth hin hoccurs hend hpart hsame
  | loopFail _ _ _ ih =>
    intro hdepth hin hoccurs
    exact ih hdepth hin (hoccurs.child (List.mem_singleton_self _))
  | enterUnresolved hresolve =>
    intro _ _ hoccurs
    obtain ⟨name, rfl, hfind, rfl⟩ := Matcher.resolve_eq_error hresolve
    exact ⟨name, hoccurs, hfind, rfl⟩
  | enterTooDeep =>
    intro _ _ _
    rfl
  | @enterFail _ _ _ reference grammar _ _ _ hresolve _ ih =>
    intro hdepth hin hoccurs
    have hgrammar : m.Occurs root grammar := by
      cases reference with
      | rule name => exact Matcher.Occurs.follow hoccurs rfl hresolve
      | type name => exact Matcher.Occurs.follow hoccurs rfl hresolve
    exact ih (Nat.le_of_succ_le hdepth) hin hgrammar

/-- Every failure that a match ends in is justified. A mismatch names a terminal that the match can
come to and a place where it does not match, a failed alternation lists the parts of one in order, a
repetition that came to too little is one that has to contribute, an unknown rule is referred to and
not defined, an invalid pattern is that of a terminal. Where no progress was made text is left, and
a repeated part matches there without consuming any; the limit reported is that of the matcher, and
input left over is never reported. -/
theorem Matcher.matchNode_failure_justified (m : Matcher) (node : Node) (object : Object)
    (text : List Char) (cursor : Cursor) (hin : cursor.IsIn text) (failure : Failure)
    (h : (m.matchNode node object cursor).1 = .error failure) : m.Justifies node text failure := by
  have hend := (evaluates_matchNode m node object cursor).endsJustified (Nat.le_refl _) hin
    (.self m node)
  rw [h] at hend
  exact hend

end Justification

/-- The loop of a rule does not move behind the first letter, which is two bytes long; without the
rule the alternation fails there. -/
theorem Matcher.matchNode_failure_justified_item :
    let item : Node := .repetition (.optional (.terminal "x")) false
    let m : Matcher := { rules := [("item", item)] }
    let stuck : Node :=
      .collect [.terminal "é", .optional (.alternation [.terminal "a", .rule "item"])]
    let bare : Node :=
      .collect [.terminal "é", .alternation [.terminal "a", .ignore (.terminal "b")]]
    let object := Object.record "test"
    let text := ['é', 'y']
    (Cursor.start text).IsIn text ∧
      (m.matchNode stuck object (Cursor.start text)).1 = .error (.noProgress 2) ∧
      m.Justifies stuck text (.noProgress 2) ∧
      (m.matchNode bare object (Cursor.start text)).1 = .error (.noAlternative ["/a/", "~/b/"] 2) ∧
      m.Justifies bare text (.noAlternative ["/a/", "~/b/"] 2) := by
  intro item m stuck bare object text
  have hin : (Cursor.start text).IsIn text := .refl _
  have hstuck : (m.matchNode stuck object (Cursor.start text)).1 = .error (.noProgress 2) := by rfl
  have hbare : (m.matchNode bare object (Cursor.start text)).1 =
      .error (.noAlternative ["/a/", "~/b/"] 2) := by rfl
  refine ⟨hin, hstuck, ?_, hbare, ?_⟩
  · exact m.matchNode_failure_justified stuck object text _ hin _ hstuck
  · exact m.matchNode_failure_justified bare object text _ hin _ hbare

end TextGrammar
