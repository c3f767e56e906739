import TextGrammar.Proofs.Combinators
import TextGrammar.RuleSet
import TextGrammar.Terminal
/-!
# Left recursion

A grammar whose first step always leads back to a rule in the same cycle never reads a character.
Each turn of the cycle takes one level of nesting, so the limit on nesting ends it, and nothing
recovers from that.
-/
namespace TextGrammar

namespace Node

/-- The rule that a match of the node follows before it does anything else, if there is one. -/
def lead : Node → Option String
  | .rule name => some name
  | .sequence (part :: _) | .collect (part :: _) | .alternation (part :: _) => part.lead
  | .attribute _ part | .ignore part | .optional part => part.lead
  | _ => none

/-- A fatal failure of the leading rule is that of the node. No combinator on the way has bound
anything, and none tries something else. -/
theorem run_of_lead [Engine] [Targets] {enter : Reference → Cursor → Outcome Value} {node : Node}
    {name : String} {cursor : Cursor} {failure : Failure} (hlead : node.lead = some name)
    (henter : enter (.rule name) cursor = .error failure)
    (hfatal : failure.isRecoverable = false) (object : Object) :
    node.run enter object cursor = (.error failure, object) := by
  fun_induction lead node with
  | case1 rule =>
    have hrule : rule = name := by simpa using hlead
    rw [run, hrule, henter, yieldObject]
  | case2 part parts ih =>
    have hpart := ih hlead
    simp only [run_sequence, runAll_cons, hpart, andThen_error]
  | case3 part parts ih =>
    have hpart := ih hlead
    simp only [run_collect, runAll_cons, hpart, andThen_error]
  | case4 part parts ih =>
    have hpart := ih hlead
    rw [run_alternation, tryAll_cons, hpart, recover_of_isFatal hfatal]
  | case5 _ part ih =>
    have hpart := ih hlead
    rw [run_attribute, hpart, andThen_error]
  | case6 part ih =>
    have hpart := ih hlead
    rw [run_ignore, hpart, andThen_error]
  | case7 part ih =>
    have hpart := ih hlead
    rw [run_optional, hpart, recover_of_isFatal hfatal]
  | case8 => simp at hlead

end Node

/-- Every one of the names is that of a rule, whose grammar leads to one of the names again. -/
def LeadsWithin (rules : NameMap Node) (names : String → Prop) : Prop :=
  ∀ name, names name →
    ∃ grammar next, rules.find? name = some grammar ∧ grammar.lead = some next ∧ names next

theorem Matcher.enter_of_leadsWithin [Engine] [Targets] {m : Matcher} {names : String → Prop}
    (hnames : LeadsWithin m.rules names) (depth : Nat) {name : String} (hname : names name)
    (cursor : Cursor) :
    m.enter depth (.rule name) cursor = .error (.tooDeep m.maxDepth cursor.offset) := by
  induction depth generalizing name with
  | zero =>
    obtain ⟨grammar, next, hfind, hlead, hnext⟩ := hnames name hname
    simp only [enter, resolve, hfind]
  | succ depth ih =>
    obtain ⟨grammar, next, hfind, hlead, hnext⟩ := hnames name hname
    have henter := ih hnext
    have hrun := Node.run_of_lead hlead henter rfl (Object.record name)
    simp only [enter, resolve, hfind, hrun]

/-- Left recursion never ends in a match. Take any names whose rules all lead to one of the names
again. A node that leads to one of them fails at the cursor where it is tried, with the limit on
nesting whatever it is, and leaves the object as it was; so every text fails at its start when it is
parsed by one of the rules. -/
theorem left_recursion_meets_limit [Engine] [Targets] (rules : NameMap Node)
    (names : String → Prop) (hnames : LeadsWithin rules names) :
    (∀ types limit node name object cursor, node.lead = some name → names name →
      (Matcher.mk rules types limit).matchNode node object cursor =
        (.error (.tooDeep limit cursor.offset), object)) ∧
    ∀ start limit name text, names name →
      (RuleSet.mk rules start limit).parse name text = .error (.tooDeep limit 0) := by
  have hmatch (types : Catalogue) (limit : Nat) (node : Node) (name : String) (object : Object)
      (cursor : Cursor) (hlead : node.lead = some name) (hname : names name) :
      (Matcher.mk rules types limit).matchNode node object cursor =
        (.error (.tooDeep limit cursor.offset), object) := by
    have henter :=
      Matcher.enter_of_leadsWithin (m := ⟨rules, types, limit⟩) hnames limit hname cursor
    exact Node.run_of_lead hlead henter rfl object
  constructor
  · exact hmatch
  · intro start limit name text hname
    obtain ⟨grammar, next, hfind, hlead, hnext⟩ := hnames name hname
    have hbody := hmatch ObjectType.standard limit grammar next (Object.record name)
      (Cursor.start text) hlead hnext
    simp only [RuleSet.parse, hfind]
    exact Matcher.parseObject_of_error hbody

/-- Sums that start with sums, through an alternative, an optional part and an attribute. -/
theorem left_recursion_meets_limit_sum :
    let sum : Node :=
      .alternation [.sequence [.optional (.rule "term"), .terminal "x"], .terminal "y"]
    let term : Node := .attribute "left" (.rule "sum")
    let rules : NameMap Node := [("sum", sum), ("term", term)]
    let names : String → Prop := fun name => name = "sum" ∨ name = "term"
    LeadsWithin rules names ∧
      (RuleSet.mk rules none 3).parse "sum" ['y'] = .error (.tooDeep 3 0) ∧
      (Matcher.mk rules ObjectType.standard 0).matchNode (.ignore (.rule "term"))
        (Object.record "test") ⟨2, ['x']⟩ = (.error (.tooDeep 0 2), Object.record "test") := by
  intro sum term rules names
  have hnames : LeadsWithin rules names := by
    intro name hname
    rcases hname with hname | hname
    · subst hname
      exact ⟨sum, "term", rfl, by rfl, .inr rfl⟩
    · subst hname
      exact ⟨term, "sum", rfl, by rfl, .inl rfl⟩
  obtain ⟨hmatch, hparse⟩ := left_recursion_meets_limit rules names hnames
  refine ⟨hnames, hparse none 3 "sum" ['y'] (.inl rfl), ?_⟩
  exact hmatch ObjectType.standard 0 _ "term" (Object.record "test") ⟨2, ['x']⟩ (by rfl) (.inr rfl)

end TextGrammar
